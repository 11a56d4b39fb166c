import Mathlib.Tactic.Lemma
import TypeShape.Session

/-!
# What a session tells of instances

A session keeps a table of the instances that it has handed out, and from it an answer names the
first command that handed out the same one. The table can be told from the commands alone: `handedOut`
is what each of them hands out, and the table has each instance with its first place in this list
(`Noted`). So the answers are what is handed out, each with the first of the earlier ones that is the
same instance (`run_shown`). The memos of a session, for their part, are memos after a run of requests
(`memoAt_after`), so all that holds of these runs holds of them.
-/

namespace TypeShape

/-- The request that a command makes, and where, in a session that works on the memo at `home`. -/
def Command.request? (home : Place) : Command → Option (Place × Request)
  | .parse key => some (home, .parse key)
  | .get key => some (home, .get key)
  | .insert key source =>
    (Descriptor.parse .standard source.degroup source.input).toOption.map fun d =>
      (home, .insert key d)
  | .clear => some (home, .clear)
  | .state | .isFlagSymbol _ => none
  | .entry key | .entryWith key _ => some (.shared, .parse key)

/-- The descriptor in a reply, if there is one. -/
def Reply.shown? : Reply → Option Shown
  | .outcome (.ok shown) => some shown
  | .surfaced (.ok parsed) => parsed.descriptor?
  | _ => none

namespace Session

variable {session : Session} {place : Place} {found : Instance}
  {handed : Option (Place × Instance)} {past : List (Option (Place × Instance))}

/-- What the memo at a place makes of a request. -/
def serveAt (session : Session) (place : Place) (request : Request) :
    Served (Option (Except Rejection Instance)) :=
  (session.memoAt place).serve (session.classifierAt place) request

/-- The instance that a request at a place hands out, if it hands one out. -/
def handsOutAt (session : Session) (place : Place) (request : Request) :
    Option (Place × Instance) :=
  match (session.serveAt place request).answer with
  | some (.ok found) => some (place, found)
  | _ => none

/-- The instance that a command hands out, if it hands one out. -/
def handsOut (session : Session) (command : Command) : Option (Place × Instance) :=
  (command.request? session.place).bind fun (place, request) => session.handsOutAt place request

/-- What commands hand out, one after the other. -/
def handedOut (session : Session) : List Command → List (Option (Place × Instance))
  | [] => []
  | command :: commands => session.handsOut command :: handedOut (session.step command).1 commands

/-- Whether it is the instance with this number from this place that is handed out. -/
def isInstance (place : Place) (serial : Nat) : Option (Place × Instance) → Bool
  | some (place', found) => (place, serial) == (place', found.serial)
  | none => false

/-- What is shown of an instance: the descriptor, and where the same instance was handed out first. -/
def showAfter (past : List (Option (Place × Instance))) (handed : Option (Place × Instance)) :
    Option Shown :=
  handed.map fun (place, found) =>
    ⟨found.descriptor, past.findIdx? (isInstance place found.serial)⟩

/-- The table of a session has each instance with its first place among those handed out. -/
structure Noted (past : List (Option (Place × Instance))) (session : Session) : Prop where
  count_eq : session.count = past.length
  lookup_eq : ∀ place serial,
    session.seen.lookup (place, serial) = past.findIdx? (isInstance place serial)

/-- A command was carried out and its instance is noted, but the command is not counted yet. -/
structure Notes (past : List (Option (Place × Instance))) (handed : Option (Place × Instance))
    (session : Session) : Prop where
  count_eq : session.count = past.length
  lookup_eq : ∀ place serial,
    session.seen.lookup (place, serial) = (past ++ [handed]).findIdx? (isInstance place serial)

/-- What is handed out is the instance with a number if it has the number. -/
lemma isInstance_iff {serial : Nat} :
    isInstance place serial handed = true ↔
      ∃ found, handed = some (place, found) ∧ found.serial = serial := by
  rcases handed with _ | ⟨place', found⟩
  · simp [isInstance]
  · simp only [isInstance, beq_iff_eq, Prod.mk.injEq, Option.some.injEq]
    constructor
    · rintro ⟨rfl, rfl⟩
      exact ⟨found, ⟨rfl, rfl⟩, rfl⟩
    · rintro ⟨_, ⟨rfl, rfl⟩, rfl⟩
      exact ⟨rfl, rfl⟩

/-- The first place among some that come first is that of the instance, with none before it. -/
lemma findIdx?_take_eq_some_iff {all : List (Option (Place × Instance))} {n first serial : Nat} :
    (all.take n).findIdx? (isInstance place serial) = some first ↔
      first < n ∧ (∃ found, all[first]? = some (some (place, found)) ∧ found.serial = serial) ∧
        ∀ earlier < first, ∀ found, all[earlier]? = some (some (place, found)) →
          found.serial ≠ serial := by
  rw [List.findIdx?_eq_some_iff_getElem]
  constructor
  · rintro ⟨bound, holds, before⟩
    rw [List.length_take, Nat.lt_min] at bound
    obtain ⟨found, eq, serial_eq⟩ := isInstance_iff.mp holds
    rw [List.getElem_take] at eq
    refine ⟨bound.1, ⟨found, List.getElem?_eq_some_iff.mpr ⟨bound.2, eq⟩, serial_eq⟩, ?_⟩
    intro earlier lt other at_earlier serial_eq
    obtain ⟨_, eq⟩ := List.getElem?_eq_some_iff.mp at_earlier
    apply before earlier lt
    rw [List.getElem_take]
    exact isInstance_iff.mpr ⟨other, eq, serial_eq⟩
  · rintro ⟨lt, ⟨found, at_first, serial_eq⟩, none_before⟩
    obtain ⟨bound, eq⟩ := List.getElem?_eq_some_iff.mp at_first
    refine ⟨?_, ?_, ?_⟩
    · rw [List.length_take, Nat.lt_min]
      exact ⟨lt, bound⟩
    · rw [List.getElem_take]
      exact isInstance_iff.mpr ⟨found, eq, serial_eq⟩
    · intro earlier earlier_lt holds
      rw [List.getElem_take] at holds
      obtain ⟨other, eq, serial_eq⟩ := isInstance_iff.mp holds
      exact none_before earlier earlier_lt other (List.getElem?_eq_some_iff.mpr ⟨_, eq⟩) serial_eq

/-- The first place among those before, or else at the end. -/
lemma findIdx?_snoc (place : Place) (serial : Nat) :
    (past ++ [handed]).findIdx? (isInstance place serial) =
      (past.findIdx? (isInstance place serial)).or
        (if isInstance place serial handed then some past.length else none) := by
  rw [List.findIdx?_append, List.findIdx?_singleton]
  cases isInstance place serial handed <;> simp

/-- An instance is shown with what the table says of it. -/
lemma showInstance_snd (session : Session) (place : Place) (found : Instance) :
    (session.showInstance place found).2 =
      ⟨found.descriptor, session.seen.lookup (place, found.serial)⟩ := by
  unfold showInstance
  cases session.seen.lookup (place, found.serial) <;> rfl

/-- An instance that is shown is in the table afterwards, and the others are as before. -/
lemma lookup_showInstance (session : Session) (place place' : Place) (found : Instance)
    (serial : Nat) :
    (session.showInstance place found).1.seen.lookup (place', serial) =
      (session.seen.lookup (place', serial)).or
        (if isInstance place' serial (some (place, found)) then some session.count else none) := by
  unfold showInstance isInstance
  cases first : session.seen.lookup (place, found.serial) with
  | some n =>
    by_cases same : (place', serial) = (place, found.serial)
    · rw [same, first]
      rfl
    · simp [same]
  | none =>
    show List.lookup _ (_ :: session.seen) = _
    rw [List.lookup_cons]
    by_cases same : (place', serial) = (place, found.serial)
    · rw [same, first]
      simp
    · simp [beq_eq_false_iff_ne.mpr same]

/-- Showing an instance touches nothing but the table. -/
lemma showInstance_fst (session : Session) (place : Place) (found : Instance) :
    (session.showInstance place found).1 =
      { session with seen := (session.showInstance place found).1.seen } := by
  unfold showInstance
  cases session.seen.lookup (place, found.serial) <;> rfl

namespace Noted

/-- Nothing was handed out in a new session. -/
lemma nil (empty : session.seen = []) (zero : session.count = 0) : Noted [] session where
  count_eq := zero
  lookup_eq place serial := by
    rw [empty]
    rfl

/-- The table says nothing of the memos. -/
lemma putMemo (h : Noted past session) (memo : Memo) (place : Place) :
    Noted past (session.putMemo memo place) := by
  cases place with
  | own => exact ⟨h.count_eq, h.lookup_eq⟩
  | shared => exact ⟨h.count_eq, h.lookup_eq⟩

/-- Nothing has to be noted where nothing is handed out. -/
lemma notes_none (h : Noted past session) : Notes past none session where
  count_eq := h.count_eq
  lookup_eq place serial := by
    rw [findIdx?_snoc, h.lookup_eq]
    exact Option.or_none.symm

/-- An instance is shown with its first place, and is in the table from then on. -/
lemma showInstance (h : Noted past session) (place : Place) (found : Instance) :
    Notes past (some (place, found)) (session.showInstance place found).1 ∧
      some (session.showInstance place found).2 = showAfter past (some (place, found)) := by
  refine ⟨⟨?_, fun place' serial => ?_⟩, ?_⟩
  · rw [showInstance_fst]
    exact h.count_eq
  · rw [lookup_showInstance, findIdx?_snoc, h.lookup_eq, h.count_eq]
  · rw [showInstance_snd, h.lookup_eq]
    rfl

/-- What is shown of an outcome is what is handed out. -/
lemma request (h : Noted past session) (place : Place) (request : Request) :
    Notes past (session.handsOutAt place request) (session.request place request).1 ∧
      (session.request place request).2.1.bind Except.toOption =
        showAfter past (session.handsOutAt place request) := by
  have kept := h.putMemo (session.serveAt place request).memo place
  unfold serveAt at kept
  unfold Session.request handsOutAt serveAt
  generalize (session.memoAt place).serve (session.classifierAt place) request = served at kept ⊢
  obtain ⟨memo, answer, events⟩ := served
  rcases answer with _ | (rejection | found)
  · exact ⟨kept.notes_none, rfl⟩
  · exact ⟨kept.notes_none, rfl⟩
  · exact kept.showInstance place found

end Noted

/-- A reply shows what is answered. -/
lemma shown?_replyOf (answer : Option (Except Rejection Shown)) :
    (replyOf answer).shown? = answer.bind Except.toOption := by
  rcases answer with _ | (_ | _) <;> rfl

/-- However a rejection is surfaced, a descriptor is shown as it is. -/
lemma shown?_surfaced (onReject : OnReject) (outcome : Except Rejection Shown) :
    (Reply.surfaced (onReject.apply outcome)).shown? = outcome.toOption := by
  cases outcome with
  | ok shown => rfl
  | error rejection => cases onReject <;> rfl

/-- A reply to a request shows what is handed out. -/
lemma Noted.reply (h : Noted past session) (place : Place) (request : Request) :
    Notes past (session.handsOutAt place request) (session.reply place request).1 ∧
      (session.reply place request).2.1.shown? =
        showAfter past (session.handsOutAt place request) := by
  obtain ⟨notes, shown⟩ := h.request place request
  exact ⟨notes, (shown?_replyOf _).trans shown⟩

/-- Every command notes what it hands out, and shows it with its first place. -/
lemma Noted.perform (h : Noted past session) (command : Command) :
    Notes past (session.handsOut command) (session.perform command).1 ∧
      (session.perform command).2.1.shown? = showAfter past (session.handsOut command) := by
  cases command with
  | parse key => exact h.reply session.place (.parse key)
  | get key => exact h.reply session.place (.get key)
  | clear => exact h.reply session.place .clear
  | state => exact ⟨h.notes_none, rfl⟩
  | isFlagSymbol c => exact ⟨h.notes_none, rfl⟩
  | entry key => exact h.reply .shared (.parse key)
  | insert key source =>
    simp only [Session.perform, handsOut, Command.request?]
    cases Descriptor.parse .standard source.degroup source.input with
    -- what is rejected is not stored, so nothing is handed out
    | error rejection => exact ⟨h.notes_none, rfl⟩
    | ok d => exact h.reply session.place (.insert key d)
  | entryWith key onReject =>
    obtain ⟨notes, shown⟩ := h.request .shared (.parse key)
    simp only [Session.perform]
    generalize session.request .shared (.parse key) = result at notes shown ⊢
    obtain ⟨after, answer, events⟩ := result
    cases answer with
    | none => exact ⟨notes, shown⟩
    | some outcome => exact ⟨notes, (shown?_surfaced onReject outcome).trans shown⟩

/-- A command that was carried out is counted. -/
lemma Noted.step (h : Noted past session) (command : Command) :
    Noted (past ++ [session.handsOut command]) (session.step command).1 ∧
      (session.step command).2.reply.shown? = showAfter past (session.handsOut command) := by
  obtain ⟨notes, shown⟩ := h.perform command
  refine ⟨⟨?_, notes.lookup_eq⟩, shown⟩
  rw [List.length_append, ← notes.count_eq]
  rfl

/-- What the answers of a session show, after what was handed out before. -/
lemma Noted.run (h : Noted past session) (commands : List Command) (n : Nat) :
    ((session.run commands)[n]?).map (·.reply.shown?) =
      ((session.handedOut commands)[n]?).map
        (showAfter (past ++ (session.handedOut commands).take n)) := by
  induction commands generalizing past session n with
  | nil => rfl
  | cons command commands ih =>
    obtain ⟨noted, shown⟩ := h.step command
    cases n with
    | zero =>
      rw [List.take_zero, List.append_nil]
      exact congrArg some shown
    | succ n =>
      have rest := ih noted n
      rw [List.append_assoc] at rest
      exact rest

/-- A new session shows what its commands hand out, each instance with the first of the earlier
commands that handed out the same one, and where nothing is handed out it shows nothing. -/
theorem run_shown (empty : session.seen = []) (zero : session.count = 0) (commands : List Command)
    (n : Nat) :
    ((session.run commands)[n]?).map (·.reply.shown?) =
      ((session.handedOut commands)[n]?).map
        (showAfter ((session.handedOut commands).take n)) :=
  (Noted.nil empty zero).run commands n

/-- The command that an answer names handed out the same instance, and none before it did. -/
theorem sameAs_eq_some_iff (empty : session.seen = []) (zero : session.count = 0)
    {commands : List Command} {n first : Nat} {record : Record} {shown : Shown}
    (recorded : (session.run commands)[n]? = some record) (shows : record.reply.shown? = some shown) :
    ∃ place found, (session.handedOut commands)[n]? = some (some (place, found)) ∧
      shown.descriptor = found.descriptor ∧
      (shown.sameAs = some first ↔
        first < n ∧
        (∃ same, (session.handedOut commands)[first]? = some (some (place, same)) ∧
          same.serial = found.serial) ∧
        ∀ earlier < first, ∀ other,
          (session.handedOut commands)[earlier]? = some (some (place, other)) →
          other.serial ≠ found.serial) := by
  have answered := run_shown empty zero commands n
  rw [recorded, Option.map_some, shows] at answered
  obtain ⟨handed, at_n, shown_eq⟩ := Option.map_eq_some_iff.mp answered.symm
  obtain ⟨⟨place, found⟩, rfl, rfl⟩ := Option.map_eq_some_iff.mp shown_eq
  exact ⟨place, found, at_n, rfl, findIdx?_take_eq_some_iff⟩

/-- The session after commands. -/
def after (session : Session) (commands : List Command) : Session :=
  commands.foldl (fun session command => (session.step command).1) session

/-- The requests that commands make at a place, in a session that works on the memo at `home`. -/
def requestsAt (home place : Place) (commands : List Command) : List Request :=
  commands.filterMap fun command =>
    (command.request? home).bind fun (place', request) =>
      if place' = place then some request else none

/-- A request touches the memo at its place and the table. -/
lemma request_fst (session : Session) (place : Place) (request : Request) :
    ∃ seen, (session.request place request).1 =
      { session.putMemo (session.serveAt place request).memo place with seen := seen } := by
  unfold Session.request serveAt
  generalize (session.memoAt place).serve (session.classifierAt place) request = served
  obtain ⟨memo, answer, events⟩ := served
  rcases answer with _ | (rejection | found)
  · exact ⟨_, rfl⟩
  · exact ⟨_, rfl⟩
  · exact ⟨_, showInstance_fst _ place found⟩

/-- A command with a request does what the request does, and is counted. -/
lemma step_of_request {command : Command} {request : Request}
    (h : command.request? session.place = some (place, request)) :
    (session.step command).1 =
      { (session.request place request).1 with
        count := (session.request place request).1.count + 1 } := by
  cases command with
  | parse key | get key | clear | entry key =>
    cases h
    rfl
  | state | isFlagSymbol c => cases h
  | insert key source =>
    simp only [Command.request?] at h
    simp only [step, perform]
    cases read : Descriptor.parse .standard source.degroup source.input with
    | error rejection =>
      rw [read] at h
      cases h
    | ok d =>
      rw [read] at h
      cases h
      rfl
  | entryWith key onReject =>
    cases h
    simp only [step, perform]
    generalize session.request .shared (.parse key) = result
    obtain ⟨after, _ | outcome, events⟩ := result
    · rfl
    · rfl

/-- A command without a request is counted, and that is all. -/
lemma step_of_no_request {command : Command} (h : command.request? session.place = none) :
    (session.step command).1 = { session with count := session.count + 1 } := by
  cases command with
  | parse key | get key | clear | entry key | entryWith key onReject => cases h
  | state | isFlagSymbol c => rfl
  | insert key source =>
    simp only [Command.request?] at h
    simp only [step, perform]
    cases read : Descriptor.parse .standard source.degroup source.input with
    | error rejection => rfl
    | ok d =>
      rw [read] at h
      cases h

/-- A command leaves the setting of a session as it is, and each memo serves what the command requests
of it. -/
lemma step_spec (session : Session) (command : Command) (place : Place) :
    (session.step command).1.place = session.place ∧
      (session.step command).1.classifierAt place = session.classifierAt place ∧
      (session.step command).1.memoAt place =
        (session.memoAt place).run (session.classifierAt place)
          (requestsAt session.place place [command]) := by
  cases requested : command.request? session.place with
  | none =>
    have none_here : requestsAt session.place place [command] = [] := by
      simp [requestsAt, requested]
    rw [step_of_no_request requested, none_here]
    cases place with
    | own => exact ⟨rfl, rfl, rfl⟩
    | shared => exact ⟨rfl, rfl, rfl⟩
  | some target =>
    obtain ⟨place', request⟩ := target
    have here : requestsAt session.place place [command] =
        if place' = place then [request] else [] := by
      by_cases same : place' = place <;> simp [requestsAt, requested, same]
    obtain ⟨seen, request_eq⟩ := request_fst session place' request
    rw [step_of_request requested, request_eq, here]
    cases place' with
    | own => cases place <;> exact ⟨rfl, rfl, rfl⟩
    | shared => cases place <;> exact ⟨rfl, rfl, rfl⟩

/-- The memos of a session are memos after a run of the requests that its commands make of them. -/
theorem memoAt_after (session : Session) (commands : List Command) (place : Place) :
    (session.after commands).memoAt place =
      (session.memoAt place).run (session.classifierAt place)
        (requestsAt session.place place commands) := by
  induction commands generalizing session with
  | nil => rfl
  | cons command commands ih =>
    obtain ⟨place_eq, classifier_eq, memo_eq⟩ := session.step_spec command place
    have rest := ih (session.step command).1
    rw [place_eq, classifier_eq, memo_eq, Memo.run, Memo.run, ← List.foldl_append] at rest
    rw [requestsAt, ← List.singleton_append, List.filterMap_append]
    exact rest

/-- A session works on the same memo all along. -/
lemma memo_after (session : Session) (commands : List Command) :
    (session.after commands).memo = (session.after commands).memoAt session.place := by
  have place_eq : (session.after commands).place = session.place := by
    induction commands generalizing session with
    | nil => rfl
    | cons command commands ih =>
      exact (ih _).trans (session.step_spec command .own).1
  unfold memo
  rw [place_eq]

/-- What is recorded of the size is that of the memo of the session after the command. -/
lemma run_size_after (session : Session) (commands : List Command) (n : Nat) :
    ((session.run commands)[n]?).map (fun record => (record.size, record.isEmpty)) =
      (commands[n]?).map fun _ =>
        ((session.after (commands.take (n + 1))).memo.size,
          (session.after (commands.take (n + 1))).memo.isEmpty) := by
  induction commands generalizing session n with
  | nil => rfl
  | cons command commands ih =>
    cases n with
    | zero => rfl
    | succ n => exact ih (session.step command).1 n

/-- So it is that of a memo after a run of the requests that the commands up to there make of it. -/
theorem run_size (session : Session) (commands : List Command) (n : Nat) :
    ((session.run commands)[n]?).map (fun record => (record.size, record.isEmpty)) =
      (commands[n]?).map fun _ =>
        let memo := session.memo.run (session.classifierAt session.place)
          (requestsAt session.place session.place (commands.take (n + 1)))
        (memo.size, memo.isEmpty) := by
  rw [run_size_after]
  simp only [memo_after, memoAt_after]
  rfl

end Session
end TypeShape
