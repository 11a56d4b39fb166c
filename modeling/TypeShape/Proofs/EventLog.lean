import Mathlib.Data.Finset.Card
import TypeShape.Proofs.Serving

/-!
# The events account for the memo

Replaying the events since the last clear gives the keys that are held (`run_log_faithful`). A log is
`Accounted` for if every event in it fits what the events before it left: a key is stored while it is
absent, and goes while it is there. The log of a memo is a `Record` of it, and every request extends
the record (`Record.serving`).
-/

namespace TypeShape

namespace Event

/-- The keys after an event. -/
def apply (held : Finset Key) : Event → Finset Key
  | cached key => insert key held
  | evicted key => held.erase key
  | hit _ | miss _ | rejected _ _ => held

/-- The keys that replaying events leaves, with none before them. -/
def replayed (events : List Event) : Finset Key :=
  events.foldl apply ∅

/-- Whether an event can follow where certain keys are held. -/
def Fits (held : Finset Key) : Event → Prop
  | hit key | evicted key => key ∈ held
  | miss key | rejected key _ | cached key => key ∉ held

/-- Whether a key is stored with an event. -/
def isCached : Event → Bool
  | cached _ => true
  | _ => false

/-- Whether a key goes with an event. -/
def isEvicted : Event → Bool
  | evicted _ => true
  | _ => false

/-- Every event fits the ones before it. -/
inductive Accounted : List Event → Prop where
  | nil : Accounted []
  | snoc {past : List Event} {event : Event} :
    Accounted past →
    event.Fits (replayed past) →
    Accounted (past ++ [event])

variable {past rest log : List Event} {event : Event} {held : Finset Key}

/-- The last event is applied to what the ones before it leave. -/
@[simp] lemma replayed_snoc : replayed (past ++ [event]) = apply (replayed past) event := by
  rw [replayed, List.foldl_append]
  rfl

/-- A key that is stored is left. -/
lemma replayed_cached (key : Key) : replayed (past ++ [.cached key]) = insert key (replayed past) :=
  replayed_snoc

/-- A key that goes is not left. -/
lemma replayed_evicted (key : Key) : replayed (past ++ [.evicted key]) = (replayed past).erase key :=
  replayed_snoc

/-- An event adds a key, or takes one away, or leaves the keys as they are. -/
lemma Fits.card_apply (h : event.Fits held) :
    (apply held event).card + [event].countP isEvicted = held.card + [event].countP isCached := by
  cases event with
  | cached key => exact Finset.card_insert_of_notMem h
  | evicted key => exact Finset.card_erase_add_one h
  | hit _ => rfl
  | miss _ => rfl
  | rejected _ _ => rfl

/-- As many keys are left as were stored, less those that went. -/
lemma Accounted.card_replayed (h : Accounted log) :
    (replayed log).card + log.countP isEvicted = log.countP isCached := by
  induction h with
  | nil => rfl
  | @snoc past event _ fits ih =>
    have step := fits.card_apply
    rw [replayed_snoc, List.countP_append, List.countP_append]
    omega

/-- In a log that accounts for its events each one fits what those before it leave. -/
lemma Accounted.fits (h : Accounted log) (split : log = past ++ event :: rest) :
    event.Fits (replayed past) := by
  induction h generalizing rest with
  | nil => simp at split
  | @snoc before last _ fits ih =>
    -- the event is the last one, or it is among those before
    rcases List.eq_nil_or_concat rest with rfl | ⟨rest, other, rfl⟩
    · obtain ⟨rfl, ⟨⟩⟩ := List.append_inj' split rfl
      exact fits
    · have split' : before ++ [last] = (past ++ event :: rest) ++ [other] := by simpa using split
      exact ih (List.append_inj' split' rfl).1

end Event

open Event

/-- The log after a request: a clear starts it anew. -/
def Request.extend (log events : List Event) : Request → List Event
  | .clear => []
  | _ => log ++ events

namespace Memo

/-- The events since the last clear, when requests are served after a log. -/
def log (cc : Classifier) (memo : Memo) (past : List Event) : List Request → List Event
  | [] => past
  | request :: requests =>
    let served := memo.serve cc request
    log cc served.memo (request.extend past served.events) requests

/-- A log is about a memo: its events fit each other, and they leave the keys that are held. -/
structure Record (memo : Memo) (log : List Event) : Prop where
  accounted : Accounted log
  mem_iff : ∀ key, key ∈ replayed log ↔ memo.find? key ≠ none
  size_eq : memo.size = (replayed log).card

variable {cc : Classifier} {memo after : Memo} {key : Key} {d : Descriptor}
  {dropped : Option Key} {request : Request} {log : List Event}

/-- Nothing is held after a clear. -/
lemma size_clear (memo : Memo) : memo.clear.size = 0 := by
  simp [size, Memo.clear]

/-- A memo that was cleared is recorded by the empty log. -/
lemma record_clear (memo : Memo) : Record memo.clear [] where
  accounted := .nil
  mem_iff key := by simp [replayed, find?_clear]
  size_eq := size_clear memo

/-- The last event of an insert: the key is stored among those that were left. -/
lemma record_cached (accounted : Accounted log) (absent : key ∉ replayed log)
    (grown : Grown memo key d dropped after)
    (left : ∀ other, other ∈ replayed log ↔ dropped ≠ some other ∧ memo.find? other ≠ none)
    (size_eq : after.size = (replayed log).card + 1) : Record after (log ++ [.cached key]) where
  accounted := accounted.snoc absent
  mem_iff other := by
    rw [replayed_cached, Finset.mem_insert, left, grown.find?_eq]
    by_cases eq : key = other
    · simp [eq]
    · by_cases gone : dropped = some other
      · simp [eq, gone, Ne.symm eq]
      · simp [eq, gone, Ne.symm eq]
  size_eq := by rw [replayed_cached, Finset.card_insert_of_notMem absent, size_eq]

namespace Record

variable (h : Record memo log)

include h

/-- A key is not left by the events exactly if it is not found. -/
lemma not_mem_iff (key : Key) : key ∉ replayed log ↔ memo.find? key = none := by
  rw [h.mem_iff, not_not]

/-- An event that fits and changes no key leaves a record a record. -/
lemma idle {event : Event} (fits : event.Fits (replayed log))
    (same : apply (replayed log) event = replayed log) : Record memo (log ++ [event]) where
  accounted := h.accounted.snoc fits
  mem_iff key := by rw [replayed_snoc, same, h.mem_iff]
  size_eq := by rw [replayed_snoc, same, h.size_eq]

/-- A hit fits where the key is held. -/
lemma hit {held : Instance} (found : memo.find? key = some held) :
    Record memo (log ++ [.hit key]) := by
  apply h.idle _ rfl
  rw [Fits, h.mem_iff, found]
  exact Option.some_ne_none held

/-- A miss fits where the key is not held. -/
lemma miss (absent : memo.find? key = none) : Record memo (log ++ [.miss key]) :=
  h.idle ((h.not_mem_iff key).mpr absent) rfl

/-- A rejection fits where the key is not held. -/
lemma rejected {reason : Reason} (absent : memo.find? key = none) :
    Record memo (log ++ [.rejected key reason]) :=
  h.idle ((h.not_mem_iff key).mpr absent) rfl

/-- A key that is stored, and one that goes before. -/
lemma grown (grown : Grown memo key d dropped after) :
    Record after (log ++ (dropped.toList.map .evicted ++ [.cached key])) := by
  have absent := (h.not_mem_iff key).mpr grown.absent
  cases dropped with
  | none =>
    apply record_cached h.accounted absent grown
    · intro other
      rw [h.mem_iff]
      exact ⟨fun there => ⟨nofun, there⟩, And.right⟩
    · rw [← h.size_eq]
      exact grown.size_eq
  | some oldest =>
    have there := (h.mem_iff oldest).mpr (grown.dropped_held oldest rfl)
    have gone : Accounted (log ++ [.evicted oldest]) := h.accounted.snoc there
    -- the oldest key goes before the new one is stored, which is still absent then
    rw [← List.append_assoc]
    apply record_cached gone _ grown
    · intro other
      rw [replayed_evicted, Finset.mem_erase, h.mem_iff]
      exact and_congr_left' (by simp [eq_comm])
    · rw [replayed_evicted, Finset.card_erase_add_one there, ← h.size_eq]
      exact Nat.succ.inj grown.size_eq
    · rw [replayed_evicted]
      exact mt Finset.mem_of_mem_erase absent

/-- The events of storing a key record it: a key that goes was held, and the one that is stored was
not. -/
lemma insertion {served : Served Instance} (insertion : Insertion memo key d served) :
    Record served.memo (log ++ served.events) := by
  cases insertion with
  | held _ => simpa using h
  | disabled _ _ => simpa using ⟨h.accounted, h.mem_iff, h.size_eq⟩
  | stored grown => exact h.grown grown

/-- Every request extends the record. -/
lemma serving {served : Served (Option (Except Rejection Instance))}
    (serving : Serving cc memo request served) :
    Record served.memo (request.extend log served.events) := by
  cases serving with
  | hit found => exact h.hit found
  | rejected absent _ =>
    have missed := h.miss absent
    simpa [Request.extend] using missed.rejected absent
  | parsed absent _ insertion =>
    have missed := h.miss absent
    simpa [Request.extend] using missed.insertion insertion
  | get => simpa [Request.extend] using h
  | insert insertion => exact h.insertion insertion
  | clear => exact record_clear memo

/-- The log of every run records it, from the last clear on. -/
lemma run (consistent : memo.Consistent) (cc : Classifier) (requests : List Request) :
    Record (memo.run cc requests) (memo.log cc log requests) := by
  induction requests generalizing memo log with
  | nil => exact h
  | cons request requests ih =>
    apply ih (h.serving (consistent.serving cc request))
    exact consistent.serve cc request

end Record

/-- What storing a key reports: nothing, or that the key is stored, after the one that goes. -/
lemma Insertion.events_eq {served : Served Instance} (h : Insertion memo key d served) :
    served.events = [] ∨
      ∃ dropped : Option Key, served.events = dropped.toList.map .evicted ++ [.cached key] := by
  cases h with
  | held _ => exact .inl rfl
  | disabled _ _ => exact .inl rfl
  | @stored dropped _ _ => exact .inr ⟨dropped, rfl⟩

/-- A key that is held is answered with a hit, and one that is not with a miss, which is followed by
what became of reading its text. -/
lemma events_parse (cc : Classifier) (memo : Memo) (key : Key) :
    let served := memo.parse cc key
    (∃ held, memo.find? key = some held ∧ served.answer = .ok held ∧ served.events = [.hit key]) ∨
    memo.find? key = none ∧
      ((∃ rejection, served.answer = .error rejection ∧
          served.events = [.miss key, .rejected key rejection.reason]) ∨
        ∃ d, served.answer = .ok (memo.insert key d).answer ∧
          served.events = .miss key :: (memo.insert key d).events) := by
  unfold Memo.parse
  cases found : memo.find? key with
  | some held => exact .inl ⟨held, rfl, rfl, rfl⟩
  | none =>
    cases Descriptor.parse cc key.degroup key.input with
    | error rejection => exact .inr ⟨rfl, .inl ⟨rejection, rfl, rfl⟩⟩
    | ok d => exact .inr ⟨rfl, .inr ⟨d, rfl, rfl⟩⟩

/-- The events of a run account for what the memo holds. Replayed from the last clear on, they leave
the keys that are held, which are as many as were stored less those that went. Each event fits the
ones before it, so only absent keys are stored and only keys that are there go.

The replayed keys also tell what comes next. A parse reports first a hit or a miss, and a hit exactly
if its key is among those left. After a miss comes one rejection with the reason that is returned, or
there is no error and the rest is what the insert reports. A look up and a clear report nothing. -/
theorem run_log_faithful (cc : Classifier) (capacity : Option Nat) (requests : List Request) :
    let memo := (new capacity).run cc requests
    let log := (new capacity).log cc [] requests
    (∀ key, key ∈ replayed log ↔ memo.find? key ≠ none) ∧
    memo.size = (replayed log).card ∧
    memo.size + log.countP isEvicted = log.countP isCached ∧
    (∀ past event rest, log = past ++ event :: rest → event.Fits (replayed past)) ∧
    (∀ key,
      let served := memo.serve cc (.parse key)
      key ∈ replayed log ∧ served.events = [.hit key] ∧
          (∃ held, memo.find? key = some held ∧ served.answer = some (.ok held)) ∨
        key ∉ replayed log ∧
          ((∃ rejection, served.answer = some (.error rejection) ∧
              served.events = [.miss key, .rejected key rejection.reason]) ∨
            ∃ d, served.answer = some (.ok (memo.insert key d).answer) ∧
              served.events = .miss key :: (memo.insert key d).events)) ∧
    (∀ key d,
      (memo.insert key d).events = [] ∨
        ∃ dropped : Option Key,
          (memo.insert key d).events = dropped.toList.map .evicted ++ [.cached key]) ∧
    (∀ key, (memo.serve cc (.get key)).events = []) ∧
    (memo.serve cc .clear).events = [] := by
  intro memo log
  have empty := Consistent.empty capacity 0
  have consistent : memo.Consistent := empty.run cc requests
  have record : Record memo log := (record_clear (new capacity)).run empty cc requests
  refine ⟨record.mem_iff, record.size_eq, ?_, fun past event rest => record.accounted.fits, ?_,
    fun key d => (consistent.insertion key d).events_eq, fun _ => rfl, rfl⟩
  · rw [record.size_eq]
    exact record.accounted.card_replayed
  · intro key
    rcases events_parse cc memo key with ⟨held, found, answer, events⟩ | ⟨absent, outcome⟩
    · refine .inl ⟨(record.mem_iff key).mpr ?_, events, held, found, congrArg some answer⟩
      rw [found]
      exact Option.some_ne_none held
    · refine .inr ⟨(record.not_mem_iff key).mpr absent, ?_⟩
      rcases outcome with ⟨rejection, answer, events⟩ | ⟨d, answer, events⟩
      · exact .inl ⟨rejection, congrArg some answer, events⟩
      · exact .inr ⟨d, congrArg some answer, events⟩

/-- Where one key makes another go, the other one was there. -/
theorem run_log_faithful_evicted :
    let first : Key := ⟨['a'], false⟩
    let second : Key := ⟨['a'], true⟩
    let log := (new (some 1)).log .standard []
      [.insert first (.group ['a']), .insert second (.group ['a'])]
    log = [.cached first, .evicted first, .cached second] ∧ first ∈ replayed [.cached first] := by
  intro first second log
  have absent : ((new (some 1)).store first (.group ['a'])).find? second = none := by
    rw [find?_store, if_neg (by decide)]
    exact find?_new (some 1) second
  have stored : (new (some 1)).insert first (.group ['a']) =
      ⟨(new (some 1)).store first (.group ['a']), ⟨0, .group ['a']⟩, [.cached first]⟩ :=
    insert_of_room rfl (find?_new (some 1) first) Nat.one_pos
  have log_eq : log = [.cached first, .evicted first, .cached second] := by
    show ((new (some 1)).insert first (.group ['a'])).events ++
      (((new (some 1)).insert first (.group ['a'])).memo.insert second (.group ['a'])).events = _
    rw [stored, insert_of_full rfl absent rfl rfl]
    rfl
  obtain ⟨_, _, _, fits, _⟩ := run_log_faithful .standard (some 1)
    [.insert first (.group ['a']), .insert second (.group ['a'])]
  exact ⟨log_eq, fits [.cached first] (.evicted first) [.cached second] log_eq⟩

end Memo
end TypeShape
