import Mathlib.Data.List.DropRight
import TypeShape.Proofs.Arrivals

/-!
# A bounded memo is a queue

A memo of capacity `n` holds the last `n` of the entries that were stored since it was emptied
(`Holds`), in the order of their coming. That is kept by each request, since `Inserted` says which
key goes when another one comes, so it holds after every run (`run_first_in_first_out`). What is
stored can then be told from the requests alone (`stores_eq_replay`).
-/

namespace TypeShape

/-- The key that a request has a descriptor for, and that descriptor. -/
def Request.offer? (cc : Classifier) : Request → Option (Key × Descriptor)
  | .parse key =>
    match Descriptor.parse cc key.degroup key.input with
    | .ok d => some (key, d)
    | .error _ => none
  | .insert key d => some (key, d)
  | .get _ | .clear => none

/-- What was stored since the last clear, once a request is served, where `history` was stored before
it: its key comes last if it is not held, and a clear begins anew. -/
def Request.record (cc : Classifier) (held : Key → Bool) (history : List (Key × Descriptor)) :
    Request → List (Key × Descriptor)
  | .clear => []
  | request => history ++ ((request.offer? cc).filter fun entry => !held entry.1).toList

/-- The keys that were dropped to make room. -/
def Served.dropped {α : Type} (served : Served α) : List Key :=
  served.events.filterMap fun
    | .evicted key => some key
    | _ => none

namespace Memo

/-- What requests store in a memo since the last clear, where `history` was stored before them. -/
def stores (cc : Classifier) (memo : Memo) (history : List (Key × Descriptor)) :
    List Request → List (Key × Descriptor)
  | [] => history
  | request :: requests =>
    stores cc (memo.serve cc request).memo
      (request.record cc (fun key => (memo.find? key).isSome) history) requests

/-- The same without a memo: a key is held if it is among the last ones that were stored. -/
def replay (cc : Classifier) (capacity : Nat) (history : List (Key × Descriptor)) :
    List Request → List (Key × Descriptor)
  | [] => history
  | request :: requests =>
    replay cc capacity
      (request.record cc (fun key => key ∈ (history.rtake capacity).map Prod.fst) history) requests

/-- The entries that a memo holds, oldest first. -/
structure Holds (memo : Memo) (held : List (Key × Descriptor)) : Prop where
  arrivals_eq : memo.arrivals = held.map Prod.fst
  find?_eq : ∀ entry ∈ held, (memo.find? entry.1).map Instance.descriptor = some entry.2

/-- A bounded memo that holds the last of the entries that were stored. -/
structure Queue (capacity : Nat) (memo : Memo) (history : List (Key × Descriptor)) : Prop
    extends memo.Bounded capacity where
  holds : memo.Holds (history.rtake capacity)

variable {cc : Classifier} {memo : Memo} {capacity : Nat} {key : Key} {d : Descriptor}
  {entry oldest : Key × Descriptor} {held history : List (Key × Descriptor)}

/-- The last entries are as many as are asked for, or all of them. -/
lemma length_rtake (n : Nat) : (history.rtake n).length = min n history.length := by
  unfold List.rtake
  rw [List.length_drop]
  omega

/-- One more entry pushes the first of the last ones out, if there are enough of them. -/
lemma rtake_concat {n : Nat} (positive : 0 < n) :
    (history ++ [entry]).rtake n =
      (if (history.rtake n).length < n then history.rtake n else (history.rtake n).tail) ++
        [entry] := by
  obtain ⟨n, rfl⟩ := Nat.exists_eq_add_one.mpr positive
  rw [List.rtake_concat_succ, length_rtake]
  unfold List.rtake
  split
  · next room =>
    have all : history.length - n = 0 ∧ history.length - (n + 1) = 0 := by omega
    rw [all.1, all.2]
  · next full =>
    have next_length : history.length - n = history.length - (n + 1) + 1 := by omega
    rw [List.tail_drop, next_length]

namespace Holds

/-- A key that is stored where there is room comes last. -/
lemma store (h : memo.Holds held) (bounded : memo.capacity = some capacity)
    (absent : memo.find? key = none) : (memo.store key d).Holds (held ++ [(key, d)]) := by
  constructor
  · rw [arrivals_store bounded, h.arrivals_eq, List.map_append]
    rfl
  · intro other mem
    rw [find?_store]
    rw [List.mem_append, List.mem_singleton] at mem
    rcases mem with mem | rfl
    · have found := h.find?_eq other mem
      rw [if_neg]
      · exact found
      · -- the key of an entry is found already, and `key` is not
        intro eq
        rw [← eq, absent] at found
        cases found
    · rw [if_pos rfl]
      rfl

/-- Without the oldest key the other entries are held. -/
lemma forget (h : memo.Holds (oldest :: held)) (ordered : memo.Ordered) :
    (memo.forget oldest.1 (held.map Prod.fst)).Holds held := by
  have distinct := ordered.nodup
  rw [h.arrivals_eq, List.map_cons, List.nodup_cons] at distinct
  constructor
  · rfl
  · intro other mem
    rw [find?_forget, if_neg]
    · exact h.find?_eq other (List.mem_cons_of_mem oldest mem)
    · -- the oldest key arrived once only
      intro eq
      apply distinct.1
      rw [eq]
      exact List.mem_map_of_mem mem

/-- The entries that are held are as many as the memo counts. -/
lemma length_eq (h : memo.Holds held) (ordered : memo.Ordered) : held.length = memo.size := by
  rw [← ordered.length_eq, h.arrivals_eq, List.length_map]

/-- A key is found exactly if an entry has it. -/
lemma isSome_find? (h : memo.Holds held) (ordered : memo.Ordered) (key : Key) :
    (memo.find? key).isSome = decide (key ∈ held.map Prod.fst) := by
  rw [Bool.eq_iff_iff, Option.isSome_iff_ne_none, decide_eq_true_iff, ← h.arrivals_eq]
  exact ordered.mem_iff_find?.symm

/-- An entry is held exactly if its key is found with its descriptor. -/
lemma find?_eq_some_iff (h : memo.Holds held) (ordered : memo.Ordered) :
    (memo.find? key).map Instance.descriptor = some d ↔ (key, d) ∈ held := by
  constructor
  · intro found
    have mem : key ∈ held.map Prod.fst := by
      rw [← h.arrivals_eq, ordered.mem_iff_find?]
      intro absent
      rw [absent] at found
      cases found
    obtain ⟨⟨key', d'⟩, entry_mem, rfl⟩ := List.mem_map.mp mem
    have found' := h.find?_eq _ entry_mem
    cases found.symm.trans found'
    exact entry_mem
  · exact h.find?_eq (key, d)

/-- Storing one more entry in a memo of capacity `n` leaves it with the last `n` again. -/
lemma insert (h : memo.Holds (history.rtake capacity)) (bounded : memo.Bounded capacity)
    (positive : 0 < capacity) (absent : memo.find? key = none) :
    (memo.insert key d).memo.Holds ((history ++ [(key, d)]).rtake capacity) := by
  have inserted := bounded.inserted positive key d
  generalize memo.insert key d = served at inserted ⊢
  have length_eq := h.length_eq bounded.toOrdered
  rw [rtake_concat positive, length_eq]
  cases inserted with
  | held found => cases absent.symm.trans found
  | room _ room =>
    rw [if_pos room]
    exact h.store bounded.capacity_eq absent
  | full _ full order =>
    rw [if_neg (Nat.not_lt.mpr (Nat.le_of_eq full.symm))]
    cases queue : history.rtake capacity with
    | nil =>
      rw [h.arrivals_eq, queue] at order
      cases order
    | cons oldest held =>
      rw [queue] at h
      rw [h.arrivals_eq] at order
      cases order
      -- the key that comes was not held before the oldest one went, so it is not held after
      apply (h.forget bounded.toOrdered).store
      · exact capacity_forget.trans bounded.capacity_eq
      · exact find?_forget_eq_none absent

/-- Storing one more entry drops nothing if there is room, and else the first one. -/
lemma dropped_insert (h : memo.Holds held) (bounded : memo.Bounded capacity)
    (positive : 0 < capacity) (absent : memo.find? key = none) :
    memo.size < capacity ∧ (memo.insert key d).dropped = [] ∨
      memo.size = capacity ∧ ∃ oldest others,
        held = oldest :: others ∧ (memo.insert key d).dropped = [oldest.1] := by
  have inserted := bounded.inserted positive key d
  generalize memo.insert key d = served at inserted ⊢
  cases inserted with
  | held found => cases absent.symm.trans found
  | room _ room => exact .inl ⟨room, rfl⟩
  | full _ full order =>
    rw [h.arrivals_eq] at order
    obtain ⟨oldest, others, rfl, rfl, rfl⟩ := List.map_eq_cons_iff.mp order
    exact .inr ⟨full, oldest, others, rfl, rfl⟩

end Holds

/-- A key that is stored is found, and of all others those that were found and were not dropped. -/
lemma find?_insert_of_absent (bounded : memo.Bounded capacity) (positive : 0 < capacity)
    (absent : memo.find? key = none) (other : Key) :
    (memo.insert key d).memo.find? other =
      if key = other then some (memo.next d)
      else if other ∈ (memo.insert key d).dropped then none else memo.find? other := by
  have inserted := bounded.inserted positive key d
  generalize memo.insert key d = served at inserted ⊢
  cases inserted with
  | held found => cases absent.symm.trans found
  | room => exact find?_store memo key other d
  | @full oldest arrivals =>
    have dropped_iff : other ∈ [oldest] ↔ oldest = other := by
      rw [List.mem_singleton]
      exact eq_comm
    show ((memo.forget oldest arrivals).store key d).find? other =
      if key = other then _ else if other ∈ [oldest] then none else memo.find? other
    rw [find?_store, find?_forget, next_forget]
    simp only [dropped_iff]

/-- A request has nothing to store: it has no descriptor, or its key is held. -/
structure Idle (cc : Classifier) (memo : Memo) (request : Request) : Prop where
  ne_clear : request ≠ .clear
  held : ∀ key d, request.offer? cc = some (key, d) → memo.find? key ≠ none

/-- What a request does to a memo of capacity other than zero. -/
inductive Course (cc : Classifier) (memo : Memo) (request : Request) : Prop where
  | clear : request = .clear → Course cc memo request
  | store {key : Key} {d : Descriptor} :
    request.offer? cc = some (key, d) → memo.find? key = none →
    Course cc memo request
  | idle : Idle cc memo request → Course cc memo request

/-- A request that brings a key that is not held stores it. -/
lemma serve_of_offer {request : Request} (offered : request.offer? cc = some (key, d))
    (absent : memo.find? key = none) :
    (memo.serve cc request).memo = (memo.insert key d).memo ∧
      (memo.serve cc request).dropped = (memo.insert key d).dropped := by
  cases request with
  | get | clear => cases offered
  | insert =>
    cases offered
    exact ⟨rfl, rfl⟩
  | parse key' =>
    cases read : Descriptor.parse cc key'.degroup key'.input with
    | error rejection =>
      simp only [Request.offer?, read] at offered
      cases offered
    | ok d' =>
      simp only [Request.offer?, read] at offered
      cases offered
      show (memo.parse cc key).memo = _ ∧ (memo.parse cc key).events.filterMap _ = _
      rw [parse_of_none absent read]
      exact ⟨rfl, rfl⟩

/-- A request that has nothing to store leaves the memo as it is. -/
lemma serve_of_idle {request : Request} (idle : Idle cc memo request)
    (stores : memo.capacity ≠ some 0) : (memo.serve cc request).memo = memo := by
  cases request with
  | get => rfl
  | clear => exact absurd rfl idle.ne_clear
  | insert key d =>
    obtain ⟨held, found⟩ := Option.ne_none_iff_exists'.mp (idle.held key d rfl)
    show (memo.insert key d).memo = memo
    rw [insert_of_held stores found]
  | parse key =>
    show (memo.parse cc key).memo = memo
    unfold parse
    split
    · rfl
    · next absent =>
      split
      · next d read => exact absurd absent (idle.held key d (by simp only [Request.offer?, read]))
      · rfl

/-- Every request clears the memo, or stores a key that is not held, or has nothing to store. -/
lemma course (cc : Classifier) (memo : Memo) (request : Request) : Course cc memo request := by
  by_cases cleared : request = .clear
  · exact .clear cleared
  · cases offered : request.offer? cc with
    | none =>
      refine .idle ⟨cleared, fun key d offered' => ?_⟩
      cases offered.symm.trans offered'
    | some entry =>
      obtain ⟨key, d⟩ := entry
      by_cases absent : memo.find? key = none
      · exact .store offered absent
      · refine .idle ⟨cleared, fun key' d' offered' => ?_⟩
        cases offered.symm.trans offered'
        exact absent

/-- A key that is stored is recorded last. -/
lemma record_of_offer {request : Request} {is_held : Key → Bool}
    (offered : request.offer? cc = some (key, d)) (absent : is_held key = false) :
    request.record cc is_held history = history ++ [(key, d)] := by
  cases request with
  | get | clear => cases offered
  | parse | insert =>
    show history ++ Option.toList (Option.filter _ (Request.offer? cc _)) = _
    rw [offered]
    simp [absent]

/-- A request that has nothing to store leaves the record as it is. -/
lemma record_of_idle {request : Request} (idle : Idle cc memo request) :
    request.record cc (fun key => (memo.find? key).isSome) history = history := by
  obtain ⟨ne_clear, held⟩ := idle
  have nothing_stored : (request.offer? cc).filter
      (fun entry => !(memo.find? entry.1).isSome) = none := by
    rw [Option.filter_eq_none_iff]
    rintro ⟨key, d⟩ offered
    simpa [Option.isSome_iff_ne_none] using held key d offered
  cases request with
  | clear => exact absurd rfl ne_clear
  | parse | get | insert =>
    show history ++ Option.toList (Option.filter _ (Request.offer? cc _)) = history
    rw [nothing_stored]
    exact List.append_nil history

namespace Holds

/-- After a clear there are no entries. -/
lemma clear (memo : Memo) : memo.clear.Holds [] := by
  constructor
  · rfl
  · intro entry mem
    cases mem

end Holds

namespace Queue

/-- In a new memo there are no entries, and nothing was stored. -/
lemma new (capacity : Nat) : Queue capacity (Memo.new (some capacity)) [] where
  toBounded := .empty capacity 0
  holds := by
    rw [List.rtake_nil]
    exact .clear (Memo.new (some capacity))

variable (h : Queue capacity memo history) (positive : 0 < capacity)

include h positive

/-- Every request keeps the memo holding the last of the entries that were stored. -/
lemma serve (cc : Classifier) (request : Request) : Queue capacity (memo.serve cc request).memo
    (request.record cc (fun key => (memo.find? key).isSome) history) := by
  refine ⟨h.toBounded.serve positive cc request, ?_⟩
  cases course cc memo request with
  | clear cleared =>
    rw [cleared]
    show memo.clear.Holds (List.rtake [] capacity)
    rw [List.rtake_nil]
    exact .clear memo
  | store offered absent =>
    rw [(serve_of_offer offered absent).1, record_of_offer offered (by rw [absent]; rfl)]
    exact h.holds.insert h.toBounded positive absent
  | idle idle =>
    rw [serve_of_idle idle (h.capacity_ne positive), record_of_idle idle]
    exact h.holds

/-- So does every run: step by step, the record grows as the memo does. -/
lemma run (requests : List Request) :
    Queue capacity (memo.run cc requests) (stores cc memo history requests) := by
  induction requests generalizing memo history with
  | nil => exact h
  | cons request requests ih => exact ih (h.serve positive cc request)

/-- What is stored can be told from the requests. -/
lemma stores_eq_replay (requests : List Request) :
    stores cc memo history requests = replay cc capacity history requests := by
  induction requests generalizing memo history with
  | nil => rfl
  | cons request requests ih =>
    have held_eq : (fun key => (memo.find? key).isSome) = fun key =>
        decide (key ∈ (history.rtake capacity).map Prod.fst) :=
      funext (h.holds.isSome_find? h.toOrdered)
    have served := h.serve positive cc request
    show stores cc (memo.serve cc request).memo _ requests = replay cc capacity _ requests
    rw [ih served, held_eq]

end Queue

/-- A bounded memo is first in, first out. After any run of requests it holds the last ones of the
entries that were stored, each key once and as many as the capacity allows. A request that brings a
key that is not held drops nothing if there is room, and else the key that was stored first, and that
one only; no other key is touched. A request that has nothing to store changes nothing. -/
theorem run_first_in_first_out {capacity : Nat} (positive : 0 < capacity) (cc : Classifier)
    (requests : List Request) :
    let memo := (new (some capacity)).run cc requests
    let history := stores cc (new (some capacity)) [] requests
    let held := history.rtake capacity
    (held.map Prod.fst).Nodup ∧ memo.size = min capacity history.length ∧
    (∀ key d, (memo.find? key).map Instance.descriptor = some d ↔ (key, d) ∈ held) ∧
    (∀ request key d, request.offer? cc = some (key, d) → memo.find? key = none →
      let served := memo.serve cc request
      (memo.size < capacity ∧ served.dropped = [] ∨
        memo.size = capacity ∧
          ∃ oldest others, held = oldest :: others ∧ served.dropped = [oldest.1]) ∧
      ∀ other, served.memo.find? other =
        if key = other then some (memo.next d)
        else if other ∈ served.dropped then none else memo.find? other) ∧
    ∀ request, Idle cc memo request → (memo.serve cc request).memo = memo := by
  intro memo history held
  have queue : Queue capacity memo history := (Queue.new capacity).run positive requests
  have holds : memo.Holds held := queue.holds
  refine ⟨?_, ?_, ?_, ?_, ?_⟩
  · rw [← holds.arrivals_eq]
    exact queue.nodup
  · rw [← holds.length_eq queue.toOrdered]
    exact length_rtake capacity
  · exact fun key d => holds.find?_eq_some_iff queue.toOrdered
  · intro request key d offered absent
    obtain ⟨memo_eq, dropped_eq⟩ := serve_of_offer offered absent
    show (_ ∧ (memo.serve cc request).dropped = [] ∨ _) ∧
      ∀ other, (memo.serve cc request).memo.find? other = _
    rw [memo_eq, dropped_eq]
    constructor
    · exact holds.dropped_insert queue.toBounded positive absent
    · exact find?_insert_of_absent queue.toBounded positive absent
  · intro request idle
    exact serve_of_idle idle (queue.capacity_ne positive)

/-- A key that was dropped and stored again comes after those that were stored in between. -/
theorem run_first_in_first_out_again :
    let plain : Key := ⟨"b".toList, false⟩
    let kept : Key := ⟨"(a)".toList, false⟩
    let unwrapped : Key := ⟨"(a)".toList, true⟩
    let requests : List Request := [.parse plain, .clear, .parse unwrapped, .parse kept,
      .parse unwrapped, .insert plain (.group ['c']), .get kept, .parse unwrapped]
    let memo := (new (some 2)).run .standard requests
    memo.size = 2 ∧ memo.find? kept = none ∧
      (memo.find? plain).map Instance.descriptor = some (.group ['c']) ∧
      (memo.find? unwrapped).map Instance.descriptor = some (.generic [] ['a'] [] .empty) ∧
      (memo.serve .standard (.parse kept)).dropped = [plain] := by
  intro plain kept unwrapped requests memo
  have history_eq : stores .standard (new (some 2)) [] requests =
      [(unwrapped, .generic [] ['a'] [] .empty), (kept, .group ['a']), (plain, .group ['c']),
        (unwrapped, .generic [] ['a'] [] .empty)] := by
    -- the record can be replayed without a memo, whose maps do not evaluate
    rw [(Queue.new 2).stores_eq_replay (by decide)]
    decide +kernel
  obtain ⟨-, size_eq, find?_iff, stored, -⟩ :=
    run_first_in_first_out (show 0 < 2 by decide) .standard requests
  rw [history_eq] at size_eq find?_iff stored
  have size_two : memo.size = 2 := size_eq
  have held_iff : ∀ key d, (memo.find? key).map Instance.descriptor = some d ↔
      (key, d) ∈ [(plain, .group ['c']), (unwrapped, .generic [] ['a'] [] .empty)] := find?_iff
  have absent : memo.find? kept = none := by
    cases found : memo.find? kept with
    | none => rfl
    | some held =>
      have mem := (held_iff kept held.descriptor).mp (congrArg (Option.map _) found)
      have kept_mem : kept ∈ [plain, unwrapped] :=
        List.mem_map_of_mem (f := Prod.fst) mem
      exact absurd kept_mem (by decide)
  have read : Request.offer? .standard (.parse kept) = some (kept, .group ['a']) := by
    decide +kernel
  have dropped : (memo.serve .standard (.parse kept)).dropped = [plain] := by
    obtain ⟨⟨room, -⟩ | ⟨-, oldest, others, held_eq, dropped⟩, -⟩ := stored _ _ _ read absent
    · exact absurd (size_two.symm.trans_lt room) (Nat.lt_irrefl 2)
    · cases held_eq
      exact dropped
  refine ⟨size_two, absent, ?_, ?_, dropped⟩
  · exact (held_iff plain _).mpr (by simp)
  · exact (held_iff unwrapped _).mpr (by simp)

end Memo
end TypeShape
