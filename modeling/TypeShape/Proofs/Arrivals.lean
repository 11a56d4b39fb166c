import Mathlib.Data.List.Nodup
import TypeShape.Proofs.FaithfulMemo

/-!
# The order of arrivals

A bounded memo drops keys in the order in which they came, so that order and the two maps have to
agree: `Ordered` says that each key that is held is in the order once, and no other key is. With it
the keys never outnumber the capacity, and storing a key drops at most one other (`Inserted`).
`run_consistent` says what holds of every kind of memo after any run of requests.
-/

namespace TypeShape.Memo

/-- The order has exactly the keys that are held, each of them once. -/
structure Ordered (memo : Memo) : Prop where
  nodup : memo.arrivals.Nodup
  mem_iff : ∀ key, key ∈ memo.arrivals ↔ key.input ∈ memo.entries key.degroup
  length_eq : memo.arrivals.length = memo.size

/-- A memo whose order is right and that holds at most `capacity` keys. -/
structure Bounded (capacity : Nat) (memo : Memo) : Prop extends memo.Ordered where
  capacity_eq : memo.capacity = some capacity
  fits : memo.size ≤ capacity

/-- What holds of a memo at all times, for each kind of capacity. -/
structure Consistent (memo : Memo) : Prop where
  unbounded : memo.capacity = none → memo.arrivals = []
  disabled : memo.capacity = some 0 →
    memo.plain.isEmpty = true ∧ memo.degrouped.isEmpty = true ∧ memo.arrivals = []
  bounded : ∀ capacity, memo.capacity = some capacity → 0 < capacity → memo.Bounded capacity

/-- The memo without its oldest key, where `arrivals` are the others. -/
def forget (memo : Memo) (oldest : Key) (arrivals : List Key) : Memo :=
  { memo.update oldest.degroup (·.erase oldest.input) with arrivals := arrivals }

variable {cc : Classifier} {memo : Memo} {capacity : Nat} {key oldest : Key} {arrivals : List Key}
  {d : Descriptor}

/-- A key is found exactly if its text is in the map for its way of reading. -/
lemma find?_ne_none_iff : memo.find? key ≠ none ↔ key.input ∈ memo.entries key.degroup := by
  unfold find?
  rw [← Option.isSome_iff_ne_none, Std.HashMap.isSome_getElem?_iff_mem]

@[simp] lemma capacity_update (memo : Memo) (degroup : Bool)
    (change : Std.HashMap Text Instance → Std.HashMap Text Instance) :
    (memo.update degroup change).capacity = memo.capacity := by
  cases degroup <;> rfl

@[simp] lemma issued_update (memo : Memo) (degroup : Bool)
    (change : Std.HashMap Text Instance → Std.HashMap Text Instance) :
    (memo.update degroup change).issued = memo.issued := by
  cases degroup <;> rfl

@[simp] lemma capacity_forget : (memo.forget oldest arrivals).capacity = memo.capacity :=
  capacity_update memo _ _

/-- Dropping a key leaves the next instance. -/
@[simp] lemma next_forget : (memo.forget oldest arrivals).next d = memo.next d :=
  congrArg (Instance.mk · d) (issued_update memo _ _)

@[simp] lemma capacity_store : (memo.store key d).capacity = memo.capacity :=
  capacity_update memo _ _

/-- Making room leaves the capacity, however many keys are dropped. -/
@[simp] lemma capacity_evict (arrivals : List Key) :
    (evict capacity memo arrivals).memo.capacity = memo.capacity := by
  induction arrivals generalizing memo with
  | nil => rfl
  | cons oldest arrivals ih =>
    unfold evict
    split
    · exact ih.trans (capacity_update memo _ _)
    · rfl

/-- The oldest key is not held any more, and no other key is touched. -/
lemma find?_forget (other : Key) :
    (memo.forget oldest arrivals).find? other =
      if oldest = other then none else memo.find? other :=
  find?_erase memo oldest other

/-- A key that was not held is not held when another is dropped. -/
lemma find?_forget_eq_none {other : Key} (absent : memo.find? other = none) :
    (memo.forget oldest arrivals).find? other = none := by
  rw [find?_forget, absent]
  exact ite_self none

/-- A map without one of its texts has one text less. -/
lemma size_erase_add_one {entries : Std.HashMap Text Instance} {input : Text}
    (mem : input ∈ entries) : (entries.erase input).size + 1 = entries.size := by
  -- `size_erase` subtracts one, so the map must not be empty
  have ne_zero : entries.size ≠ 0 := by
    intro eq_zero
    have is_empty : entries.isEmpty = true := by
      rw [Std.HashMap.isEmpty_eq_size_eq_zero, eq_zero]
      rfl
    exact Std.HashMap.isEmpty_iff_forall_not_mem.mp is_empty input mem
  rw [Std.HashMap.size_erase, if_pos mem]
  omega

/-- A change to one way of reading changes the number of keys by as much. -/
lemma size_update (memo : Memo) (degroup : Bool)
    (change : Std.HashMap Text Instance → Std.HashMap Text Instance) :
    (memo.update degroup change).size + (memo.entries degroup).size =
      memo.size + (change (memo.entries degroup)).size := by
  cases degroup with
  | false =>
    show (change memo.plain).size + memo.degrouped.size + memo.plain.size =
      memo.plain.size + memo.degrouped.size + (change memo.plain).size
    omega
  | true =>
    show memo.plain.size + (change memo.degrouped).size + memo.degrouped.size =
      memo.plain.size + memo.degrouped.size + (change memo.degrouped).size
    omega

/-- A memo that drops a key it holds has one key less. -/
lemma size_forget (held : oldest.input ∈ memo.entries oldest.degroup) :
    (memo.forget oldest arrivals).size + 1 = memo.size := by
  have changed : (memo.forget oldest arrivals).size + (memo.entries oldest.degroup).size =
      memo.size + ((memo.entries oldest.degroup).erase oldest.input).size :=
    size_update memo oldest.degroup _
  have erased := size_erase_add_one held
  omega

/-- A memo that stores a key it does not hold has one key more. -/
lemma size_store (absent : memo.find? key = none) :
    (memo.store key d).size = memo.size + 1 := by
  have changed : (memo.store key d).size + (memo.entries key.degroup).size =
      memo.size + ((memo.entries key.degroup).insert key.input (memo.next d)).size :=
    size_update memo key.degroup _
  have not_mem : key.input ∉ memo.entries key.degroup :=
    fun mem => find?_ne_none_iff.mpr mem absent
  rw [Std.HashMap.size_insert, if_neg not_mem] at changed
  omega

/-- In a bounded memo a key that is stored comes last. -/
lemma arrivals_store (bounded : memo.capacity = some capacity) :
    (memo.store key d).arrivals = memo.arrivals ++ [key] := by
  simp [store, bounded]

/-- Nothing is dropped while there is room. -/
lemma evict_of_lt (room : arrivals.length < capacity) :
    evict capacity memo arrivals = ⟨{ memo with arrivals := arrivals }, (), []⟩ := by
  cases arrivals with
  | nil => rfl
  | cons oldest arrivals =>
    unfold evict
    exact if_neg (Nat.not_le.mpr room)

/-- A full memo drops its oldest key, and then there is room. -/
lemma evict_of_eq (full : (oldest :: arrivals).length = capacity) :
    evict capacity memo (oldest :: arrivals) =
      ⟨memo.forget oldest arrivals, (), [.evicted oldest]⟩ := by
  have room : arrivals.length < capacity := by
    rw [← full]
    exact Nat.lt_succ_self _
  unfold evict
  rw [if_pos (Nat.le_of_eq full.symm), evict_of_lt room]
  rfl

namespace Ordered

/-- A key is in the order exactly if it is found. -/
lemma mem_iff_find? (h : memo.Ordered) : key ∈ memo.arrivals ↔ memo.find? key ≠ none :=
  (h.mem_iff key).trans find?_ne_none_iff.symm

/-- The oldest key of the order is held, so without it there is one key less. -/
lemma size_forget (h : memo.Ordered) (order : memo.arrivals = oldest :: arrivals) :
    (memo.forget oldest arrivals).size + 1 = memo.size := by
  apply Memo.size_forget
  rw [← h.mem_iff, order]
  exact List.mem_cons_self

/-- Forgetting the oldest key takes it out of the order and out of the maps. -/
lemma forget (h : memo.Ordered) (order : memo.arrivals = oldest :: arrivals) :
    (memo.forget oldest arrivals).Ordered := by
  have distinct := h.nodup
  rw [order] at distinct
  constructor
  · exact (List.nodup_cons.mp distinct).2
  · intro other
    rw [← find?_ne_none_iff, find?_forget]
    show other ∈ arrivals ↔ _
    by_cases eq : oldest = other
    · rw [if_pos eq, ← eq]
      simpa using (List.nodup_cons.mp distinct).1
    · rw [if_neg eq, ← h.mem_iff_find?, order, List.mem_cons]
      exact (or_iff_right (Ne.symm eq)).symm
  · have size_eq := h.size_forget order
    have length_eq := h.length_eq
    rw [order, List.length_cons] at length_eq
    show arrivals.length = _
    omega

/-- A key that is not held comes last in the order, and the order has exactly the keys that are held
then. -/
lemma store (h : memo.Ordered) (bounded : memo.capacity = some capacity)
    (absent : memo.find? key = none) : (memo.store key d).Ordered := by
  have arrivals_eq : (memo.store key d).arrivals = memo.arrivals ++ [key] :=
    arrivals_store bounded
  have not_mem : key ∉ memo.arrivals := by
    rw [h.mem_iff_find?, absent]
    exact fun ne => ne rfl
  constructor
  · rw [arrivals_eq, ← List.concat_eq_append]
    exact h.nodup.concat not_mem
  · intro other
    rw [arrivals_eq, ← find?_ne_none_iff, find?_store, List.mem_append, List.mem_singleton,
      h.mem_iff_find?]
    by_cases eq : key = other
    · simp [eq]
    · simp [eq, Ne.symm eq]
  · rw [arrivals_eq, size_store absent, ← h.length_eq]
    exact List.length_append

end Ordered

/-- What storing a key does to a memo that holds at most `capacity` keys: nothing if the key is held
already; else it comes last, and if the memo is full the oldest key, and that one only, is dropped
before. -/
inductive Inserted (capacity : Nat) (memo : Memo) (key : Key) (d : Descriptor) :
    Served Instance → Prop where
  | held {held : Instance} :
    memo.find? key = some held → Inserted capacity memo key d ⟨memo, held, []⟩
  | room :
    memo.find? key = none → memo.size < capacity →
    Inserted capacity memo key d ⟨memo.store key d, memo.next d, [.cached key]⟩
  | full {oldest : Key} {arrivals : List Key} :
    memo.find? key = none → memo.size = capacity → memo.arrivals = oldest :: arrivals →
    Inserted capacity memo key d
      ⟨(memo.forget oldest arrivals).store key d, memo.next d, [.evicted oldest, .cached key]⟩

/-- A key that is held already is not stored again, and its instance is the answer. -/
lemma insert_of_held {held : Instance} (stores : memo.capacity ≠ some 0)
    (found : memo.find? key = some held) : memo.insert key d = ⟨memo, held, []⟩ := by
  unfold insert
  split
  · next disabled => exact absurd disabled stores
  · simp only [found]
  · simp only [found]

/-- Room is made for a key that is not held, and then it is stored. -/
lemma insert_of_absent (limit : memo.capacity = some (capacity + 1))
    (absent : memo.find? key = none) :
    memo.insert key d =
      let room := evict (capacity + 1) memo memo.arrivals
      ⟨room.memo.store key d, room.memo.next d, room.events ++ [.cached key]⟩ := by
  unfold insert
  simp only [limit, absent]

/-- Where there is room already, the key is stored. -/
lemma insert_of_room (limit : memo.capacity = some (capacity + 1))
    (absent : memo.find? key = none) (room : memo.arrivals.length < capacity + 1) :
    memo.insert key d = ⟨memo.store key d, memo.next d, [.cached key]⟩ := by
  rw [insert_of_absent limit absent, evict_of_lt room]
  rfl

/-- Where there is none, the oldest key goes before. -/
lemma insert_of_full (limit : memo.capacity = some (capacity + 1))
    (absent : memo.find? key = none) (order : memo.arrivals = oldest :: arrivals)
    (full : (oldest :: arrivals).length = capacity + 1) :
    memo.insert key d =
      ⟨(memo.forget oldest arrivals).store key d, memo.next d,
        [.evicted oldest, .cached key]⟩ := by
  have next_eq : (memo.forget oldest arrivals).next d = memo.next d := next_forget
  rw [insert_of_absent limit absent, order, evict_of_eq full, ← next_eq]
  rfl

/-- A memo of capacity zero hands out a new instance, and stores nothing. -/
lemma insert_of_disabled (disabled : memo.capacity = some 0) :
    memo.insert key d = ⟨{ memo with issued := memo.issued + 1 }, memo.next d, []⟩ := by
  obtain ⟨capacity, plain, degrouped, arrivals, issued⟩ := memo
  cases disabled
  rfl

/-- Without a capacity no order is kept. -/
lemma arrivals_insert (unbounded : memo.capacity = none) :
    (memo.insert key d).memo.arrivals = memo.arrivals := by
  unfold insert
  rw [unbounded]
  cases found : memo.find? key with
  | some held => rfl
  | none => simp [store, unbounded]

namespace Bounded

variable (h : memo.Bounded capacity) (positive : 0 < capacity)

include h positive

/-- A memo that holds keys is not one that holds none. -/
lemma capacity_ne : memo.capacity ≠ some 0 := by
  rw [h.capacity_eq]
  intro eq
  cases eq
  exact Nat.lt_irrefl 0 positive

/-- A memo is full or has room, and the loop that drops keys goes around once or not at all. -/
lemma inserted (key : Key) (d : Descriptor) :
    Inserted capacity memo key d (memo.insert key d) := by
  cases found : memo.find? key with
  | some held =>
    rw [insert_of_held (h.capacity_ne positive) found]
    exact .held found
  | none =>
    -- `insert` tells capacity zero apart
    obtain ⟨below, rfl⟩ := Nat.exists_eq_add_one.mpr positive
    rcases Nat.lt_or_eq_of_le h.fits with room | full
    · have shorter : memo.arrivals.length < below + 1 := by
        rw [h.length_eq]
        exact room
      rw [insert_of_room h.capacity_eq found shorter]
      exact .room found room
    · cases order : memo.arrivals with
      | nil =>
        rw [← h.length_eq, order] at full
        exact absurd full.symm (Nat.ne_of_gt positive)
      | cons oldest arrivals =>
        have length_eq : (oldest :: arrivals).length = below + 1 := by
          rw [← order, h.length_eq, full]
        rw [insert_of_full h.capacity_eq found order length_eq]
        exact .full found full order

/-- Whatever is stored, the order stays right and the capacity is kept. -/
lemma insert (key : Key) (d : Descriptor) : (memo.insert key d).memo.Bounded capacity := by
  have inserted := h.inserted positive key d
  generalize memo.insert key d = served at inserted ⊢
  cases inserted with
  | held found => exact h
  | room absent room =>
    refine ⟨h.store h.capacity_eq absent, capacity_store.trans h.capacity_eq, ?_⟩
    rw [size_store absent]
    exact room
  | @full oldest arrivals absent full order =>
    have gone : (memo.forget oldest arrivals).find? key = none := find?_forget_eq_none absent
    have capacity_eq : (memo.forget oldest arrivals).capacity = some capacity :=
      capacity_forget.trans h.capacity_eq
    refine ⟨(h.forget order).store capacity_eq gone, capacity_store.trans capacity_eq, ?_⟩
    rw [size_store gone, h.size_forget order]
    exact h.fits

end Bounded

/-- An empty memo has no order, and is within any capacity. -/
lemma Bounded.empty (capacity issued : Nat) : Bounded capacity ⟨some capacity, ∅, ∅, [], issued⟩ where
  nodup := List.nodup_nil
  mem_iff key := by
    rw [← find?_ne_none_iff]
    obtain ⟨input, degroup⟩ := key
    cases degroup <;> simp [find?, entries]
  length_eq := rfl
  capacity_eq := rfl
  fits := Nat.zero_le capacity

/-- Whatever is stored, the capacity stays. -/
@[simp] lemma capacity_insert : (memo.insert key d).memo.capacity = memo.capacity := by
  unfold insert
  split
  · rfl
  · split
    · rfl
    · exact capacity_store
  · split
    · rfl
    · exact capacity_store.trans (capacity_evict _)

/-- A memo stays as it is, holds nothing any more, or stores a key. -/
lemma memo_serve (cc : Classifier) (memo : Memo) (request : Request) :
    (memo.serve cc request).memo = memo ∨ (memo.serve cc request).memo = memo.clear ∨
      ∃ key d, (memo.serve cc request).memo = (memo.insert key d).memo := by
  cases request with
  | get key => exact .inl rfl
  | clear => exact .inr (.inl rfl)
  | insert key d => exact .inr (.inr ⟨key, d, rfl⟩)
  | parse key =>
    show (memo.parse cc key).memo = memo ∨ (memo.parse cc key).memo = memo.clear ∨
      ∃ key' d, (memo.parse cc key).memo = (memo.insert key' d).memo
    unfold parse
    split
    · exact .inl rfl
    · split
      · exact .inr (.inr ⟨_, _, rfl⟩)
      · exact .inl rfl

/-- Requests keep the order right and stay within the capacity. -/
lemma Bounded.serve (h : memo.Bounded capacity) (positive : 0 < capacity) (cc : Classifier)
    (request : Request) : (memo.serve cc request).memo.Bounded capacity := by
  rcases memo_serve cc memo request with same | cleared | ⟨key, d, inserted⟩
  · rw [same]
    exact h
  · rw [cleared]
    show Bounded capacity ⟨memo.capacity, ∅, ∅, [], memo.issued⟩
    rw [h.capacity_eq]
    exact .empty capacity memo.issued
  · rw [inserted]
    exact h.insert positive key d

/-- No request changes the capacity. -/
lemma capacity_serve (cc : Classifier) (memo : Memo) (request : Request) :
    (memo.serve cc request).memo.capacity = memo.capacity := by
  rcases memo_serve cc memo request with same | cleared | ⟨key, d, inserted⟩
  · rw [same]
  · rw [cleared]
    rfl
  · rw [inserted]
    exact capacity_insert

/-- No run of requests does. -/
lemma capacity_run (cc : Classifier) (memo : Memo) (requests : List Request) :
    (memo.run cc requests).capacity = memo.capacity := by
  induction requests generalizing memo with
  | nil => rfl
  | cons request requests ih => exact (ih _).trans (capacity_serve cc memo request)

namespace Consistent

/-- An empty memo is consistent, whatever its capacity and however many instances were made. -/
lemma empty (capacity : Option Nat) (issued : Nat) : Consistent ⟨capacity, ∅, ∅, [], issued⟩ := by
  constructor
  · intro unbounded
    rfl
  · intro disabled
    exact ⟨Std.HashMap.isEmpty_empty, Std.HashMap.isEmpty_empty, rfl⟩
  · intro bound bounded positive
    cases bounded
    exact .empty bound issued

/-- Storing a key keeps a memo consistent, with each kind of capacity. -/
lemma insert (h : memo.Consistent) (key : Key) (d : Descriptor) :
    (memo.insert key d).memo.Consistent := by
  constructor <;> rw [capacity_insert]
  · intro unbounded
    exact (arrivals_insert unbounded).trans (h.unbounded unbounded)
  · intro disabled
    rw [insert_of_disabled disabled]
    exact h.disabled disabled
  · intro capacity bounded positive
    exact (h.bounded capacity bounded positive).insert positive key d

/-- Every request keeps a memo consistent. -/
lemma serve (h : memo.Consistent) (cc : Classifier) (request : Request) :
    (memo.serve cc request).memo.Consistent := by
  rcases memo_serve cc memo request with same | cleared | ⟨key, d, inserted⟩
  · rw [same]
    exact h
  · rw [cleared]
    exact empty memo.capacity memo.issued
  · rw [inserted]
    exact h.insert key d

/-- So does every run of requests. -/
lemma run (h : memo.Consistent) (cc : Classifier) (requests : List Request) :
    (memo.run cc requests).Consistent := by
  induction requests generalizing memo with
  | nil => exact h
  | cons request requests ih => exact ih (h.serve cc request)

end Consistent

/-- The maps and the order of a memo agree after any run of requests, and stay within the capacity.
Without a capacity no order is kept; with capacity zero nothing is held. Else the order has each key
once, it has those that are held and no others, and they are as many as the memo counts, which is at
most the capacity. -/
theorem run_consistent (cc : Classifier) (capacity : Option Nat) (requests : List Request) :
    let memo := (new capacity).run cc requests
    (capacity = none → memo.arrivals = []) ∧
    (capacity = some 0 →
      memo.plain.isEmpty = true ∧ memo.degrouped.isEmpty = true ∧ memo.arrivals = []) ∧
    (∀ bound, capacity = some bound → 0 < bound →
      memo.arrivals.Nodup ∧
      (∀ key, key ∈ memo.arrivals ↔ key.input ∈ memo.entries key.degroup) ∧
      memo.arrivals.length = memo.size ∧ memo.size ≤ bound) := by
  intro memo
  have consistent : memo.Consistent := (Consistent.empty capacity 0).run cc requests
  have capacity_eq : memo.capacity = capacity := capacity_run cc (new capacity) requests
  refine ⟨fun unbounded => ?_, fun disabled => ?_, fun bound bounded positive => ?_⟩
  · exact consistent.unbounded (capacity_eq.trans unbounded)
  · exact consistent.disabled (capacity_eq.trans disabled)
  · have h := consistent.bounded bound (capacity_eq.trans bounded) positive
    exact ⟨h.nodup, h.mem_iff, h.length_eq, h.fits⟩

/-- The maps and the order agree after a clear, and after one reading of a text made the other go.
Only the reading that came last is held then, and it is handed out again as the same instance. -/
theorem run_consistent_one :
    let kept : Key := ⟨"(a)".toList, false⟩
    let unwrapped : Key := ⟨"(a)".toList, true⟩
    let requests : List Request :=
      [.parse unwrapped, .clear, .insert unwrapped (.group ['b']), .parse kept]
    let memo := (new (some 1)).run .standard requests
    (memo.arrivals.Nodup ∧
      (∀ key, key ∈ memo.arrivals ↔ key.input ∈ memo.entries key.degroup) ∧
      memo.arrivals.length = memo.size ∧ memo.size ≤ 1) ∧
    memo.arrivals = [kept] ∧ memo.find? kept = some ⟨2, .group ['a']⟩ ∧
    memo.find? unwrapped = none ∧
    (serveAll .standard (new (some 1)) (requests ++ [.parse kept])).map
        (fun served => (served.answer, served.events)) =
      [(some (.ok ⟨0, .generic [] ['a'] [] .empty⟩), [.miss unwrapped, .cached unwrapped]),
        (none, []),
        (some (.ok ⟨1, .group ['b']⟩), [.cached unwrapped]),
        (some (.ok ⟨2, .group ['a']⟩), [.miss kept, .evicted unwrapped, .cached kept]),
        (some (.ok ⟨2, .group ['a']⟩), [.hit kept])] := by
  intro kept unwrapped requests memo
  have differ : unwrapped ≠ kept := by decide
  have unwrapped_read :
      Descriptor.parse .standard unwrapped.degroup unwrapped.input =
        .ok (.generic [] ['a'] [] .empty) := by
    decide +kernel
  have kept_read : Descriptor.parse .standard kept.degroup kept.input = .ok (.group ['a']) := by
    decide +kernel
  -- the memo after each request that stores a key
  let first := (new (some 1)).store unwrapped (.generic [] ['a'] [] .empty)
  let third := first.clear.store unwrapped (.group ['b'])
  let last := (third.forget unwrapped []).store kept (.group ['a'])
  have kept_absent : third.find? kept = none := by
    rw [find?_store, if_neg differ, find?_clear]
  have kept_held : last.find? kept = some ⟨2, .group ['a']⟩ := by
    rw [find?_store, if_pos rfl]
    rfl
  have unwrapped_gone : last.find? unwrapped = none := by
    rw [find?_store, if_neg differ.symm, find?_forget, if_pos rfl]
  have first_eq : (new (some 1)).parse .standard unwrapped =
      ⟨first, .ok ⟨0, .generic [] ['a'] [] .empty⟩, [.miss unwrapped, .cached unwrapped]⟩ := by
    have absent := find?_new (some 1) unwrapped
    rw [parse_of_none absent unwrapped_read, insert_of_room rfl absent Nat.one_pos]
    rfl
  have third_eq : first.clear.insert unwrapped (.group ['b']) =
      ⟨third, ⟨1, .group ['b']⟩, [.cached unwrapped]⟩ :=
    insert_of_room rfl (find?_clear first unwrapped) Nat.one_pos
  have last_eq : third.parse .standard kept =
      ⟨last, .ok ⟨2, .group ['a']⟩, [.miss kept, .evicted unwrapped, .cached kept]⟩ := by
    rw [parse_of_none kept_absent kept_read, insert_of_full rfl kept_absent rfl rfl]
    rfl
  have memo_eq : memo = last := by
    simp only [memo, requests, run, List.foldl, serve, first_eq, third_eq, last_eq]
  refine ⟨(run_consistent .standard (some 1) _).2.2 1 rfl Nat.one_pos, ?_⟩
  rw [memo_eq]
  refine ⟨rfl, kept_held, unwrapped_gone, ?_⟩
  simp only [requests, List.cons_append, List.nil_append, serveAll, serve, first_eq, third_eq, last_eq,
    parse_of_held kept_held, List.map]

end TypeShape.Memo
