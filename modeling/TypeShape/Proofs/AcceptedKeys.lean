import Mathlib.Data.Finset.Dedup
import TypeShape.Proofs.EventLog

/-!
# What a memo without a capacity holds

Where nothing is stored by hand, a memo without a capacity holds the keys that it was asked to answer
since the last clear, without those that are rejected. That is kept by each request
(`Collects.serving`), so it holds after every run, and neither the order of the keys nor how often each
was asked for can be told from what is held (`run_collects_accepted`). A key that was answered is not
stored again, so answering it once more leaves the memo as it is (`Collects.serve_again`).
-/

namespace TypeShape

/-- The keys to be answered since the last clear, where `keys` are those before a request. -/
def Request.since (keys : List Key) : Request → List Key
  | .parse key => keys ++ [key]
  | .get _ | .insert _ _ => keys
  | .clear => []

/-- The keys that are to be answered after the last clear, in order and as often as they are asked
for. -/
def Request.parsedKeys (requests : List Request) : List Key :=
  requests.foldl since []

/-- The keys whose text is read, each of them once. -/
def Key.accepted (cc : Classifier) (keys : List Key) : Finset Key :=
  keys.toFinset.filter fun key => (Descriptor.parse cc key.degroup key.input).isOk = true

open Request Key

variable {cc : Classifier} {memo : Memo} {keys again : List Key} {key other : Key} {d : Descriptor}
  {request : Request} {requests : List Request}

namespace Key

/-- The accepted keys are those of the list whose text is read. -/
lemma mem_accepted_iff :
    key ∈ accepted cc keys ↔
      key ∈ keys ∧ ∃ d, Descriptor.parse cc key.degroup key.input = .ok d := by
  simp only [accepted, Finset.mem_filter, List.mem_toFinset]
  cases Descriptor.parse cc key.degroup key.input <;> simp [Except.isOk, Except.toBool]

/-- A key that is rejected is not accepted. -/
lemma not_mem_accepted {rejection : Rejection}
    (rejected : Descriptor.parse cc key.degroup key.input = .error rejection) :
    key ∉ accepted cc keys := by
  rw [mem_accepted_iff, rejected]
  rintro ⟨_, d, ⟨⟩⟩

/-- Only a key that is read for the first time is added. -/
lemma mem_accepted_snoc :
    other ∈ accepted cc (keys ++ [key]) ↔
      other ∈ accepted cc keys ∨
        other = key ∧ ∃ d, Descriptor.parse cc key.degroup key.input = .ok d := by
  simp only [mem_accepted_iff, List.mem_append, List.mem_singleton]
  constructor
  · rintro ⟨mem | rfl, read⟩
    · exact .inl ⟨mem, read⟩
    · exact .inr ⟨rfl, read⟩
  · rintro (⟨mem, read⟩ | ⟨rfl, read⟩)
    · exact ⟨.inl mem, read⟩
    · exact ⟨.inr rfl, read⟩

/-- The accepted keys are told by which keys there are, whatever their order and number. -/
lemma accepted_congr (same : ∀ key, key ∈ keys ↔ key ∈ again) :
    accepted cc keys = accepted cc again := by
  ext key
  rw [mem_accepted_iff, mem_accepted_iff, same]

end Key

namespace Memo

/-- What is held for a key, no matter which instance it is. -/
def contents (memo : Memo) (key : Key) : Option Descriptor :=
  (memo.find? key).map Instance.descriptor

/-- A memo without a capacity that holds the accepted ones among some keys, and each as it is read. -/
structure Collects (cc : Classifier) (memo : Memo) (keys : List Key) : Prop where
  consistent : memo.Consistent
  unbounded : memo.capacity = none
  faithful : Faithful cc memo
  held_iff : ∀ key, memo.find? key ≠ none ↔ key ∈ accepted cc keys

/-- Without a capacity a key that is absent is stored, and nothing goes. -/
lemma Insertion.grown {served : Served Instance} (h : Insertion memo key d served)
    (absent : memo.find? key = none) (unbounded : memo.capacity = none) :
    Grown memo key d none served.memo := by
  cases h with
  | held found =>
    rw [absent] at found
    cases found
  | disabled limit _ =>
    rw [unbounded] at limit
    cases limit
  | stored grown =>
    cases grown.dropped_eq_none unbounded
    exact grown

namespace Collects

/-- A new memo has collected what is accepted of no keys. -/
lemma new (cc : Classifier) : Collects cc (new none) [] where
  consistent := .empty none 0
  unbounded := rfl
  faithful := .new cc none
  held_iff key := by
    rw [mem_accepted_iff]
    exact ⟨fun held => absurd (find?_new none key) held, fun mem => nomatch mem.1⟩

variable (h : Collects cc memo keys)
include h

/-- Every request but an insert leaves the accepted ones among the keys since the last clear. -/
lemma held_iff_serving {served : Served (Option (Except Rejection Instance))}
    (serving : Serving cc memo request served) (no_insert : ∀ key d, request ≠ .insert key d)
    (other : Key) : served.memo.find? other ≠ none ↔ other ∈ accepted cc (request.since keys) := by
  cases serving with
  | @hit key held found =>
    -- the key is among the accepted ones already
    have mem : key ∈ accepted cc keys := (h.held_iff key).mp (by rw [found]; exact nofun)
    rw [h.held_iff, since, mem_accepted_snoc]
    constructor
    · exact .inl
    · rintro (mem' | ⟨rfl, _⟩)
      · exact mem'
      · exact mem
  | @rejected key rejection _ rejected =>
    rw [h.held_iff, since, mem_accepted_snoc, rejected]
    simp
  | @parsed key d stored absent read insertion =>
    have grown := insertion.grown absent h.unbounded
    rw [grown.find?_eq, since, mem_accepted_snoc, ← h.held_iff]
    by_cases eq : key = other
    · subst eq
      simp [read]
    · simp [eq, Ne.symm eq]
  | get => exact h.held_iff other
  | insert _ => exact absurd rfl (no_insert _ _)
  | clear => simp [find?_clear, since, mem_accepted_iff]

/-- Every request but an insert keeps a memo collecting what is accepted. -/
lemma serve (request : Request) (no_insert : ∀ key d, request ≠ .insert key d) :
    Collects cc (memo.serve cc request).memo (request.since keys) where
  consistent := h.consistent.serve cc request
  unbounded := (capacity_serve cc memo request).trans h.unbounded
  faithful := by
    apply h.faithful.serve
    cases request with
    | insert key d => exact absurd rfl (no_insert key d)
    | _ => trivial
  held_iff := h.held_iff_serving (h.consistent.serving cc request) no_insert

/-- So does every run without inserts. -/
lemma run (no_insert : ∀ key d, .insert key d ∉ requests) :
    Collects cc (memo.run cc requests) (requests.foldl since keys) := by
  induction requests generalizing memo keys with
  | nil => exact h
  | cons request requests ih =>
    have served := h.serve request fun key d eq => no_insert key d (by simp [eq])
    exact ih served fun key d mem => no_insert key d (by simp [mem])

/-- What is held for a key is what it is read as. -/
lemma contents_eq_some_iff :
    memo.contents key = some d ↔ key ∈ keys ∧ Descriptor.parse cc key.degroup key.input = .ok d := by
  rw [contents, Option.map_eq_some_iff]
  constructor
  · rintro ⟨held, found, rfl⟩
    have mem := (h.held_iff key).mp (by rw [found]; exact nofun)
    exact ⟨(mem_accepted_iff.mp mem).1, h.faithful key held found⟩
  · rintro ⟨mem, read⟩
    have there := (h.held_iff key).mpr (mem_accepted_iff.mpr ⟨mem, d, read⟩)
    obtain ⟨held, found⟩ := Option.ne_none_iff_exists'.mp there
    have held_read := h.faithful key held found
    rw [read] at held_read
    exact ⟨held, found, (Except.ok.inj held_read).symm⟩

/-- A key that was answered since the last clear leaves the memo as it is when it is answered again,
and is answered from the memo if it is accepted. -/
lemma serve_again (mem : key ∈ keys) :
    (memo.serve cc (.parse key)).memo = memo ∧
      (key ∈ accepted cc keys → ∃ held, memo.find? key = some held ∧
        memo.serve cc (.parse key) = ⟨memo, some (.ok held), [.hit key]⟩) := by
  have serving := h.consistent.serving cc (.parse key)
  generalize memo.serve cc (.parse key) = served at serving ⊢
  cases serving with
  | hit found => exact ⟨rfl, fun _ => ⟨_, found, rfl⟩⟩
  | rejected _ rejected => exact ⟨rfl, fun accepts => absurd accepts (not_mem_accepted rejected)⟩
  | parsed absent read _ =>
    have accepts := mem_accepted_iff.mpr ⟨mem, _, read⟩
    exact absurd absent ((h.held_iff key).mpr accepts)

/-- Keys that were answered since the last clear are all answered again by one and the same memo. -/
lemma serveAll_again (within : again ⊆ keys) :
    memo.run cc (again.map .parse) = memo ∧
      serveAll cc memo (again.map .parse) = again.map fun key => memo.serve cc (.parse key) := by
  induction again with
  | nil => exact ⟨rfl, rfl⟩
  | cons key again ih =>
    have same := (h.serve_again (within List.mem_cons_self)).1
    obtain ⟨run_eq, serveAll_eq⟩ := ih fun other mem => within (List.mem_cons_of_mem key mem)
    constructor
    · rw [List.map_cons, Memo.run, List.foldl_cons, same]
      exact run_eq
    · rw [List.map_cons, serveAll, same, serveAll_eq]
      rfl

/-- As many keys are held as are accepted, whatever the events of the run were. -/
lemma size_eq {log : List Event} (record : Record memo log) :
    memo.size = (accepted cc keys).card := by
  have same : Event.replayed log = accepted cc keys := by
    ext key
    rw [record.mem_iff, h.held_iff]
  rw [record.size_eq, same]

end Collects

/-- A new memo collects in every run without inserts. -/
lemma collects_run (cc : Classifier) (no_insert : ∀ key d, .insert key d ∉ requests) :
    Collects cc ((new none).run cc requests) (parsedKeys requests) :=
  (Collects.new cc).run no_insert

/-- So it holds as many keys then as are accepted. -/
lemma size_run (cc : Classifier) (no_insert : ∀ key d, .insert key d ∉ requests) :
    ((new none).run cc requests).size = (accepted cc (parsedKeys requests)).card := by
  have record := (record_clear (new none)).run (.empty none 0) cc requests
  exact (collects_run cc no_insert).size_eq record

/-- What a memo without a capacity holds after requests none of which is an insert: the accepted ones
among the keys to be answered since the last clear, as many as there are different ones, and each as it
is read. So after every other run with the same keys since its last clear, in any order and number, the
same is held. All of these keys, or some of them, in any order and number, leave the memo as it is when
they are to be answered again, and those that are accepted are all answered from it. -/
theorem run_collects_accepted (cc : Classifier) {requests : List Request}
    (no_insert : ∀ key d, .insert key d ∉ requests) :
    let memo := (new none).run cc requests
    (∀ key d, memo.contents key = some d ↔
      key ∈ parsedKeys requests ∧ Descriptor.parse cc key.degroup key.input = .ok d) ∧
    memo.size = (accepted cc (parsedKeys requests)).card ∧
    (∀ others : List Request, (∀ key d, .insert key d ∉ others) →
      (∀ key, key ∈ parsedKeys others ↔ key ∈ parsedKeys requests) →
        ((new none).run cc others).contents = memo.contents ∧
        ((new none).run cc others).size = memo.size) ∧
    ∀ again ⊆ parsedKeys requests,
      memo.run cc (again.map .parse) = memo ∧
      List.Forall₂
        (fun key served => served.memo = memo ∧
          (key ∈ accepted cc (parsedKeys requests) → ∃ held, memo.find? key = some held ∧
            served.answer = some (.ok held) ∧ served.events = [.hit key]))
        again (serveAll cc memo (again.map .parse)) := by
  intro memo
  have collects : Collects cc memo (parsedKeys requests) := collects_run cc no_insert
  refine ⟨fun key d => collects.contents_eq_some_iff, size_run cc no_insert, ?_, ?_⟩
  · intro others others_no_insert same
    -- what either memo holds is told by its keys alone
    have others_collect := collects_run cc others_no_insert
    constructor
    · funext key
      apply Option.ext
      intro d
      rw [others_collect.contents_eq_some_iff, collects.contents_eq_some_iff, same]
    · rw [size_run cc others_no_insert, size_run cc no_insert, accepted_congr same]
  · intro again within
    obtain ⟨run_eq, serveAll_eq⟩ := collects.serveAll_again within
    refine ⟨run_eq, ?_⟩
    rw [serveAll_eq, List.forall₂_map_right_iff, List.forall₂_same]
    intro key mem
    obtain ⟨same, hit⟩ := collects.serve_again (within mem)
    refine ⟨same, fun accepts => ?_⟩
    obtain ⟨held, found, served_eq⟩ := hit accepts
    rw [served_eq]
    exact ⟨held, found, rfl, rfl⟩

/-- Before the clear another key is held. After it both readings of a text are asked for, one of them
twice, with a rejected text between, and then the other way round. -/
theorem run_collects_accepted_twice :
    let kept : Key := ⟨"(a)".toList, false⟩
    let unwrapped : Key := ⟨"(a)".toList, true⟩
    let wrong : Key := ⟨[';'], false⟩
    let requests : List Request :=
      [.parse ⟨['b'], false⟩, .clear, .parse kept, .parse wrong, .parse unwrapped, .parse kept]
    let others : List Request := [.parse unwrapped, .parse kept, .parse wrong]
    let memo := (new none).run .standard requests
    (∀ key d, .insert key d ∉ requests) ∧ (∀ key d, .insert key d ∉ others) ∧
      memo.contents kept = some (.group ['a']) ∧ memo.contents wrong = none ∧ memo.size = 2 ∧
      ((new none).run .standard others).contents = memo.contents ∧
      memo.run .standard [.parse wrong, .parse unwrapped] = memo := by
  intro kept unwrapped wrong requests others memo
  have no_insert : ∀ key d, .insert key d ∉ requests := by simp [requests]
  have others_no_insert : ∀ key d, .insert key d ∉ others := by simp [others]
  have keys_eq : parsedKeys requests = [kept, wrong, unwrapped, kept] := rfl
  have read : Descriptor.parse .standard false "(a)".toList = .ok (.group ['a']) := by
    decide +kernel
  have rejected : Descriptor.parse .standard false [';'] = .error ⟨[';'], .unexpected ';' ⟩ := by
    decide +kernel
  have reordered (a b c key : Key) : key ∈ [c, a, b] ↔ key ∈ [a, b, c, a] := by
    simp only [List.mem_cons, List.not_mem_nil, or_false]
    tauto
  have card : (accepted .standard (parsedKeys requests)).card = 2 := by decide +kernel
  obtain ⟨contents, size, same, rerun⟩ := run_collects_accepted .standard no_insert
  refine ⟨no_insert, others_no_insert, (contents _ _).mpr ⟨by simp [keys_eq], read⟩, ?_,
    size.trans card, (same others others_no_insert (reordered kept wrong unwrapped)).1,
    (rerun [wrong, unwrapped] (by simp [keys_eq])).1⟩
  apply Option.eq_none_iff_forall_ne_some.mpr
  intro d held
  have read_wrong := ((contents wrong d).mp held).2
  rw [rejected] at read_wrong
  cases read_wrong

end Memo
end TypeShape
