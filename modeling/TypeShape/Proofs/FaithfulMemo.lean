import Mathlib.Control.Monad.Basic
import Mathlib.Tactic.Lemma
import TypeShape.Memo.Request

/-!
# Memos answer as the reader does

A memo is `Faithful` if every instance it holds is what its key reads as. Each request keeps a memo
faithful, as long as what is stored by hand is what its key reads as, and so does every run of
requests. So no caller can tell from an answer whether there is a memo (`run_transparent`).
-/

namespace TypeShape

/-- A request that stores nothing but what the key reads as. -/
def Request.Honest (cc : Classifier) : Request → Prop
  | .insert key d => Descriptor.parse cc key.degroup key.input = .ok d
  | _ => True

namespace Memo

/-- Every instance that is held is what its key reads as. -/
def Faithful (cc : Classifier) (memo : Memo) : Prop :=
  ∀ key held, memo.find? key = some held →
    Descriptor.parse cc key.degroup key.input = .ok held.descriptor

variable {cc : Classifier} {memo : Memo} {key other : Key} {d : Descriptor} {held : Instance}

/-- A change to one way of reading is not seen by the other. -/
lemma entries_update (memo : Memo) (degroup degroup' : Bool)
    (change : Std.HashMap Text Instance → Std.HashMap Text Instance) :
    (memo.update degroup change).entries degroup' =
      if degroup = degroup' then change (memo.entries degroup') else memo.entries degroup' := by
  cases degroup <;> cases degroup' <;> rfl

/-- A key that is taken away is not held, and no other key is touched. -/
lemma find?_erase (memo : Memo) (key other : Key) :
    (memo.update key.degroup (·.erase key.input)).find? other =
      if key = other then none else memo.find? other := by
  obtain ⟨input, degroup⟩ := key
  obtain ⟨input', degroup'⟩ := other
  unfold find?
  rw [entries_update]
  by_cases same : degroup = degroup'
  · subst same
    simp [Std.HashMap.getElem?_erase]
  · simp [same]

/-- A key that is put in is held, and no other key is touched. -/
lemma find?_insert (memo : Memo) (key other : Key) (made : Instance) :
    (memo.update key.degroup (·.insert key.input made)).find? other =
      if key = other then some made else memo.find? other := by
  obtain ⟨input, degroup⟩ := key
  obtain ⟨input', degroup'⟩ := other
  unfold find?
  rw [entries_update]
  by_cases same : degroup = degroup'
  · subst same
    simp [Std.HashMap.getElem?_insert]
  · simp [same]

/-- A key that is stored is held from then on, and no other key is touched. -/
lemma find?_store (memo : Memo) (key other : Key) (d : Descriptor) :
    (memo.store key d).find? other = if key = other then some (memo.next d) else memo.find? other :=
  find?_insert memo key other (memo.next d)

/-- Nothing is held after a clear. -/
lemma find?_clear (memo : Memo) (key : Key) : memo.clear.find? key = none := by
  obtain ⟨input, degroup⟩ := key
  cases degroup <;> simp [find?, entries, Memo.clear]

/-- A new memo holds nothing. -/
lemma find?_new (capacity : Option Nat) (key : Key) : (new capacity).find? key = none :=
  find?_clear (new capacity) key

/-- A key that is held is answered with its instance. -/
lemma parse_of_held (found : memo.find? key = some held) :
    memo.parse cc key = ⟨memo, .ok held, [.hit key]⟩ := by
  unfold parse
  rw [found]

/-- A key that is not held is read, and what it reads as is stored. -/
lemma parse_of_none (absent : memo.find? key = none)
    (read : Descriptor.parse cc key.degroup key.input = .ok d) :
    memo.parse cc key =
      ⟨(memo.insert key d).memo, .ok (memo.insert key d).answer,
        .miss key :: (memo.insert key d).events⟩ := by
  unfold parse
  simp only [absent, read]

/-- A key that is rejected is answered with the rejection, and the memo stays as it is. -/
lemma parse_of_rejected {rejection : Rejection} (absent : memo.find? key = none)
    (rejected : Descriptor.parse cc key.degroup key.input = .error rejection) :
    memo.parse cc key =
      ⟨memo, .error rejection, [.miss key, .rejected key rejection.reason]⟩ := by
  unfold parse
  simp only [absent, rejected]

/-- What is held after keys were dropped was held before. -/
lemma find?_of_evict {capacity : Nat} {arrivals : List Key}
    (h : (evict capacity memo arrivals).memo.find? key = some held) :
    memo.find? key = some held := by
  induction arrivals generalizing memo with
  | nil => exact h
  | cons oldest arrivals ih =>
    unfold evict at h
    split at h
    · have found := ih h
      rw [find?_erase] at found
      split at found
      · cases found
      · exact found
    · exact h

namespace Faithful

/-- A new memo is faithful, because it holds nothing. -/
lemma new (cc : Classifier) (capacity : Option Nat) : Faithful cc (Memo.new capacity) := by
  intro key held found
  cases (find?_new capacity key).symm.trans found

/-- A memo that was emptied is faithful, because it holds nothing. -/
lemma clear (cc : Classifier) (memo : Memo) : Faithful cc memo.clear := by
  intro key held found
  cases (find?_clear memo key).symm.trans found

/-- A faithful memo stays faithful when keys are dropped. -/
lemma evict {capacity : Nat} {arrivals : List Key} (h : Faithful cc memo) :
    Faithful cc (evict capacity memo arrivals).memo :=
  fun key held found => h key held (find?_of_evict found)

/-- It stays faithful when what a key reads as is stored for the key. -/
lemma store (h : Faithful cc memo) (read : Descriptor.parse cc key.degroup key.input = .ok d) :
    Faithful cc (memo.store key d) := by
  intro other held found
  rw [find?_store] at found
  split at found
  · next eq =>
    cases found
    rw [← eq]
    exact read
  · exact h other held found

/-- Storing what a key reads as keeps a memo faithful, and the answer is what the key reads as,
whether it is made now or held already. -/
lemma insert (h : Faithful cc memo) (read : Descriptor.parse cc key.degroup key.input = .ok d) :
    Faithful cc (memo.insert key d).memo ∧ (memo.insert key d).answer.descriptor = d := by
  -- an insert may come late, but what is held by then is what the same key reads as
  have answer_eq {held : Instance} (found : memo.find? key = some held) : held.descriptor = d := by
    have held_read := h key held found
    rw [read] at held_read
    exact (Except.ok.inj held_read).symm
  unfold Memo.insert
  split
  · exact ⟨h, rfl⟩
  · split
    · next found => exact ⟨h, answer_eq found⟩
    · exact ⟨h.store read, rfl⟩
  · split
    · next found => exact ⟨h, answer_eq found⟩
    · exact ⟨h.evict.store read, rfl⟩

/-- Answering a key keeps a memo faithful. -/
lemma parse (h : Faithful cc memo) (key : Key) : Faithful cc (memo.parse cc key).memo := by
  unfold Memo.parse
  split
  · exact h
  · split
    · next read => exact (h.insert read).1
    · exact h

/-- A faithful memo answers a key with what it reads as. -/
lemma answer_parse (h : Faithful cc memo) (key : Key) :
    (memo.parse cc key).answer.map Instance.descriptor =
      Descriptor.parse cc key.degroup key.input := by
  unfold Memo.parse
  split
  · next held found => exact (h key held found).symm
  · split
    · next read =>
      rw [read]
      exact congrArg Except.ok (h.insert read).2
    · next read =>
      rw [read]
      rfl

/-- A faithful memo does not hold a key that is rejected. -/
lemma find?_eq_none (h : Faithful cc memo) {rejection : Rejection}
    (rejected : Descriptor.parse cc key.degroup key.input = .error rejection) :
    memo.find? key = none := by
  cases found : memo.find? key with
  | none => rfl
  | some held =>
    have read := h key held found
    rw [rejected] at read
    cases read

/-- Every request keeps a memo faithful. -/
lemma serve (h : Faithful cc memo) {request : Request} (honest : request.Honest cc) :
    Faithful cc (memo.serve cc request).memo := by
  cases request with
  | parse key => exact h.parse key
  | get key => exact h
  | insert key d => exact (h.insert honest).1
  | clear => exact clear cc memo

/-- Every run keeps a memo faithful. -/
lemma run (h : Faithful cc memo) {requests : List Request}
    (honest : ∀ request ∈ requests, request.Honest cc) : Faithful cc (memo.run cc requests) := by
  induction requests generalizing memo with
  | nil => exact h
  | cons request requests ih =>
    have served := h.serve (honest request (by simp))
    exact ih served fun other mem => honest other (by simp [mem])

end Faithful

/-- A key that is answered with a rejection leaves the memo as it was. -/
lemma parse_of_error {rejection : Rejection} (h : (memo.parse cc key).answer = .error rejection) :
    (memo.parse cc key).memo = memo := by
  unfold parse at h ⊢
  cases found : memo.find? key with
  | some held => simp only
  | none =>
    simp only [found] at h
    cases read : Descriptor.parse cc key.degroup key.input with
    | error rejection' => simp only
    | ok d =>
      rw [read] at h
      cases h

/-- After any run of requests, no caller can tell from an answer whether there is a memo. A key is
answered with what it reads as, and so is a lookup that finds something. A key that is rejected is
not held, and when it is answered everything that the memo holds, and the order of it, stays as it
was. -/
theorem run_transparent {requests : List Request} (capacity : Option Nat)
    (honest : ∀ request ∈ requests, request.Honest cc) (key : Key) :
    let memo := (new capacity).run cc requests
    (∃ answer, (memo.serve cc (.parse key)).answer = some answer ∧
      answer.map Instance.descriptor = Descriptor.parse cc key.degroup key.input) ∧
    (∀ held, (memo.serve cc (.get key)).answer = some (.ok held) →
      Descriptor.parse cc key.degroup key.input = .ok held.descriptor) ∧
    (∀ rejection, Descriptor.parse cc key.degroup key.input = .error rejection →
      memo.find? key = none) ∧
    (∀ rejection, (memo.serve cc (.parse key)).answer = some (.error rejection) →
      (memo.serve cc (.parse key)).memo = memo) := by
  intro memo
  have faithful : Faithful cc memo := (Faithful.new cc capacity).run honest
  refine ⟨⟨_, rfl, faithful.answer_parse key⟩, ?_, ?_, ?_⟩
  · intro held looked_up
    obtain ⟨found, found_eq, eq⟩ := Option.map_eq_some_iff.mp looked_up
    cases eq
    exact faithful key held found_eq
  · exact fun rejection rejected => faithful.find?_eq_none rejected
  · intro rejection answered
    exact parse_of_error (Option.some.inj answered)

/-- A key that was dropped for the other way of reading its text is answered as before. -/
theorem run_transparent_dropped :
    let kept : Key := ⟨"(a)".toList, false⟩
    let unwrapped : Key := ⟨"(a)".toList, true⟩
    let requests : List Request := [.parse unwrapped, .get kept, .insert kept (.group ['a'])]
    (∀ request ∈ requests, request.Honest .standard) ∧
      ∃ answer,
        (((new (some 1)).run .standard requests).serve .standard (.parse unwrapped)).answer =
          some answer ∧
        answer.map Instance.descriptor = .ok (.generic [] ['a'] [] .empty) := by
  intro kept unwrapped requests
  have stored : Descriptor.parse .standard false "(a)".toList = .ok (.group ['a']) := by
    decide +kernel
  have honest : ∀ request ∈ requests, request.Honest .standard := by
    simpa [requests, kept, Request.Honest] using stored
  have read : Descriptor.parse .standard true "(a)".toList = .ok (.generic [] ['a'] [] .empty) := by
    decide +kernel
  obtain ⟨answer, answered, eq⟩ := (run_transparent (some 1) honest unwrapped).1
  exact ⟨honest, answer, answered, eq.trans read⟩

end Memo
end TypeShape
