import TypeShape.Proofs.Serving

/-!
# Which answers are one instance

Two answers of a memo are the same instance exactly if they are for one key that stayed in the memo
from the first answer to the second (`same_instance_iff`). A key `Stays` while it is held and nothing
clears the memo or makes the key go. The numbers of instances tell keys apart and only grow
(`Numbered`), so an instance that is held was held under the same key ever since it was handed out
(`stays_of_find?`).
-/

namespace TypeShape.Memo

/-- A key is held, and no request clears the memo or makes the key go. -/
inductive Stays (cc : Classifier) (key : Key) : Memo → List Request → Prop where
  | nil {memo : Memo} :
    memo.find? key ≠ none →
    Stays cc key memo []
  | cons {memo : Memo} {request : Request} {requests : List Request} :
    memo.find? key ≠ none →
    request ≠ .clear →
    .evicted key ∉ (memo.serve cc request).events →
    Stays cc key (memo.serve cc request).memo requests →
    Stays cc key memo (request :: requests)

/-- The numbers of the instances that are held were given out, each for one key. -/
structure Numbered (memo : Memo) : Prop where
  lt_issued : ∀ key held, memo.find? key = some held → held.serial < memo.issued
  key_eq : ∀ key other held found, memo.find? key = some held → memo.find? other = some found →
    held.serial = found.serial → key = other

/-- An instance was handed out for a key. The key may have gone since. -/
structure HandedOut (memo : Memo) (key : Key) (a : Instance) : Prop where
  lt_issued : a.serial < memo.issued
  eq_of_find? : ∀ held, memo.find? key = some held → held = a
  key_eq : ∀ other held, memo.find? other = some held → held.serial = a.serial → other = key

variable {cc : Classifier} {memo after : Memo} {key other : Key} {d : Descriptor}
  {dropped : Option Key} {held a b : Instance} {request : Request} {requests : List Request}

/-- After a clear no instances are held, so their numbers are apart. -/
lemma numbered_clear (memo : Memo) : Numbered memo.clear where
  lt_issued key held found := by cases (find?_clear memo key).symm.trans found
  key_eq key other held held' found found' := by cases (find?_clear memo key).symm.trans found

/-- So they are in a new memo. -/
lemma numbered_new (capacity : Option Nat) : Numbered (Memo.new capacity) :=
  numbered_clear (Memo.new capacity)

namespace Grown

/-- The key that is stored is held under the next instance. -/
lemma find?_self (h : Grown memo key d dropped after) : after.find? key = some (memo.next d) := by
  rw [h.find?_eq, if_pos rfl]

/-- What is held afterwards is the next instance, or it was held before. -/
lemma cases_find? (h : Grown memo key d dropped after) (found : after.find? other = some held) :
    key = other ∧ held = memo.next d ∨ memo.find? other = some held := by
  rw [h.find?_eq] at found
  split at found
  · next eq =>
    cases found
    exact .inl ⟨eq, rfl⟩
  · split at found
    · cases found
    · exact .inr found

/-- The next number tells the key that is stored apart from those held before. -/
lemma numbered (h : Grown memo key d dropped after) (numbered : Numbered memo) :
    Numbered after where
  lt_issued other held found := by
    rw [h.issued_eq]
    rcases h.cases_find? found with ⟨_, rfl⟩ | before
    · exact Nat.lt_succ_self memo.issued
    · exact Nat.lt_succ_of_lt (numbered.lt_issued other held before)
  key_eq first second held held' found found' same := by
    rcases h.cases_find? found with ⟨rfl, rfl⟩ | before
    · rcases h.cases_find? found' with ⟨eq, _⟩ | before'
      · exact eq
      · -- the next number is not among those given out
        exact absurd same.symm (Nat.ne_of_lt (numbered.lt_issued _ _ before'))
    · rcases h.cases_find? found' with ⟨rfl, rfl⟩ | before'
      · exact absurd same (Nat.ne_of_lt (numbered.lt_issued _ _ before))
      · exact numbered.key_eq _ _ _ _ before before' same

end Grown

/-- An instance that is held was handed out for its key. -/
lemma Numbered.handedOut (h : Numbered memo) (found : memo.find? key = some a) :
    HandedOut memo key a where
  lt_issued := h.lt_issued key a found
  eq_of_find? held found' := by
    cases found.symm.trans found'
    rfl
  key_eq other held found' same := h.key_eq _ _ _ _ found' found same

namespace Insertion

variable {served : Served Instance}

/-- Storing a key keeps the numbers of instances apart. -/
lemma numbered (h : Insertion memo key d served) (numbered : Numbered memo) :
    Numbered served.memo := by
  cases h with
  | held _ => exact numbered
  | disabled _ _ =>
    constructor
    · intro key held found
      exact Nat.lt_succ_of_lt (numbered.lt_issued key held found)
    · exact numbered.key_eq
  | stored grown => exact grown.numbered numbered

/-- The number of instances does not fall when a key is stored. -/
lemma issued_le (h : Insertion memo key d served) : memo.issued ≤ served.memo.issued := by
  cases h with
  | held _ => exact Nat.le_refl _
  | disabled _ _ => exact Nat.le_succ _
  | stored grown =>
    rw [grown.issued_eq]
    exact Nat.le_succ _

/-- A key that was held is still held under its instance, or it made room. -/
lemma kept_or_evicted (h : Insertion memo key d served) (there : memo.find? other ≠ none) :
    served.memo.find? other = memo.find? other ∧ .evicted other ∉ served.events ∨
      served.memo.find? other = none ∧ .evicted other ∈ served.events := by
  cases h with
  | held _ => exact .inl ⟨rfl, List.not_mem_nil⟩
  | disabled _ _ => exact .inl ⟨rfl, List.not_mem_nil⟩
  | @stored dropped after grown =>
    have ne : key ≠ other := by
      rintro rfl
      exact there grown.absent
    show after.find? other = _ ∧ _ ∨ after.find? other = none ∧ _
    rw [grown.find?_eq, if_neg ne]
    by_cases gone : dropped = some other
    · exact .inr ⟨if_pos gone, by simp [gone]⟩
    · exact .inl ⟨if_neg gone, by simpa using gone⟩

/-- An instance with a number that was given out before was held before. -/
lemma find?_of_lt (h : Insertion memo key d served) (found : served.memo.find? other = some held)
    (old : held.serial < memo.issued) : memo.find? other = some held := by
  cases h with
  | held _ => exact found
  | disabled _ _ => exact found
  | stored grown =>
    rcases grown.cases_find? found with ⟨_, rfl⟩ | before
    · exact absurd old (Nat.lt_irrefl _)
    · exact before

/-- The answer was handed out for the key, either before or with the next number. -/
lemma handedOut (h : Insertion memo key d served) (numbered : Numbered memo) :
    HandedOut served.memo key served.answer ∧
      (memo.find? key = some served.answer ∨
        memo.find? key = none ∧ served.answer.serial = memo.issued) := by
  have after := h.numbered numbered
  cases h with
  | held found => exact ⟨after.handedOut found, .inl found⟩
  | disabled _ absent =>
    refine ⟨⟨Nat.lt_succ_self _, fun held found => ?_, fun other held found => ?_⟩,
      .inr ⟨absent key, rfl⟩⟩
    · cases (absent key).symm.trans found
    · cases (absent other).symm.trans found
  | stored grown => exact ⟨after.handedOut grown.find?_self, .inr ⟨grown.absent, rfl⟩⟩

/-- Nothing changes if the key is held, and its instance is the answer. -/
lemma eq_of_held (h : Insertion memo key d served) (found : memo.find? key = some held) :
    served = ⟨memo, held, []⟩ := by
  cases h with
  | held found' =>
    cases found.symm.trans found'
    rfl
  | disabled _ absent => cases found.symm.trans (absent key)
  | stored grown => cases found.symm.trans grown.absent

end Insertion

namespace Serving

variable {served : Served (Option (Except Rejection Instance))}

/-- Every request keeps the numbers of instances apart. -/
lemma numbered (h : Serving cc memo request served) (numbered : Numbered memo) :
    Numbered served.memo := by
  cases h with
  | hit _ => exact numbered
  | rejected _ _ => exact numbered
  | parsed _ _ insertion => exact insertion.numbered numbered
  | get => exact numbered
  | insert insertion => exact insertion.numbered numbered
  | clear => exact numbered_clear memo

/-- The number of instances does not fall when a request is served, not even with a clear. -/
lemma issued_le (h : Serving cc memo request served) : memo.issued ≤ served.memo.issued := by
  cases h with
  | hit _ => exact Nat.le_refl _
  | rejected _ _ => exact Nat.le_refl _
  | parsed _ _ insertion => exact insertion.issued_le
  | get => exact Nat.le_refl _
  | insert insertion => exact insertion.issued_le
  | clear => exact Nat.le_refl _

/-- A key that was held is still held under its instance, or it went with a clear or to make room. -/
lemma kept_or_gone (h : Serving cc memo request served) (there : memo.find? key ≠ none) :
    served.memo.find? key = memo.find? key ∧ request ≠ .clear ∧ .evicted key ∉ served.events ∨
      served.memo.find? key = none ∧ (request = .clear ∨ .evicted key ∈ served.events) := by
  cases h with
  | hit _ => exact .inl ⟨rfl, nofun, by simp⟩
  | rejected _ _ => exact .inl ⟨rfl, nofun, by simp⟩
  | parsed _ _ insertion =>
    rcases insertion.kept_or_evicted there with ⟨kept, not_mem⟩ | ⟨gone, mem⟩
    · exact .inl ⟨kept, nofun, by simpa using not_mem⟩
    · exact .inr ⟨gone, .inr (List.mem_cons_of_mem _ mem)⟩
  | get => exact .inl ⟨rfl, nofun, by simp⟩
  | insert insertion =>
    rcases insertion.kept_or_evicted there with ⟨kept, not_mem⟩ | ⟨gone, mem⟩
    · exact .inl ⟨kept, nofun, not_mem⟩
    · exact .inr ⟨gone, .inr mem⟩
  | clear => exact .inr ⟨find?_clear memo key, .inl rfl⟩

/-- An instance with a number that was given out before was held before. -/
lemma find?_of_lt (h : Serving cc memo request served) (found : served.memo.find? key = some held)
    (old : held.serial < memo.issued) : memo.find? key = some held := by
  cases h with
  | hit _ => exact found
  | rejected _ _ => exact found
  | parsed _ _ insertion => exact insertion.find?_of_lt found old
  | get => exact found
  | insert insertion => exact insertion.find?_of_lt found old
  | clear => cases (find?_clear memo key).symm.trans found

/-- An instance in an answer was handed out for the key of the request. -/
lemma handedOut (h : Serving cc memo request served) (numbered : Numbered memo)
    (answered : served.answer = some (.ok a)) :
    ∃ key, request.key? = some key ∧ HandedOut served.memo key a ∧
      (memo.find? key = some a ∨ memo.find? key = none ∧ a.serial = memo.issued) := by
  cases h with
  | hit found =>
    cases answered
    exact ⟨_, rfl, numbered.handedOut found, .inl found⟩
  | rejected _ _ => cases answered
  | parsed _ _ insertion =>
    cases answered
    exact ⟨_, rfl, insertion.handedOut numbered⟩
  | get =>
    obtain ⟨held, found, eq⟩ := Option.map_eq_some_iff.mp answered
    cases eq
    exact ⟨_, rfl, numbered.handedOut found, .inl found⟩
  | insert insertion =>
    cases answered
    exact ⟨_, rfl, insertion.handedOut numbered⟩
  | clear => cases answered

end Serving

/-- Every run keeps the numbers of instances apart. -/
lemma Numbered.run (h : Numbered memo) (consistent : memo.Consistent) (cc : Classifier)
    (requests : List Request) : Numbered (memo.run cc requests) := by
  induction requests generalizing memo with
  | nil => exact h
  | cons request requests ih =>
    apply ih
    · exact (consistent.serving cc request).numbered h
    · exact consistent.serve cc request

/-- The number of instances does not fall in a run. -/
lemma issued_le_run (consistent : memo.Consistent) (cc : Classifier) (requests : List Request) :
    memo.issued ≤ (memo.run cc requests).issued := by
  induction requests generalizing memo with
  | nil => exact Nat.le_refl _
  | cons request requests ih =>
    apply Nat.le_trans (consistent.serving cc request).issued_le
    exact ih (consistent.serve cc request)

/-- A key that stays is held under the same instance. -/
lemma Stays.find?_run (h : Stays cc key memo requests) (consistent : memo.Consistent) :
    (memo.run cc requests).find? key = memo.find? key := by
  induction h with
  | nil _ => rfl
  | @cons memo request requests there not_clear not_evicted _ ih =>
    rcases (consistent.serving cc request).kept_or_gone there with
      ⟨kept, _⟩ | ⟨_, cleared | evicted⟩
    · exact (ih (consistent.serve cc request)).trans kept
    · exact absurd cleared not_clear
    · exact absurd evicted not_evicted

/-- A key that stays is held at the beginning. -/
lemma Stays.find?_ne_none (h : Stays cc key memo requests) : memo.find? key ≠ none := by
  cases h with
  | nil there => exact there
  | cons there _ _ _ => exact there

/-- A key stays exactly if it is held all along. -/
lemma stays_iff (consistent : memo.Consistent) :
    Stays cc key memo requests ↔
      ∀ n, (memo.run cc (requests.take n)).find? key ≠ none := by
  constructor
  · intro stays n
    induction stays generalizing n with
    | nil there => simpa [run] using there
    | @cons memo request requests there _ _ _ ih =>
      cases n with
      | zero => exact there
      | succ n => exact ih (consistent.serve cc request) n
  · intro all
    induction requests generalizing memo with
    | nil => exact .nil (all 0)
    | cons request requests ih =>
      have there : memo.find? key ≠ none := all 0
      have there_after : (memo.serve cc request).memo.find? key ≠ none := all 1
      rcases (consistent.serving cc request).kept_or_gone there with
        ⟨_, not_clear, not_evicted⟩ | ⟨gone, _⟩
      · apply Stays.cons there not_clear not_evicted
        exact ih (consistent.serve cc request) fun n => all (n + 1)
      · exact absurd gone there_after

/-- An instance that is held after a run and was made before it was held all along. -/
lemma stays_of_find? (consistent : memo.Consistent)
    (found : (memo.run cc requests).find? key = some held) (old : held.serial < memo.issued) :
    Stays cc key memo requests ∧ memo.find? key = some held := by
  induction requests generalizing memo with
  | nil =>
    have there : memo.find? key = some held := found
    refine ⟨.nil ?_, there⟩
    rw [there]
    exact nofun
  | cons request requests ih =>
    -- from the end on: what is held after the rest and is old was held before the rest
    have serving := consistent.serving cc request
    obtain ⟨stays, there_after⟩ :=
      ih (consistent.serve cc request) found (Nat.lt_of_lt_of_le old serving.issued_le)
    have there := serving.find?_of_lt there_after old
    have ne_none : memo.find? key ≠ none := by
      rw [there]
      exact nofun
    rcases serving.kept_or_gone ne_none with ⟨_, not_clear, not_evicted⟩ | ⟨gone, _⟩
    · exact ⟨.cons ne_none not_clear not_evicted stays, there⟩
    · exact absurd gone stays.find?_ne_none

namespace HandedOut

variable (h : HandedOut memo key a) (consistent : memo.Consistent)

include h consistent

/-- While its key stays, an instance that was handed out is held. -/
lemma find?_of_stays (stays : Stays cc key memo requests) :
    (memo.run cc requests).find? key = some a := by
  obtain ⟨held, there⟩ := Option.ne_none_iff_exists'.mp stays.find?_ne_none
  have same := stays.find?_run consistent
  rw [there, h.eq_of_find? held there] at same
  exact same

/-- An instance that was handed out before a run, and one that is found for a key after it or made
then, are the same only if it is for one key that stays. -/
lemma stays_of_same
    (later : (memo.run cc requests).find? other = some b ∨
      (memo.run cc requests).find? other = none ∧ b.serial = (memo.run cc requests).issued)
    (same : a.serial = b.serial) : other = key ∧ Stays cc key memo requests ∧ a = b := by
  -- the number of the later instance was given out before the run, so it is no new one
  have old := h.lt_issued
  rw [same] at old
  rcases later with found | ⟨_, next⟩
  · obtain ⟨stays, there⟩ := stays_of_find? consistent found old
    cases h.key_eq other b there same.symm
    exact ⟨rfl, stays, (h.eq_of_find? b there).symm⟩
  · rw [next] at old
    exact absurd (issued_le_run consistent cc requests) (Nat.not_le.mpr old)

end HandedOut

/-- Two answers to requests of a run are the same instance exactly if the requests are about one key,
and that key was held after the first and stayed until the second: nothing cleared the memo, and no
other key took its place, so it was held all along. Meanwhile an insert for that key changes nothing;
the first one wins. A memo of capacity zero never hands out an instance again. -/
theorem same_instance_iff (cc : Classifier) (capacity : Option Nat) (before between : List Request)
    (first second : Request) (a b : Instance) :
    let earlier := ((new capacity).run cc before).serve cc first
    let memo := earlier.memo.run cc between
    let later := memo.serve cc second
    earlier.answer = some (.ok a) → later.answer = some (.ok b) →
    (a.serial = b.serial ↔
      ∃ key, first.key? = some key ∧ second.key? = some key ∧ Stays cc key earlier.memo between) ∧
    (∀ key, Stays cc key earlier.memo between ↔
      ∀ n, (earlier.memo.run cc (between.take n)).find? key ≠ none) ∧
    (a.serial = b.serial → a = b) ∧
    (∀ key d, first.key? = some key → Stays cc key earlier.memo between →
      memo.insert key d = ⟨memo, a, []⟩) ∧
    (capacity = some 0 → a.serial ≠ b.serial) := by
  intro earlier memo later answered answered'
  have empty := Consistent.empty capacity 0
  have start : ((new capacity).run cc before).Consistent := empty.run cc before
  have start_numbered := (numbered_new capacity).run empty cc before
  have serving := start.serving cc first
  have consistent : earlier.memo.Consistent := start.serve cc first
  have consistent' : memo.Consistent := consistent.run cc between
  obtain ⟨key, key_eq, handed, _⟩ := serving.handedOut start_numbered answered
  obtain ⟨key', key'_eq, _, found⟩ := (consistent'.serving cc second).handedOut
    ((serving.numbered start_numbered).run consistent cc between) answered'
  have of_same (same : a.serial = b.serial) := handed.stays_of_same consistent found same
  refine ⟨⟨fun same => ?_, ?_⟩, fun key => stays_iff consistent,
    fun same => (of_same same).2.2, ?_, ?_⟩
  · obtain ⟨rfl, stays, _⟩ := of_same same
    exact ⟨key', key_eq, key'_eq, stays⟩
  · rintro ⟨_, key_eq', key'_eq', stays⟩
    cases key_eq.symm.trans key_eq'
    cases key'_eq.symm.trans key'_eq'
    have held := handed.find?_of_stays consistent stays
    rcases found with found | ⟨absent, _⟩
    · cases held.symm.trans found
      rfl
    · cases held.symm.trans absent
  · intro _ d key_eq' stays
    cases key_eq.symm.trans key_eq'
    have held := handed.find?_of_stays consistent stays
    exact (consistent'.insertion key d).eq_of_held held
  · intro disabled same
    have limit : memo.capacity = some 0 := by
      rw [← disabled]
      exact (capacity_run cc _ between).trans <|
        (capacity_serve cc _ first).trans (capacity_run cc _ before)
    have held := handed.find?_of_stays consistent (of_same same).2.1
    -- a memo of capacity zero holds nothing, but the key would have stayed
    cases held.symm.trans (consistent'.find?_eq_none limit key)

/-- A descriptor that was put in by hand is the one that is handed out, whatever is put in after it and
though its key reads as nothing. -/
theorem same_instance_iff_by_hand :
    let key : Key := ⟨"(".toList, false⟩
    let memo := (((new (some 1)).run .standard []).serve .standard (.insert key (.group ['a']))).memo
    let between : List Request := [.get ⟨"(".toList, true⟩, .insert key (.group ['b'])]
    ((memo.run .standard between).serve .standard (.parse key)).answer =
        some (.ok ⟨0, .group ['a']⟩) ∧
      Stays .standard key memo between := by
  intro key memo between
  have inserted : (new (some 1)).insert key (.group ['a']) =
      ⟨(new (some 1)).store key (.group ['a']), ⟨0, .group ['a']⟩, [.cached key]⟩ :=
    insert_of_room rfl (find?_new (some 1) key) Nat.one_pos
  have memo_eq : memo = (new (some 1)).store key (.group ['a']) := congrArg Served.memo inserted
  have held : memo.find? key = some ⟨0, .group ['a']⟩ := by
    rw [memo_eq, find?_store, if_pos rfl]
    rfl
  have stores : memo.capacity ≠ some 0 := by
    rw [memo_eq, capacity_store]
    exact nofun
  have run_eq : memo.run .standard between = memo := by
    show (memo.insert key (.group ['b'])).memo = memo
    rw [insert_of_held stores held]
  have put : (((new (some 1)).run .standard []).serve .standard (.insert key (.group ['a']))).answer =
      some (.ok ⟨0, .group ['a']⟩) := by
    show some (Except.ok ((new (some 1)).insert key (.group ['a'])).answer) = _
    rw [inserted]
  have answered : ((memo.run .standard between).serve .standard (.parse key)).answer =
      some (.ok ⟨0, .group ['a']⟩) := by
    rw [run_eq]
    show some (memo.parse .standard key).answer = _
    rw [parse_of_held held]
  have same := (same_instance_iff .standard (some 1) [] between (.insert key (.group ['a']))
    (.parse key) ⟨0, .group ['a']⟩ ⟨0, .group ['a']⟩
    put answered).1.mp rfl
  obtain ⟨_, ⟨⟩, _, stays⟩ := same
  exact ⟨answered, stays⟩

end TypeShape.Memo
