import TypeShape.Proofs.Balanced

/-!
# Quoted values

What stands between the marks of a quoted value, and what it means: every backslash stands for the
character after it, and every other character for itself. Reading after an opening mark gives the
meaning of what stands before the closing one (`Means.read_append`, `means_of_read`).
-/

namespace TypeShape.Quoted

/-- What stands between the marks of a quoted value, and the value that it stands for. -/
inductive Means : Text → Text → Prop where
  | nil : Means [] []
  | plain {c : Char} {written value : Text} :
    c ≠ mark →
    c ≠ escape →
    Means written value →
    Means (c :: written) (c :: value)
  | escaped {c : Char} {written value : Text} :
    Means written value →
    Means (escape :: c :: written) (c :: value)

variable {text written value after : Text}

/-- What means a value is a run. -/
lemma Means.run (means : Means written value) : Run written := by
  induction means with
  | nil => exact .nil
  | plain not_mark not_escape _ ih => exact .plain not_mark not_escape ih
  | escaped _ ih => exact .escaped ih

/-- Every run means a value. -/
lemma Run.exists_means (run : Run written) : ∃ value, Means written value := by
  induction run with
  | nil => exact ⟨[], .nil⟩
  | plain not_mark not_escape _ ih =>
    obtain ⟨value, means⟩ := ih
    exact ⟨_, .plain not_mark not_escape means⟩
  | escaped _ ih =>
    obtain ⟨value, means⟩ := ih
    exact ⟨_, .escaped means⟩

/-- An escaped value means the value. -/
lemma means_escaped (value : Text) : Means (value.flatMap escaped) value := by
  induction value with
  | nil => exact .nil
  | cons c value ih =>
    rw [List.flatMap_cons, escaped]
    split
    · exact .escaped ih
    · next plain =>
      obtain ⟨not_mark, not_escape⟩ := not_or.mp plain
      exact .plain not_mark not_escape ih

/-- What a quoted value means is read up to the mark that follows it. -/
lemma Means.read_append (means : Means written value) (after : Text) :
    read (written ++ mark :: after) = some (value, after) := by
  induction means with
  | nil =>
    rw [List.nil_append, read.eq_def]
    rfl
  | plain not_mark not_escape _ ih =>
    rw [List.cons_append, read.eq_def]
    simp only [not_escape, not_mark, if_false, ih, Option.map_some]
  | escaped _ ih =>
    rw [List.cons_append, List.cons_append, read.eq_def]
    simp only [if_true, ih, Option.map_some]

/-- What is read is what the text before a mark means. -/
lemma means_of_read (h : read text = some (value, after)) :
    ∃ written, Means written value ∧ text = written ++ mark :: after := by
  fun_induction read text generalizing value with
  | case1 => cases h
  | case2 => cases h
  | case3 c rest ih =>
    obtain ⟨⟨v, a⟩, found, eq⟩ := Option.map_eq_some_iff.mp h
    cases eq
    obtain ⟨written, means, rfl⟩ := ih found
    exact ⟨_, .escaped means, rfl⟩
  | case4 =>
    cases h
    exact ⟨[], .nil, rfl⟩
  | case5 c rest not_escape not_mark ih =>
    obtain ⟨⟨v, a⟩, found, eq⟩ := Option.map_eq_some_iff.mp h
    cases eq
    obtain ⟨written, means, rfl⟩ := ih found
    exact ⟨_, .plain not_mark not_escape means, rfl⟩

end TypeShape.Quoted
