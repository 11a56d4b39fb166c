import TypeShape.Proofs.Forms

/-!
# Unwrapping groups

Reading with enclosing parentheses unwrapped is reading one level, repeated for as long as that gives
a group. The reader does all of it in one go and trims the text at each level. `Unwraps` says which
texts are passed on the way, and `read_degrouped` that both ways agree on every text, those that are
rejected included.
-/

namespace TypeShape.Descriptor

/-- A text, and what is left of it when groups are read one inside the other. -/
inductive Unwraps (cc : Classifier) : Text → Text → Prop where
  | refl {text : Text} : Unwraps cc text text
  | step {text inner last : Text} :
    read cc false text = .ok (.group inner) →
    Unwraps cc inner last →
    Unwraps cc text last

variable {cc : Classifier} {text inner : Text}

/-- The text inside a group is not blank and has no whitespace at its ends, and it is shorter. -/
lemma inner_of_read (h : read cc false text = .ok (.group inner)) :
    cc.trim inner = inner ∧ inner ≠ [] ∧ inner.length < text.length := by
  have shorter := Text.length_trim_le (cc .whitespace) text
  rcases enclosed_or_ungrouped (readTrimmed_of_read h) with ⟨inside, _, eq, ne, found⟩ | ⟨_, other⟩
  · cases found
    refine ⟨Classifier.trim_trim cc inside, ne, ?_⟩
    have inside_le := Text.length_trim_le (cc .whitespace) inside
    have length_eq := congrArg List.length eq
    unfold Classifier.trim at length_eq ⊢
    simp only [List.length_cons, List.length_append, List.length_nil] at length_eq
    omega
  · exact absurd rfl other.kind_ne_group

/-- Where a group is found, its inside is read in its place. -/
lemma read_true_of_group (h : read cc false text = .ok (.group inner)) :
    read cc true text = read cc true inner := by
  have trimmed := readTrimmed_of_read h
  rcases enclosed_or_ungrouped trimmed with ⟨inside, balanced, eq, ne, found⟩ | ⟨_, other⟩
  · cases found
    have text_ne : cc.trim text ≠ [] := by simp [eq]
    have inner_ne : cc.trim (cc.trim inside) ≠ [] := by rw [Classifier.trim_trim]; exact ne
    rw [read_of_ne_nil true text_ne, read_of_ne_nil true inner_ne, Classifier.trim_trim, readTrimmed_eq,
      enclosed?_eq_some_iff.mpr ⟨balanced, eq⟩]
    exact if_neg ne
  · exact absurd rfl other.kind_ne_group

/-- Where no group is found, there is nothing to unwrap, and the outcome is the same. -/
lemma read_true_of_not_group (h : ∀ inner, read cc false text ≠ .ok (.group inner)) :
    read cc true text = read cc false text := by
  by_cases blank : cc.trim text = []
  · rw [read_of_blank true blank, read_of_blank false blank]
  · rw [read_of_ne_nil false blank] at h ⊢
    rw [read_of_ne_nil true blank, readTrimmed_eq cc true, readTrimmed_eq cc false]
    rw [readTrimmed_eq] at h
    cases enclosing : enclosed? (cc.trim text) with
    | error reason => rfl
    | ok found =>
      cases found with
      | none => rfl
      | some inside =>
        by_cases nothing : cc.trim inside = []
        · simp [nothing]
        · exact absurd (by simp [enclosing, nothing]) (h (cc.trim inside))

/-- What is read when groups are unwrapped is what is read where unwrapping ends. -/
lemma exists_unwraps (cc : Classifier) (text : Text) :
    ∃ last, Unwraps cc text last ∧ (∀ inner, read cc false last ≠ .ok (.group inner)) ∧
      read cc true text = read cc false last := by
  generalize len : text.length = n
  induction n using Nat.strongRecOn generalizing text with
  | ind n ih =>
    by_cases grouped : ∃ inner, read cc false text = .ok (.group inner)
    · obtain ⟨inner, found⟩ := grouped
      obtain ⟨_, _, shorter⟩ := inner_of_read found
      obtain ⟨last, unwraps, ends, eq⟩ := ih inner.length (by omega) inner rfl
      exact ⟨last, .step found unwraps, ends, (read_true_of_group found).trans eq⟩
    · rw [not_exists] at grouped
      exact ⟨text, .refl, grouped, read_true_of_not_group grouped⟩

/-- Reading with enclosing parentheses unwrapped reads what is inside a group in its place, and agrees
with reading one level on everything else: on the other forms, and on all texts that are rejected.
So it never gives a group, and it reads one level of the text at which unwrapping ends. -/
theorem read_degrouped (cc : Classifier) (text : Text) :
    (read cc true text =
      match read cc false text with
      | .ok (.group inner) => read cc true inner
      | outcome => outcome) ∧
    (∀ d, read cc true text = .ok d → d.kind ≠ .group) ∧
    ∃ last, Unwraps cc text last ∧ read cc true text = read cc false last := by
  obtain ⟨last, unwraps, ends, eq⟩ := exists_unwraps cc text
  refine ⟨?_, ?_, last, unwraps, eq⟩
  · split
    · next inner found => exact read_true_of_group found
    · next other => exact read_true_of_not_group other
  · intro d found
    rw [eq] at found
    cases d with
    | group inner => exact absurd found (ends inner)
    | _ => exact nofun

/-- Two groups are unwrapped, whatever whitespace stands between their parentheses. -/
theorem read_degrouped_nested :
    read .standard false "( (a | b) )".toList = .ok (.group "(a | b)".toList) ∧
      read .standard true "( (a | b) )".toList = .ok (.union ["a".toList, "b".toList]) ∧
      (Descriptor.union ["a".toList, "b".toList]).kind ≠ .group := by
  have grouped : read .standard false "( (a | b) )".toList = .ok (.group "(a | b)".toList) := by
    decide +kernel
  have read_eq := (read_degrouped .standard "( (a | b) )".toList).1
  rw [grouped] at read_eq
  have inner : read .standard true "(a | b)".toList = .ok (.union ["a".toList, "b".toList]) := by
    decide +kernel
  have found := read_eq.trans inner
  exact ⟨grouped, found, (read_degrouped .standard "( (a | b) )".toList).2.1 _ found⟩

end TypeShape.Descriptor
