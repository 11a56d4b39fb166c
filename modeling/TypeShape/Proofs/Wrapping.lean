import TypeShape.Proofs.Degrouping
import TypeShape.Proofs.Joins

/-!
# Texts in parentheses

Parentheses around a text make a group exactly if the scan of the text has no fault; otherwise the
first parenthesis and the last one are no partners, as in `(a)(b)`. Where they are, unwrapping reads
the text inside as if they were not there, and so it does for every number of pairs with whitespace
around each (`Wrapped.read_eq`). The main statement is `parse_wrapped`. It is about all classifiers
whose whitespace is apart from delimiters and quotation marks; their other classes are not used.
-/

namespace TypeShape

/-- No delimiter and no quotation mark is whitespace. -/
def Classifier.SpaceApart (cc : Classifier) : Prop :=
  ∀ c ∈ ['(', ')', '<', '>', '[', ']', '"'], cc .whitespace c = false

/-- A text inside of `n` pairs of parentheses, with whitespace around it and around each pair. -/
inductive Wrapped (cc : Classifier) (text : Text) : Nat → Text → Prop where
  | bare {whole : Text} :
    cc.Padded text whole →
    Wrapped cc text 0 whole
  | pair {n : Nat} {inner whole : Text} :
    Wrapped cc text n inner →
    cc.Padded ('(' :: (inner ++ [')'])) whole →
    Wrapped cc text (n + 1) whole

variable {cc : Classifier} {degroup : Bool} {text text' inner whole : Text} {n : Nat}

namespace Classifier

/-- Whitespace that is apart from delimiters is plain. -/
lemma SpaceApart.plain (apart : cc.SpaceApart) {c : Char} (blank : cc .whitespace c = true) :
    Role.of c = .plain := by
  apply Role.of_eq_plain
  intro mem
  rw [apart c mem] at blank
  cases blank

/-- Parentheses are not trimmed off. -/
lemma SpaceApart.trim_parens (apart : cc.SpaceApart) (text : Text) :
    cc.trim ('(' :: (text ++ [')'])) = '(' :: (text ++ [')']) :=
  (Text.Trimmed.wrap text (apart _ (by decide)) (apart _ (by decide))).trim_eq

/-- Whitespace around a text leaves it balanced. -/
lemma SpaceApart.balanced_padded (apart : cc.SpaceApart) (h : cc.Padded text whole)
    (balanced : Balanced text) : Balanced whole := by
  obtain ⟨front, back, front_blank, back_blank, rfl⟩ := h
  obtain ⟨items, nested⟩ := balanced
  have before := Nested.of_plain fun c mem => apart.plain (front_blank c mem)
  have after := Nested.of_plain fun c mem => apart.plain (back_blank c mem)
  exact ⟨_, (before.append nested).append after⟩

end Classifier

namespace Wrapped

/-- A wrapped text is balanced if the text is. -/
lemma balanced (apart : cc.SpaceApart) (h : Wrapped cc text n whole) (balanced : Balanced text) :
    Balanced whole := by
  induction h with
  | bare padded => exact apart.balanced_padded padded balanced
  | pair _ padded ih => exact apart.balanced_padded padded (Enclosed.balanced ⟨_, ih, rfl⟩)

/-- A wrapped text is not blank if the text is not. -/
lemma trim_ne_nil (apart : cc.SpaceApart) (h : Wrapped cc text n whole) (ne : cc.trim text ≠ []) :
    cc.trim whole ≠ [] := by
  cases h with
  | bare padded =>
    rw [padded.trim_eq]
    exact ne
  | pair _ padded =>
    rw [padded.trim_eq, apart.trim_parens]
    exact List.cons_ne_nil _ _

end Wrapped

namespace Descriptor

/-- The reason of a rejection is the bare reason. -/
lemma mapError_parse (cc : Classifier) (degroup : Bool) (text : Text) :
    (parse cc degroup text).mapError Rejection.reason = read cc degroup text := by
  unfold parse
  cases read cc degroup text <;> rfl

/-- Unwrapping never ends at a group. -/
lemma ne_group_of_read_true {d : Descriptor} (h : read cc true text = .ok d) : d.kind ≠ .group := by
  obtain ⟨last, _, ends, eq⟩ := exists_unwraps cc text
  rw [eq] at h
  intro group
  cases d with
  | group inner => exact ends inner h
  | _ => cases group

/-- A balanced text in parentheses is a group. -/
lemma read_parens (apart : cc.SpaceApart) (balanced : Balanced text) (ne : cc.trim text ≠ []) :
    read cc false ('(' :: (text ++ [')'])) = .ok (.group (cc.trim text)) := by
  have trim_eq := apart.trim_parens text
  rw [read_of_ne_nil false (by simp [trim_eq]), trim_eq, readTrimmed_of_enclosed balanced]
  exact if_neg ne

/-- Only a balanced text in parentheses is a group. -/
lemma balanced_of_read_parens (apart : cc.SpaceApart) {d : Descriptor}
    (h : read cc degroup ('(' :: (text ++ [')'])) = .ok d) (group : d.kind = .group) :
    Balanced text := by
  cases degroup with
  | true => exact absurd group (ne_group_of_read_true h)
  | false =>
    have trimmed := readTrimmed_of_read h
    rw [apart.trim_parens] at trimmed
    rcases enclosed_or_ungrouped trimmed with ⟨inside, balanced, eq, _, _⟩ | ⟨_, other⟩
    · -- the parentheses that enclose the whole are the ones that were put around the text
      have inside_eq : text = inside := List.append_cancel_right (List.cons_inj_right _ |>.mp eq)
      rw [inside_eq]
      exact balanced
    · exact absurd group other.kind_ne_group

/-- Unwrapping takes the parentheses off. -/
lemma read_true_parens (apart : cc.SpaceApart) (balanced : Balanced text) (ne : cc.trim text ≠ []) :
    read cc true ('(' :: (text ++ [')'])) = read cc true text := by
  have inner_eq : read cc true (cc.trim text) = read cc true text :=
    read_of_trim_eq (cc.trim_trim text)
  rw [read_true_of_group (read_parens apart balanced ne), inner_eq]

/-- Unwrapping takes all parentheses off, with the whitespace between them. -/
lemma Wrapped.read_eq (apart : cc.SpaceApart) (h : Wrapped cc text n whole)
    (balanced : Balanced text) (ne : cc.trim text ≠ []) : read cc true whole = read cc true text := by
  induction h with
  | bare padded => exact read_of_trim_eq padded.trim_eq
  | pair inside padded ih =>
    have inner_balanced := inside.balanced apart balanced
    have inner_ne := inside.trim_ne_nil apart ne
    rw [read_of_trim_eq padded.trim_eq, read_true_parens apart inner_balanced inner_ne, ih]

/-- Parentheses around a text that is not blank make a group exactly if its scan has no fault. If it
has one, the whole is no group in either way of reading. If it has none, any number of pairs around
the text is the same as no pair when they are unwrapped: what is read is the same descriptor, or it is
rejected for the same reason. -/
theorem parse_wrapped (apart : cc.SpaceApart) (ne : cc.trim text ≠ []) :
    (parse cc false ('(' :: (text ++ [')'])) = .ok (.group (cc.trim text)) ↔
      (Scan.of text).fault = none) ∧
    ((Scan.of text).fault ≠ none → ∀ degroup d,
      parse cc degroup ('(' :: (text ++ [')'])) = .ok d → d.kind ≠ .group) ∧
    ((Scan.of text).fault = none → ∀ n whole, Wrapped cc text n whole →
      (parse cc true whole).mapError Rejection.reason =
        (parse cc true text).mapError Rejection.reason) := by
  simp only [parse_eq_ok_iff, mapError_parse, ne_eq, Scan.fault_eq_none_iff]
  refine ⟨⟨?_, ?_⟩, ?_, ?_⟩
  · intro h
    exact balanced_of_read_parens apart h rfl
  · intro balanced
    exact read_parens apart balanced ne
  · intro torn degroup d h group
    exact torn (balanced_of_read_parens apart h group)
  · intro balanced n whole wrapped
    exact Wrapped.read_eq apart wrapped balanced ne

/-- A text that is rejected stays so in two pairs of parentheses, though one pair makes a group of it,
and parentheses that were put around two groups are not partners. -/
theorem parse_wrapped_rejected :
    parse .standard false "(a|)".toList = .ok (.group "a|".toList) ∧
      (parse .standard true " ((a| )\t)".toList).mapError Rejection.reason = .error .emptyOperand ∧
      ∀ degroup d, parse .standard degroup "(a)|(b)".toList = .ok d → d.kind ≠ .group := by
  have apart : Classifier.standard.SpaceApart := Text.forall_of_all (by decide)
  have space : Text.Blank (Classifier.standard .whitespace) [' '] := Text.forall_of_all (by decide)
  have tab : Text.Blank (Classifier.standard .whitespace) ['\t'] := Text.forall_of_all (by decide)
  have wrapped : Wrapped .standard "a|".toList 2 " ((a| )\t)".toList := by
    have once : Wrapped .standard "a|".toList 1 "(a| )\t".toList :=
      .pair (.bare ⟨[], [' '], Text.blank_nil, space, rfl⟩) ⟨[], ['\t'], Text.blank_nil, tab, rfl⟩
    exact .pair once ⟨[' '], [], space, Text.blank_nil, rfl⟩
  have inner : (parse .standard true "a|".toList).mapError Rejection.reason =
      .error .emptyOperand := by
    decide +kernel
  have scanned : (Scan.of "a|".toList).fault = none := by decide +kernel
  have torn : (Scan.of "a)|(b".toList).fault ≠ none := by decide +kernel
  have ne : Classifier.standard.trim "a|".toList ≠ [] := by decide
  have torn_ne : Classifier.standard.trim "a)|(b".toList ≠ [] := by decide
  obtain ⟨group_iff, -, unwraps⟩ := parse_wrapped apart ne
  refine ⟨group_iff.mpr scanned, (unwraps scanned 2 _ wrapped).trans inner, ?_⟩
  exact (parse_wrapped apart torn_ne).2.1 torn

end Descriptor
end TypeShape
