import TypeShape.Descriptor.Parts
import TypeShape.Proofs.Components

/-!
# Canonical descriptors

A descriptor is `Canonical` if its parts could stand where its form puts them: none of them is blank
or has blank ends, and outside of their own delimiters they do not have the operators that would
take them apart. Every descriptor that is read is canonical (`canonical_of_read`).
-/

namespace TypeShape

/-- A text that is not blank, has no blank ends, and satisfies `p` outside of all delimiters. -/
structure Part (p : Char → Prop) (text : Text) : Prop where
  ne_nil : text ≠ []
  trimmed : Text.Trimmed Text.isBlank text
  outer : Outer p text

/-- A text of digits whose value fits in a word. -/
def Decimal.Fits (digits : Text) : Prop :=
  Decimal.isNumeral digits = true ∧ Decimal.value digits < UInt64.size

namespace Descriptor

/-- A descriptor whose parts can stand where its form puts them. -/
inductive Canonical (cc : Classifier) : Descriptor → Prop where
  | generic {word symbols name : Text} {args : List Text} {parameters : Parameters} :
    (∀ c ∈ word, isWordFlag c = true) →
    (∀ c ∈ symbols, cc .flagSymbol c = true) →
    cc.Name name →
    (∀ c, name.head? = some c → cc .flagSymbol c = false) →
    parameters.Proper cc →
    (∀ arg ∈ args, Part (· ≠ ',') arg) →
    Canonical cc (.generic (word ++ symbols) name args parameters)
  | array {element : Text} {size : Option Text} :
    Part (fun c => cc.Allowed c ∧ c ≠ '|' ∧ c ≠ '&') element →
    (∀ digits, size = some digits → Decimal.Fits digits) →
    Canonical cc (.array element size)
  | group {inner : Text} :
    Part (fun _ => True) inner →
    Canonical cc (.group inner)
  | union {operands : List Text} :
    2 ≤ operands.length →
    (∀ operand ∈ operands, Part (fun c => cc.Allowed c ∧ c ≠ '|') operand) →
    Canonical cc (.union operands)
  | intersection {operands : List Text} :
    2 ≤ operands.length →
    (∀ operand ∈ operands, Part (fun c => cc.Allowed c ∧ c ≠ '|' ∧ c ≠ '&') operand) →
    Canonical cc (.intersection operands)

variable {cc : Classifier} {p : Char → Prop} {text : Text} {d : Descriptor}

/-- What is left of a text without its whitespace is a part, if anything is. -/
lemma part_trim (own : cc.OwnSymbols) (outer : Outer p text) (ne : cc.trim text ≠ []) :
    Part p (cc.trim text) where
  ne_nil := ne
  trimmed := by
    rw [own.trim_eq]
    exact Text.trimmed_trim _ _
  outer := outer.trim fun _ blank => own.plain blank

/-- Operands that are read from texts are parts. -/
lemma part_of_operands (own : cc.OwnSymbols) {texts results : List Text}
    (outer : ∀ text ∈ texts, Outer p text) (h : operands cc texts = .ok results) :
    ∀ result ∈ results, Part p result := by
  intro result mem
  obtain ⟨text, inTexts, ne, rfl⟩ := exists_of_mem_operands h mem
  exact part_trim own (outer text inTexts) ne

/-- Generic arguments are parts without commas. -/
lemma part_of_readArgs (own : cc.OwnSymbols) {args : List Text} (h : readArgs cc text = .ok args) :
    ∀ arg ∈ args, Part (· ≠ ',') arg := by
  rcases exists_segments_of_readArgs h with rfl | ⟨pieces, commas, trimmed⟩
  · nofun
  · exact part_of_operands own commas.free trimmed

/-- A generic that is read is canonical. -/
lemma canonical_of_readGeneric (own : cc.OwnSymbols) (h : readGeneric cc text = .ok d) :
    Canonical cc d := by
  obtain ⟨name, afterName, list, afterList, parameters, angles, afterAngles, args, named, _,
    parameters_eq, _, args_eq, _, rfl⟩ := exists_of_readGeneric h
  obtain ⟨is_name, _⟩ := name_of_takeName named
  refine .generic ?_ flagSymbol_of_takeFlagSymbols is_name ?_ ?_ ?_
  · rw [← own.flagWord_eq]
    exact flagWord_of_takeFlagWord
  · intro c head
    -- a separator may be a flag symbol, but then it was taken with the flags
    have unflagged : cc.Unflagged (takeFlagSymbols cc (takeFlagWord cc text).2).2 :=
      unflagged_of_takeFlagSymbols
    rw [append_of_takeName named] at unflagged
    exact (unflagged c (by simp [List.head?_append, head])).2
  · exact Parameters.proper_of_list parameters_eq
  · cases angles with
    | none =>
      cases args_eq
      nofun
    | some inside => exact part_of_readArgs own args_eq

/-- An array that is read is canonical. -/
lemma canonical_of_arrayOutcome (own : cc.OwnSymbols) {element inside : Text}
    (outer : Outer (fun c => cc.Allowed c ∧ c ≠ '|' ∧ c ≠ '&') element)
    (ne : cc.trim element ≠ []) (h : arrayOutcome cc element inside = .ok d) : Canonical cc d := by
  obtain ⟨size, rfl, fits⟩ := exists_of_arrayOutcome h
  exact .array (part_trim own outer ne) fits

/-- What is read from a text that no parentheses enclose is canonical. -/
lemma canonical_of_readUngrouped (own : cc.OwnSymbols) (h : readUngrouped cc text = .ok d) :
    Canonical cc d := by
  obtain ⟨allowed, ungrouped⟩ := ungrouped_of_readUngrouped h
  cases ungrouped with
  | union bars several operands_ok =>
    have length := length_of_operands operands_ok
    refine .union (by omega) (part_of_operands own ?_ operands_ok)
    intro segment mem
    exact (bars.outer rfl allowed segment mem).and (bars.free segment mem)
  | intersection no_bar amps several operands_ok =>
    have length := length_of_operands operands_ok
    refine .intersection (by omega) (part_of_operands own ?_ operands_ok)
    intro segment mem
    have in_segment := amps.outer rfl (allowed.and no_bar) segment mem
    exact (in_segment.and (amps.free segment mem)).mono fun c => and_assoc.mp
  | array no_bar no_amp before within ne eq outcome =>
    subst eq
    have whole := allowed.and (no_bar.and no_amp)
    exact canonical_of_arrayOutcome own (whole.of_append before).1 ne outcome
  | generic _ _ _ generic => exact canonical_of_readGeneric own generic

/-- What is read from a text without whitespace at its ends is canonical. -/
lemma canonical_of_readTrimmed (own : cc.OwnSymbols) {degroup : Bool}
    (h : readTrimmed cc degroup text = .ok d) : Canonical cc d := by
  fun_induction readTrimmed cc degroup text with
  | case1 => cases h
  | case2 => exact canonical_of_readUngrouped own h
  | case3 => cases h
  | case4 _ _ _ _ _ _ ih => exact ih h
  | case5 text inner enclosing not_blank _ =>
    cases h
    obtain ⟨balanced, _⟩ := enclosed?_eq_some_iff.mp enclosing
    exact .group (part_trim own (balanced_iff_outer.mp balanced) (by simpa using not_blank))

/-- Every descriptor that is read is canonical. -/
theorem canonical_of_read (own : cc.OwnSymbols) {degroup : Bool}
    (h : read cc degroup text = .ok d) : Canonical cc d := by
  unfold read at h
  split at h
  · cases h
  · exact canonical_of_readTrimmed own h

end Descriptor
end TypeShape
