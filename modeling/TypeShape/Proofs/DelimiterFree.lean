import TypeShape.Proofs.Components
import TypeShape.Proofs.Placement

/-!
# Classifiers without delimiters

A classifier is `DelimiterFree` if none of its classes accepts a delimiter or the quotation mark. What
the reader takes from the beginning of a text with such a classifier has no part in nesting (`Peels`),
and neither has the whitespace that it trims off. So whatever is cut from a balanced text stays
balanced, through to the parts of a descriptor (`Cut.balanced`).
-/

namespace TypeShape

/-- Only delimiters and the quotation mark have a part in nesting. -/
lemma Role.of_eq_plain {c : Char} (h : c ∉ ['(', ')', '<', '>', '[', ']', '"']) :
    Role.of c = .plain := by
  cases role : Role.of c with
  | plain => rfl
  | quote =>
    cases Role.of_eq_quote_iff.mp role
    exact absurd (by decide) h
  | opens d =>
    cases Role.of_eq_opens_iff.mp role
    exact absurd (by cases d <;> decide) h
  | closes d =>
    cases Role.of_eq_closes_iff.mp role
    exact absurd (by cases d <;> decide) h

/-- No class accepts a delimiter or the quotation mark. -/
def Classifier.DelimiterFree (cc : Classifier) : Prop :=
  ∀ cls, ∀ c ∈ ['(', ')', '<', '>', '[', ']', '"'], cc cls c = false

/-- A text, and what is left of it after plain characters at its beginning. -/
inductive Peels : Text → Text → Prop where
  | refl {text : Text} : Peels text text
  | cons {c : Char} {text rest : Text} :
    Role.of c = .plain →
    Peels text rest →
    Peels (c :: text) rest

variable {cc : Classifier} {text rest name : Text}

namespace Peels

/-- What is left of what is left is left of the text. -/
lemma trans {text' : Text} (h : Peels text text') (h' : Peels text' rest) : Peels text rest := by
  induction h with
  | refl => exact h'
  | cons plain _ ih => exact .cons plain (ih h')

/-- A text that begins with plain characters can be peeled of them. -/
lemma of_append {front : Text} (plain : ∀ c ∈ front, Role.of c = .plain) :
    Peels (front ++ rest) rest := by
  induction front with
  | nil => exact .refl
  | cons c front ih => exact .cons (plain c (by simp)) (ih fun d mem => plain d (by simp [mem]))

/-- Plain characters do not keep the rest from having its outer characters. -/
lemma outer {p : Char → Prop} (h : Peels text rest) (outer : Outer p text) : Outer p rest := by
  induction h with
  | refl => exact outer
  | cons plain _ ih => exact ih (outer.tail plain)

/-- Plain characters before a text do not change whether it is balanced. -/
lemma balanced (h : Peels text rest) (balanced : Balanced text) : Balanced rest := by
  rw [balanced_iff_outer] at balanced ⊢
  exact h.outer balanced

end Peels

namespace Classifier.DelimiterFree

/-- Every character of a class is plain. -/
lemma plain (free : cc.DelimiterFree) {cls : CharClass} {c : Char} (h : cc cls c = true) :
    Role.of c = .plain := by
  apply Role.of_eq_plain
  intro mem
  rw [free cls c mem] at h
  cases h

/-- A classifier that takes no delimiters takes plain characters only. -/
lemma peels_dropWhile (free : cc.DelimiterFree) (cls : CharClass) (text : Text) :
    Peels text (text.dropWhile (cc cls)) := by
  have peels : Peels (text.takeWhile (cc cls) ++ text.dropWhile (cc cls))
      (text.dropWhile (cc cls)) :=
    .of_append fun c mem => free.plain (List.mem_takeWhile_imp mem)
  rw [List.takeWhile_append_dropWhile] at peels
  exact peels

/-- Whitespace is plain. -/
lemma peels_skip (free : cc.DelimiterFree) (text : Text) : Peels text (cc.skip text) :=
  free.peels_dropWhile .whitespace text

/-- A text stays balanced when it is trimmed. -/
lemma balanced_trim (free : cc.DelimiterFree) (balanced : Balanced text) :
    Balanced (cc.trim text) := by
  rw [balanced_iff_outer] at balanced ⊢
  exact balanced.trim fun _ blank => free.plain blank

/-- Identifiers are plain. -/
lemma plain_of_identifier (free : cc.DelimiterFree) (h : cc.Identifier text) :
    ∀ c ∈ text, Role.of c = .plain := by
  obtain ⟨first, rest, rfl, start, chars⟩ := h
  intro c mem
  cases mem with
  | head => exact free.plain start
  | tail _ mem => exact free.plain (chars c mem)

/-- So are paths, whose separators are no delimiters. -/
lemma plain_of_path (free : cc.DelimiterFree) (h : cc.Path text) :
    ∀ c ∈ text, Role.of c = .plain := by
  induction h with
  | single identifier => exact free.plain_of_identifier identifier
  | cons identifier separates _ ih =>
    intro c mem
    rcases List.mem_append.mp mem with mem | mem
    · exact free.plain_of_identifier identifier c mem
    · cases mem with
      | head => exact free.plain separates
      | tail _ mem => exact ih c mem

/-- So are names. -/
lemma plain_of_name (free : cc.DelimiterFree) (h : cc.Name text) :
    ∀ c ∈ text, Role.of c = .plain := by
  cases h with
  | relative path => exact free.plain_of_path path
  | absolute root path =>
    intro c mem
    cases mem with
    | head => exact free.plain root
    | tail _ mem => exact free.plain_of_path path c mem

end Classifier.DelimiterFree

/-- The classifiers that differ from the standard one in harmless flag symbols are free of
delimiters. -/
lemma Classifier.OwnSymbols.delimiterFree (own : cc.OwnSymbols) : cc.DelimiterFree := by
  have punct : ∀ c ∈ ['(', ')', '<', '>', '[', ']', '"'], c ∈ Classifier.punctuation :=
    Text.forall_of_all (by decide)
  intro cls c mem
  exact own.eq_false (punct c mem)

namespace Descriptor

/-- A flag word and its colon are plain. -/
lemma peels_takeFlagWord (free : cc.DelimiterFree) (text : Text) :
    Peels text (takeFlagWord cc text).2 := by
  unfold takeFlagWord
  split
  · next colon =>
    have skipped := free.peels_skip (text.dropWhile (cc .flagWord))
    rw [colon] at skipped
    exact ((free.peels_dropWhile .flagWord text).trans skipped).trans (.cons rfl .refl)
  · exact .refl

/-- Flag symbols and the whitespace around them are plain. -/
lemma peels_takeFlagSymbols (free : cc.DelimiterFree) (text : Text) :
    Peels text (takeFlagSymbols cc text).2 := by
  fun_induction takeFlagSymbols cc text with
  | case1 => exact .refl
  | case2 c rest blank ih => exact .cons (free.plain blank) ih
  | case3 c rest _ symbol ih => exact .cons (free.plain symbol) ih
  | case4 => exact .refl

/-- A name is plain. -/
lemma peels_takeName (free : cc.DelimiterFree) (h : takeName cc text = .ok (name, rest)) :
    Peels text rest := by
  rw [append_of_takeName h]
  exact .of_append (free.plain_of_name (name_of_takeName h).1)

/-- What the readers of the components before the lists leave of a text. -/
lemma peels_front (free : cc.DelimiterFree)
    (h : takeName cc (takeFlagSymbols cc (takeFlagWord cc text).2).2 = .ok (name, rest)) :
    Peels text rest :=
  (peels_takeFlagWord free text).trans <| (peels_takeFlagSymbols free _).trans <|
    peels_takeName free h

/-- What is left when a balanced text is trimmed, and is not blank. -/
inductive Cut (cc : Classifier) : Text → Prop where
  | of_trim {piece : Text} :
    Balanced piece →
    cc.trim piece ≠ [] →
    Cut cc (cc.trim piece)

/-- A cut is not empty. -/
lemma Cut.ne_nil (h : Cut cc text) : text ≠ [] := by
  cases h with
  | of_trim _ ne => exact ne

/-- A cut is trimmed already. -/
lemma Cut.trim_eq (h : Cut cc text) : cc.trim text = text := by
  cases h with
  | of_trim _ _ => exact cc.trim_trim _

/-- A cut is balanced, because whitespace is plain. -/
lemma Cut.balanced (free : cc.DelimiterFree) (h : Cut cc text) : Balanced text := by
  cases h with
  | of_trim balanced _ => exact free.balanced_trim balanced

/-- Operands are cuts if what they are trimmed from is balanced. -/
lemma cut_of_operands {texts results : List Text} (h : operands cc texts = .ok results)
    (balanced : ∀ text ∈ texts, Balanced text) : ∀ result ∈ results, Cut cc result := by
  intro result mem
  obtain ⟨text, inTexts, ne, rfl⟩ := exists_of_mem_operands h mem
  exact .of_trim (balanced text inTexts) ne

/-- Generic arguments are cuts. -/
lemma cut_of_readArgs {args : List Text} (h : readArgs cc text = .ok args) :
    ∀ arg ∈ args, Cut cc arg := by
  rcases exists_segments_of_readArgs h with rfl | ⟨pieces, commas, trimmed⟩
  · nofun
  · exact cut_of_operands trimmed fun segment mem => (commas.free segment mem).balanced

/-- All parts of a descriptor other than a group are cuts. -/
lemma Ungrouped.cut_parts {d : Descriptor} (h : Ungrouped cc text d) :
    ∀ part ∈ d.parts, Cut cc part := by
  cases h with
  | union bars _ trimmed =>
    exact cut_of_operands trimmed fun segment mem => (bars.free segment mem).balanced
  | intersection _ amps _ trimmed =>
    exact cut_of_operands trimmed fun segment mem => (amps.free segment mem).balanced
  | @array element inside d _ _ before _ ne _ outcome =>
    obtain ⟨size, rfl, _⟩ := exists_of_arrayOutcome outcome
    intro part mem
    cases List.mem_singleton.mp mem
    exact .of_trim before ne
  | generic _ _ _ generic =>
    obtain ⟨_, _, _, _, _, angles, _, _, _, _, _, _, args_eq, _, rfl⟩ := exists_of_readGeneric generic
    cases angles with
    | none =>
      cases args_eq
      nofun
    | some inside => exact cut_of_readArgs args_eq

/-- Every part of a descriptor is left of a balanced text, whatever the classifier. -/
lemma cut_of_mem_parts {degroup : Bool} {part : Text} {d : Descriptor}
    (h : read cc degroup text = .ok d) (mem : part ∈ d.parts) : Cut cc part := by
  obtain ⟨last, _, read_last⟩ := exists_read_of_read h
  rcases enclosed_or_ungrouped (readTrimmed_of_read read_last) with
    ⟨inside, balanced, _, ne, rfl⟩ | ⟨_, ungrouped⟩
  · cases List.mem_singleton.mp mem
    exact .of_trim balanced ne
  · exact ungrouped.cut_parts part mem

end Descriptor
end TypeShape
