import TypeShape.Descriptor.Render
import TypeShape.Proofs.Forms

/-!
# Classifiers with flag symbols of their own

The classifiers that differ from the standard one in their flag symbols at most, where these are no
whitespace, no characters of words and no structural punctuation. No class of such a classifier
accepts punctuation (`OwnSymbols.not_punctuation`), so its characters are all plain, and its
whitespace is apart from the characters of names and flags.
-/

namespace TypeShape

/-- What a test finds of each character of a text holds of each. -/
lemma Text.forall_of_all {p : Char → Prop} [DecidablePred p] {text : Text}
    (h : text.all (fun c => decide (p c)) = true) : ∀ c ∈ text, p c := by
  simpa using h

namespace Classifier

/-- The characters that have a meaning of their own in every descriptor. -/
def punctuation : List Char :=
  ['(', ')', '<', '>', '[', ']', ',', ':', '|', '&', '"']

/-- The standard classifier, but for flag symbols that cannot be taken for anything else. -/
structure OwnSymbols (cc : Classifier) : Prop where
  classes : ∀ cls, cls ≠ .flagSymbol → cc cls = standard cls
  symbol_not_blank : ∀ c, cc .flagSymbol c = true → Text.isBlank c = false
  symbol_not_word : ∀ c, cc .flagSymbol c = true → c.isAlphanum = false ∧ c ≠ '_'
  symbol_not_punctuation : ∀ c, cc .flagSymbol c = true → c ∉ punctuation

/-- The standard classifier is one of them. -/
theorem standard_ownSymbols : OwnSymbols standard where
  classes _ _ := rfl
  symbol_not_blank c symbol := by
    have all : ∀ c ∈ standardSymbols, Text.isBlank c = false :=
      Text.forall_of_all (by decide)
    exact all c (List.contains_iff_mem.mp symbol)
  symbol_not_word c symbol := by
    have all : ∀ c ∈ standardSymbols, c.isAlphanum = false ∧ c ≠ '_' :=
      Text.forall_of_all (by decide)
    exact all c (List.contains_iff_mem.mp symbol)
  symbol_not_punctuation c symbol := by
    have all : ∀ c ∈ standardSymbols, c ∉ punctuation :=
      Text.forall_of_all (by decide)
    exact all c (List.contains_iff_mem.mp symbol)

/-- What is not punctuation has no part in nesting. -/
lemma plain_of_not_punctuation {c : Char} (h : c ∉ punctuation) : Role.of c = .plain := by
  unfold Role.of
  repeat' split
  all_goals first
    | rfl
    | exact absurd (by subst_vars; decide) h

end Classifier

namespace Text

/-- The characters of ASCII that are written are not blank. -/
lemma isBlank_eq_false {c : Char} (low : 33 ≤ c.toNat) (high : c.toNat ≤ 126) :
    isBlank c = false := by
  simp only [isBlank, CodeRange.holds, CodeRange.whiteSpace]
  simp
  omega

end Text

/-- Letters and digits are among the characters that are written. -/
lemma toNat_of_isAlphanum {c : Char} (h : c.isAlphanum = true) : 48 ≤ c.toNat ∧ c.toNat ≤ 122 := by
  delta Char.isAlphanum Char.isAlpha Char.isUpper Char.isLower Char.isDigit at h
  simp only [Bool.or_eq_true, Bool.and_eq_true, decide_eq_true_eq, ge_iff_le,
    UInt32.le_iff_toNat_le] at h
  have toNat_eq : c.val.toNat = c.toNat := rfl
  simp only [Char.reduceVal, UInt32.reduceToNat, toNat_eq] at h
  omega

/-- Characters of words are not blank. -/
lemma isBlank_of_isWordFlag {c : Char} (h : Descriptor.isWordFlag c = true) :
    Text.isBlank c = false := by
  simp only [Descriptor.isWordFlag, Bool.or_eq_true, beq_iff_eq] at h
  rcases h with alphanum | rfl
  · have range := toNat_of_isAlphanum alphanum
    exact Text.isBlank_eq_false (by omega) (by omega)
  · rfl

namespace Classifier.OwnSymbols

variable {cc : Classifier} {c : Char}

/-- A classifier with its own symbols has the standard whitespace. -/
lemma whitespace_eq (own : OwnSymbols cc) : cc .whitespace = Text.isBlank :=
  own.classes .whitespace (by simp)

/-- So it trims as the standard one does. -/
lemma trim_eq (own : OwnSymbols cc) : cc.trim = Text.trim Text.isBlank := by
  unfold Classifier.trim
  rw [own.whitespace_eq]

/-- It has the standard characters of flag words. -/
lemma flagWord_eq (own : OwnSymbols cc) : cc .flagWord = Descriptor.isWordFlag :=
  own.classes .flagWord (by simp)

/-- Its names go on with the characters of flag words. -/
lemma nameChar_eq (own : OwnSymbols cc) : cc .nameChar = Descriptor.isWordFlag :=
  own.classes .nameChar (by simp)

/-- What begins a segment also continues one. -/
lemma nameChar_of_nameStart (own : OwnSymbols cc) (h : cc .nameStart c = true) :
    cc .nameChar c = true := by
  rw [own.classes .nameStart (by simp)] at h
  rw [own.nameChar_eq]
  simp only [standard, Bool.or_eq_true, beq_iff_eq] at h
  rcases h with alpha | rfl
  · simp [Descriptor.isWordFlag, Char.isAlphanum, alpha]
  · rfl

/-- No class accepts punctuation. -/
lemma not_punctuation (own : OwnSymbols cc) {cls : CharClass} (h : cc cls c = true) :
    c ∉ punctuation := by
  by_cases symbol : cls = .flagSymbol
  · subst symbol
    exact own.symbol_not_punctuation c h
  · intro mem
    have none : ∀ c ∈ punctuation, ∀ cls ∈ CharClass.all, standard cls c = false :=
      Text.forall_of_all (by decide)
    have rejects := none c mem cls (by cases cls <;> decide)
    rw [own.classes cls symbol, rejects] at h
    cases h

/-- Punctuation is rejected by every class. -/
lemma eq_false (own : OwnSymbols cc) {cls : CharClass} (punct : c ∈ punctuation) :
    cc cls c = false := by
  by_contra accepts
  rw [Bool.not_eq_false] at accepts
  exact own.not_punctuation accepts punct

/-- Every character of a class is plain. -/
lemma plain (own : OwnSymbols cc) {cls : CharClass} (h : cc cls c = true) : Role.of c = .plain :=
  plain_of_not_punctuation (own.not_punctuation h)

/-- Only whitespace is blank. -/
lemma not_blank (own : OwnSymbols cc) {cls : CharClass} (h : cc cls c = true)
    (ne : cls ≠ .whitespace) : Text.isBlank c = false := by
  by_cases symbol : cls = .flagSymbol
  · subst symbol
    exact own.symbol_not_blank c h
  · rw [own.classes cls symbol] at h
    cases cls with
    | nameStart =>
      have continues := nameChar_of_nameStart standard_ownSymbols h
      exact isBlank_of_isWordFlag continues
    | nameChar => exact isBlank_of_isWordFlag h
    | flagWord => exact isBlank_of_isWordFlag h
    | namespaceSeparator =>
      simp only [standard, Bool.or_eq_true, beq_iff_eq] at h
      rcases h with rfl | rfl <;> rfl
    | rootSeparator =>
      simp only [standard, beq_iff_eq] at h
      subst h
      rfl
    | flagSymbol => exact absurd rfl symbol
    | whitespace => exact absurd rfl ne

/-- Whitespace is in no other class. -/
lemma rejects_blank (own : OwnSymbols cc) (h : cc .whitespace c = true) {cls : CharClass}
    (ne : cls ≠ .whitespace) : cc cls c = false := by
  by_contra accepts
  rw [Bool.not_eq_false] at accepts
  rw [own.whitespace_eq, own.not_blank accepts ne] at h
  cases h

/-- A class that rejects the beginning of a text also does after whitespace. -/
lemma rejects_head (own : OwnSymbols cc) {gap rest : Text} {cls : CharClass}
    (blank : Text.Blank (cc .whitespace) gap) (ne : cls ≠ .whitespace)
    (rejects : ∀ c, rest.head? = some c → cc cls c = false) :
    ∀ c, (gap ++ rest).head? = some c → cc cls c = false := by
  intro c head
  cases gap with
  | nil => exact rejects c head
  | cons d gap =>
    cases head
    exact own.rejects_blank (blank c (by simp)) ne

/-- A flag symbol is no character of a flag word. -/
lemma symbol_not_wordFlag (own : OwnSymbols cc) (h : cc .flagSymbol c = true) :
    Descriptor.isWordFlag c = false := by
  obtain ⟨not_alphanum, ne⟩ := own.symbol_not_word c h
  simp [Descriptor.isWordFlag, not_alphanum, ne]

/-- A flag word ends where flag symbols begin. -/
lemma word_ends (own : OwnSymbols cc) {symbols : Text}
    (symbol : ∀ c ∈ symbols, cc .flagSymbol c = true) :
    ∀ c, symbols.head? = some c → Descriptor.isWordFlag c = false :=
  fun c head => own.symbol_not_wordFlag (symbol c (List.mem_of_mem_head? head))

/-- A separator of names is no character of words. -/
lemma not_word_of_separator (own : OwnSymbols cc) (h : cc .namespaceSeparator c = true) :
    Descriptor.isWordFlag c = false := by
  rw [own.classes .namespaceSeparator (by simp)] at h
  simp only [standard, Bool.or_eq_true, beq_iff_eq] at h
  rcases h with rfl | rfl <;> rfl

/-- A root separator is also a separator of names. -/
lemma separator_of_root (own : OwnSymbols cc) (h : cc .rootSeparator c = true) :
    cc .namespaceSeparator c = true := by
  rw [own.classes .rootSeparator (by simp)] at h
  rw [own.classes .namespaceSeparator (by simp)]
  simp only [standard, beq_iff_eq] at h
  subst h
  rfl

end Classifier.OwnSymbols
end TypeShape
