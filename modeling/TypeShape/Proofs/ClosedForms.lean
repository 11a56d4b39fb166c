import TypeShape.Proofs.Arguments

/-!
# Valid texts are closed under the forms

Operators, parentheses, brackets and arguments make valid texts of valid ones, with whitespace around
every piece (`valid_closed`). Nothing has to be put in parentheses first: an operator or brackets may
tear the pieces apart, but what they are torn into is valid again.
-/

namespace TypeShape

variable {cc : Classifier} {text inside digits whole : Text} {texts padded segments : List Text}
  {d : Descriptor}

/-- Digits are a numeral. -/
lemma Decimal.isNumeral_of_digits (ne : digits ≠ []) (all : ∀ c ∈ digits, c.isDigit = true) :
    Decimal.isNumeral digits = true := by
  simpa [Decimal.isNumeral, ne] using all

namespace Classifier

/-- A text without whitespace around it is padded too. -/
lemma padded_self (cc : Classifier) (text : Text) : cc.Padded text text :=
  ⟨[], [], Text.blank_nil, Text.blank_nil, by simp⟩

/-- Padding brings no outer characters but whitespace. -/
lemma Padded.outer (own : cc.OwnSymbols) {p : Char → Prop}
    (accepts : ∀ c, cc .whitespace c = true → p c) (h : cc.Padded text whole) (outer : Outer p text) :
    Outer p whole := by
  obtain ⟨front, back, front_blank, back_blank, rfl⟩ := h
  exact ((own.outer_of_blank accepts front_blank).append outer).append
    (own.outer_of_blank accepts back_blank)

/-- A digit may stand in names. -/
lemma OwnSymbols.nameChar_of_isDigit (own : cc.OwnSymbols) {c : Char} (digit : c.isDigit = true) :
    cc .nameChar c = true := by
  rw [own.nameChar_eq]
  simp [Descriptor.isWordFlag, Char.isAlphanum, digit]

/-- Digits are what is left of them when whitespace around them is trimmed off. -/
lemma OwnSymbols.trim_digits (own : cc.OwnSymbols) (all : ∀ c ∈ digits, c.isDigit = true)
    (padded : cc.Padded digits inside) : cc.trim inside = digits := by
  rw [padded.trim_eq]
  apply Text.Trimmed.trim_eq
  apply Text.trimmed_of_not_blank
  intro c mem
  rw [own.whitespace_eq]
  exact own.not_blank (own.nameChar_of_isDigit (all c mem)) (by decide)

/-- Digits with whitespace around them are balanced. -/
lemma OwnSymbols.balanced_digits (own : cc.OwnSymbols) (all : ∀ c ∈ digits, c.isDigit = true)
    (padded : cc.Padded digits inside) : Balanced inside := by
  have plain : Outer (fun _ => True) digits := .of_plain fun c mem =>
    ⟨own.plain (own.nameChar_of_isDigit (all c mem)), trivial⟩
  exact (padded.outer own (fun _ _ => trivial) plain).balanced

end Classifier

namespace Descriptor

/-- Digits in brackets, or nothing, make an array of every element. -/
lemma exists_arrayOutcome (own : cc.OwnSymbols) (all : ∀ c ∈ digits, c.isDigit = true)
    (fits : Decimal.value digits < UInt64.size) (padded : cc.Padded digits inside) :
    ∃ size, ∀ element, arrayOutcome cc element inside = .ok (.array (cc.trim element) size) := by
  have trim_eq := own.trim_digits all padded
  by_cases nothing : digits = []
  · refine ⟨none, fun element => ?_⟩
    rw [arrayOutcome, trim_eq, if_pos nothing]
  · have numeral := Decimal.isNumeral_of_digits nothing all
    refine ⟨some digits, fun element => ?_⟩
    rw [arrayOutcome, trim_eq, if_neg nothing, if_pos ⟨numeral, fits⟩]

end Descriptor

namespace Valid

/-- Padded texts are valid if the texts are. -/
lemma of_padded (all : ∀ text ∈ texts, Valid cc text) (pads : List.Forall₂ cc.Padded texts padded) :
    ∀ text ∈ padded, Valid cc text := by
  induction pads with
  | nil => exact all
  | @cons text whole texts padded pad _ ih =>
    intro other mem
    rcases List.mem_cons.mp mem with rfl | mem
    · exact (all text (by simp)).padded pad
    · exact ih (fun text mem => all text (by simp [mem])) other mem

/-- Valid texts in angle brackets after a generic without any are valid. -/
lemma args (own : cc.OwnSymbols) (parsed : Descriptor.parse cc false text = .ok d)
    (generic : d.kind = .generic) (free : Outer (· ≠ '<') text) (ne : texts ≠ [])
    (all : ∀ text ∈ texts, Valid cc text) :
    Valid cc (text ++ '<' :: (Text.join [','] texts ++ ['>'])) := by
  have no_comma : ∀ text ∈ texts, Outer (· ≠ ',') text := fun text mem =>
    ((all text mem).allowed own).mono fun _ => own.ne_comma
  have segments : Segments ',' (Text.join [','] texts) texts := ⟨ne, rfl, no_comma⟩
  have balanced : Balanced (Text.join [','] texts) := by
    have outer : Outer (fun _ => True) (Text.join [','] texts) :=
      .join rfl trivial fun text mem => ((all text mem).allowed own).mono fun _ _ => trivial
    exact outer.balanced
  have args_eq := Descriptor.readArgs_of_segments own segments fun text mem =>
    (all text mem).trim_ne_nil
  obtain ⟨flags, parameters, _, with_args⟩ := Descriptor.parse_with_args own parsed generic free
  apply Valid.of_parts (with_args _ _ balanced args_eq)
  intro part mem
  obtain ⟨text, inTexts, rfl⟩ := List.mem_map.mp mem
  exact (all text inTexts).trim

end Valid

/-- Valid texts stay valid in every form of the notation, with whitespace around each of the pieces
and around the whole: one text or more between operators, one in parentheses or before brackets, and
one or more as arguments. A size is any run of digits that fits in a word, also an empty one, and
arguments are given to any generic that has no angle brackets outside of its delimiters. -/
structure Closed (cc : Classifier) : Prop where
  union : ∀ texts padded whole, texts ≠ [] → (∀ text ∈ texts, Valid cc text) →
    List.Forall₂ cc.Padded texts padded →
    cc.Padded (Text.join ['|'] padded) whole →
    Valid cc whole
  intersection : ∀ texts padded whole, texts ≠ [] → (∀ text ∈ texts, Valid cc text) →
    List.Forall₂ cc.Padded texts padded →
    cc.Padded (Text.join ['&'] padded) whole →
    Valid cc whole
  group : ∀ text padded whole, Valid cc text →
    cc.Padded text padded →
    cc.Padded ('(' :: (padded ++ [')'])) whole →
    Valid cc whole
  array : ∀ text padded digits inside whole, Valid cc text →
    (∀ c ∈ digits, c.isDigit = true) →
    Decimal.value digits < UInt64.size →
    cc.Padded text padded →
    cc.Padded digits inside →
    cc.Padded (padded ++ '[' :: (inside ++ [']'])) whole →
    Valid cc whole
  generic : ∀ base d padded_base texts padded whole,
    Descriptor.parse cc false base = .ok d →
    d.kind = .generic →
    ¬ HasOuter '<' base →
    texts ≠ [] → (∀ text ∈ texts, Valid cc text) →
    cc.Padded base padded_base →
    List.Forall₂ cc.Padded texts padded →
    cc.Padded (padded_base ++ '<' :: (Text.join [','] padded ++ ['>'])) whole →
    Valid cc whole

/-- There are padded texts if there are texts. -/
lemma ne_nil_of_pads (ne : texts ≠ []) (pads : List.Forall₂ cc.Padded texts padded) :
    padded ≠ [] := by
  cases pads with
  | nil => exact ne
  | cons _ _ => exact List.cons_ne_nil _ _

/-- Validity is closed under the forms, for the standard classifier and for all that differ from it only
in flag symbols of their own. -/
theorem valid_closed (own : cc.OwnSymbols) : Closed cc where
  union texts padded whole ne all pads around := by
    have joined : Valid cc (Text.join ['|'] padded) :=
      Valid.join (fun h h' => h.bar own h') (ne_nil_of_pads ne pads) (Valid.of_padded all pads)
    exact joined.padded around
  intersection texts padded whole ne all pads around := by
    have joined : Valid cc (Text.join ['&'] padded) :=
      Valid.join (fun h h' => h.amp own h') (ne_nil_of_pads ne pads) (Valid.of_padded all pads)
    exact joined.padded around
  group text padded whole valid pad around := by
    have grouped := (valid.padded pad).group own
    exact grouped.padded around
  array text padded digits inside whole valid all fits pad pad' around := by
    obtain ⟨size, outcome⟩ := Descriptor.exists_arrayOutcome own all fits pad'
    have balanced := own.balanced_digits all pad'
    exact ((valid.padded pad).brackets own balanced outcome).padded around
  generic base d padded_base texts padded whole parsed generic free ne all pad pads around := by
    have outer := outer_of_not_hasOuter (Descriptor.allowed_of_parse own parsed).balanced free
    have parsed' := Descriptor.parse_of_trim_eq pad.trim_eq.symm parsed
    apply Valid.padded _ around
    have outer' : Outer (· ≠ '<') padded_base := by
      apply pad.outer own _ outer
      rintro _ accepts rfl
      exact own.not_punctuation accepts (by decide)
    exact Valid.args own parsed' generic outer' (ne_nil_of_pads ne pads) (Valid.of_padded all pads)

/-- The intersection and then the brackets tear the alternatives apart, and the text they make is
still valid, also as an argument. -/
theorem valid_closed_torn :
    Classifier.standard.OwnSymbols ∧
      Descriptor.parse .standard false "a|b & c [ 2 ]".toList =
        .ok (.union [['a'], "b & c [ 2 ]".toList]) ∧
      Valid .standard "k< a|b & c [ 2 ]>".toList := by
  have closed := valid_closed Classifier.standard_ownSymbols
  have self := Classifier.standard.padded_self
  have space : Text.Blank (Classifier.standard .whitespace) [' '] := by
    intro c mem
    cases List.mem_singleton.mp mem
    rfl
  have spaced (text : Text) : Classifier.standard.Padded text ([' '] ++ text ++ [' ']) :=
    ⟨[' '], [' '], space, space, rfl⟩
  have letter {c : Char} (parsed : Descriptor.parse .standard false [c] =
      .ok (.generic [] [c] [] .empty)) : Valid .standard [c] := by
    apply Valid.of_parts parsed
    intro part mem
    cases mem
  have a : Valid .standard ['a'] := letter (by decide +kernel)
  have b : Valid .standard ['b'] := letter (by decide +kernel)
  have c : Valid .standard ['c'] := letter (by decide +kernel)
  have alternatives : Valid .standard "a|b".toList :=
    closed.union [['a'], ['b']] _ _ (by decide)
      (List.forall_mem_cons.mpr ⟨a, List.forall_mem_singleton.mpr b⟩)
      (.cons (self _) (.cons (self _) .nil)) (self _)
  have intersection : Valid .standard " a|b & c ".toList :=
    closed.intersection ["a|b".toList, ['c']] _ _ (by decide)
      (List.forall_mem_cons.mpr ⟨alternatives, List.forall_mem_singleton.mpr c⟩)
      (.cons (spaced _) (.cons (spaced _) .nil)) (self _)
  have array : Valid .standard " a|b & c [ 2 ]".toList :=
    closed.array _ _ ['2'] _ _ intersection (by simp) (by decide) (self _) (spaced _) (self _)
  have generic : Valid .standard "k< a|b & c [ 2 ]>".toList := by
    have base : Descriptor.parse .standard false ['k'] = .ok (.generic [] ['k'] [] .empty) := by
      decide +kernel
    have free : Outer (· ≠ '<') ['k'] := .of_plain (Text.forall_of_all (by decide))
    exact closed.generic ['k'] _ _ [" a|b & c [ 2 ]".toList] _ _ base rfl
      (fun outer => (hasOuter_iff free.balanced).mp outer free) (by decide)
      (List.forall_mem_singleton.mpr array) (self _) (.cons (self _) .nil) (self _)
  exact ⟨Classifier.standard_ownSymbols, by decide +kernel, generic⟩

end TypeShape
