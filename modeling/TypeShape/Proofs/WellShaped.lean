import TypeShape.Proofs.Components
import TypeShape.Proofs.Placement

/-!
# Well-shaped descriptors

What can be relied on in a descriptor that was read, for any classifier, also one whose classes overlap
or take characters that delimit. An `Excerpt` is what a part is of its text. `Assembled` says by form
what a descriptor is put together from, and `WellShaped` the same by accessor, as callers see it.
-/

namespace TypeShape

/-- What is left of some stretch of a text without the whitespace at its ends. -/
structure Excerpt (cc : Classifier) (text part : Text) : Prop where
  ne_nil : part ≠ []
  trim_eq : cc.trim part = part
  isInfix : part <:+: text

namespace Descriptor

/-- A descriptor that is put together from stretches of a text. -/
inductive Assembled (cc : Classifier) (text : Text) : Descriptor → Prop where
  | generic {word symbols name : Text} {args : List Text} {parameters : Parameters} :
    (∀ c ∈ word, cc .flagWord c = true) →
    (∀ c ∈ symbols, cc .flagSymbol c = true) →
    cc.Name name →
    name <:+: text →
    (∀ arg ∈ args, Excerpt cc text arg) →
    parameters.Proper cc →
    Assembled cc text (.generic (word ++ symbols) name args parameters)
  | array {element : Text} {size : Option Text} :
    Excerpt cc text element →
    (∀ digits, size = some digits → Decimal.isNumeral digits = true) →
    Assembled cc text (.array element size)
  | group {inner : Text} :
    Excerpt cc text inner →
    Assembled cc text (.group inner)
  | union {operands : List Text} :
    2 ≤ operands.length →
    (∀ operand ∈ operands, Excerpt cc text operand) →
    Assembled cc text (.union operands)
  | intersection {operands : List Text} :
    2 ≤ operands.length →
    (∀ operand ∈ operands, Excerpt cc text operand) →
    Assembled cc text (.intersection operands)

/-- What holds of the names, the flags and the parameters of a descriptor, by its form. The parts are
all names but the primary name of a generic. -/
structure WellShaped (cc : Classifier) (text : Text) (d : Descriptor) : Prop where
  names_ne_nil : d.names ≠ []
  names_eq : d.names = if d.kind = .generic then d.name :: d.parts else d.parts
  length_names : match d.kind with
    | .generic => True
    | .array | .group => d.names.length = 1
    | .union | .intersection => 2 ≤ d.names.length
  excerpts : ∀ part ∈ d.parts, Excerpt cc text part
  primary : d.kind = .generic → cc.Name d.name ∧ d.name <:+: text
  flags : match d.kind with
    | .generic => ∃ word symbols, d.flags = word ++ symbols ∧
      (∀ c ∈ word, cc .flagWord c = true) ∧ ∀ c ∈ symbols, cc .flagSymbol c = true
    | _ => d.flags = []
  parameters : match d.kind with
    | .generic => d.parameters.keys.Nodup ∧ ∀ key ∈ d.parameters.keys, cc.Identifier key
    | .array => d.parameters = .empty ∨ ∃ digits, d.parameters = .singleton (.positional digits) ∧
      digits ≠ [] ∧ ∀ c ∈ digits, c.isDigit = true
    | _ => d.parameters = .empty

variable {cc : Classifier} {degroup : Bool} {text last : Text} {d : Descriptor}

/-- Parts are excerpts of the text that was read. -/
lemma excerpts_of_read (h : read cc degroup text = .ok d) :
    ∀ part ∈ d.parts, Excerpt cc text part := by
  have placed := placed_of_read h
  intro part mem
  exact ⟨placed.ne_nil part mem, placed.trim_eq part mem, placed.isInfix part mem⟩

/-- The name of a generic stands in its text. -/
lemma assembled_of_readGeneric (within : last <:+: text) (h : readGeneric cc last = .ok d)
    (excerpts : ∀ part ∈ d.parts, Excerpt cc text part) : Assembled cc text d := by
  obtain ⟨name, afterName, list, _, parameters, _, _, args, named, _, parameters_eq, _, _, _, rfl⟩ :=
    exists_of_readGeneric h
  have flags_suffix :=
    (takeFlagSymbols_suffix cc (takeFlagWord cc last).2).trans (takeFlagWord_suffix cc last)
  have begins_rest : name <+: (takeFlagSymbols cc (takeFlagWord cc last).2).2 :=
    ⟨afterName, (append_of_takeName named).symm⟩
  have name_within := (begins_rest.isInfix.trans flags_suffix.isInfix).trans within
  obtain ⟨is_name, _⟩ := name_of_takeName named
  exact .generic flagWord_of_takeFlagWord flagSymbol_of_takeFlagSymbols is_name name_within
    excerpts (Parameters.proper_of_list parameters_eq)

/-- What is read from an excerpt is assembled of excerpts of the text. -/
lemma Ungrouped.assembled (within : last <:+: text) (h : Ungrouped cc last d)
    (excerpts : ∀ part ∈ d.parts, Excerpt cc text part) : Assembled cc text d := by
  cases h with
  | union _ several operands_ok =>
    have length := length_of_operands operands_ok
    exact .union (by omega) excerpts
  | intersection _ _ several operands_ok =>
    have length := length_of_operands operands_ok
    exact .intersection (by omega) excerpts
  | array _ _ _ _ _ _ outcome =>
    obtain ⟨size, rfl, fits⟩ := exists_of_arrayOutcome outcome
    exact .array (excerpts _ (by simp [parts, names])) fun digits sized => (fits digits sized).1
  | generic _ _ _ generic => exact assembled_of_readGeneric within generic excerpts

/-- Whatever is read is assembled of excerpts, after groups were unwrapped or not. -/
lemma assembled_of_read (h : read cc degroup text = .ok d) : Assembled cc text d := by
  have excerpts := excerpts_of_read h
  obtain ⟨last, within, read_last⟩ := exists_read_of_read h
  rcases enclosed_or_ungrouped (readTrimmed_of_read read_last) with
    ⟨inside, _, _, _, rfl⟩ | ⟨_, ungrouped⟩
  · exact .group (excerpts _ (by simp [parts, names]))
  · exact ungrouped.assembled ((Text.trim_infix _ last).trans within) excerpts

/-- The keys of proper parameters are identifiers. -/
lemma identifier_of_mem_keys {parameters : Parameters} (proper : parameters.Proper cc) :
    ∀ key ∈ parameters.keys, cc.Identifier key := by
  intro key mem
  obtain ⟨parameter, inList, key_eq⟩ := List.mem_filterMap.mp mem
  exact proper.proper parameter inList key key_eq

/-- The size of an array is its only parameter. -/
lemma parameters_array {element : Text} {size : Option Text}
    (numeral : ∀ digits, size = some digits → Decimal.isNumeral digits = true) :
    (array element size).parameters = .empty ∨ ∃ digits,
      (array element size).parameters = .singleton (.positional digits) ∧
      digits ≠ [] ∧ ∀ c ∈ digits, c.isDigit = true := by
  cases size with
  | none => exact .inl rfl
  | some digits =>
    have written := numeral digits rfl
    simp only [Decimal.isNumeral, Bool.and_eq_true, Bool.not_eq_true', List.isEmpty_eq_false_iff,
      List.all_eq_true] at written
    exact .inr ⟨digits, rfl, written⟩

/-- A union or an intersection is well shaped if it has two operands or more, and they are excerpts.
-/
lemma WellShaped.of_operands {operands : List Text} (several : 2 ≤ operands.length)
    (excerpts : ∀ operand ∈ operands, Excerpt cc text operand)
    (operator : d = .union operands ∨ d = .intersection operands) : WellShaped cc text d := by
  have ne : operands ≠ [] := List.ne_nil_of_length_pos (Nat.zero_lt_of_lt several)
  rcases operator with rfl | rfl
  all_goals exact {
    names_ne_nil := ne
    names_eq := rfl
    length_names := several
    excerpts := excerpts
    primary := by simp [kind]
    flags := rfl
    parameters := rfl }

/-- What is assembled is well shaped, whatever its form. -/
lemma Assembled.wellShaped (h : Assembled cc text d) : WellShaped cc text d := by
  cases h with
  | @generic word symbols _ _ _ worded flagged named within excerpts proper =>
    exact {
      names_ne_nil := List.cons_ne_nil _ _
      names_eq := rfl
      length_names := trivial
      excerpts := excerpts
      primary := fun _ => ⟨named, within⟩
      flags := ⟨word, symbols, rfl, worded, flagged⟩
      parameters := ⟨proper.distinct, identifier_of_mem_keys proper⟩ }
  | array excerpt numeral =>
    exact {
      names_ne_nil := List.cons_ne_nil _ _
      names_eq := rfl
      length_names := rfl
      excerpts := by simpa [parts, names] using excerpt
      primary := by simp [kind]
      flags := rfl
      parameters := parameters_array numeral }
  | group excerpt =>
    exact {
      names_ne_nil := List.cons_ne_nil _ _
      names_eq := rfl
      length_names := rfl
      excerpts := by simpa [parts, names] using excerpt
      primary := by simp [kind]
      flags := rfl
      parameters := rfl }
  | union several excerpts => exact .of_operands several excerpts (.inl rfl)
  | intersection several excerpts => exact .of_operands several excerpts (.inr rfl)

/-- Whatever the classifier and the text, a descriptor that is read has what its form demands. -/
theorem wellShaped_of_parse (h : parse cc degroup text = .ok d) : WellShaped cc text d :=
  (assembled_of_read (parse_eq_ok_iff.mp h)).wellShaped

/-- A character of all classes is trimmed off a part, and is the last character of the name. -/
theorem wellShaped_of_parse_overlapping :
    let cc : Classifier := fun cls c => c == '_' || Classifier.standard cls c
    let d := generic [] ['a', '_'] [['b']] ⟨[.named ['k'] ['1']]⟩
    parse cc true "(_a_(k:1)<_b_>)".toList = .ok d ∧ WellShaped cc "(_a_(k:1)<_b_>)".toList d := by
  intro cc d
  have parsed : parse cc true "(_a_(k:1)<_b_>)".toList = .ok d := by
    decide +kernel
  exact ⟨parsed, wellShaped_of_parse parsed⟩

end Descriptor
end TypeShape
