import TypeShape.Descriptor.Parts
import TypeShape.Proofs.Cuts

/-!
# The five forms

One rule for each form: what is read from a text of which it is known, in words of balanced texts,
that it has the form. Which rule applies is decided by the characters outside of delimiters, in the
order group, union, intersection, array, generic. `Ungrouped` is the inversion of the rules: what the
text has to be for a descriptor to be read from it.
-/

namespace TypeShape

/-- A character that may stand outside of delimiters: structural punctuation, or one of a class. -/
def Classifier.Allowed (cc : Classifier) (c : Char) : Prop :=
  c ∈ ['(', ')', '<', '>', '[', ']', ':', '|', '&'] ∨ ∃ cls, cc cls c = true

/-- A text that a pair of parentheses encloses. -/
def Enclosed (text : Text) : Prop :=
  ∃ inside, Balanced inside ∧ text = '(' :: (inside ++ [')'])

/-- What is enclosed in one pair of parentheses is balanced. -/
lemma Enclosed.balanced {text : Text} (h : Enclosed text) : Balanced text := by
  obtain ⟨inside, ⟨items, nested⟩, rfl⟩ := h
  exact ⟨_, Nested.pair (d := .paren) nested .nil⟩

/-- A text that ends with a pair of square brackets and has more before them than whitespace. -/
def Bracketed (cc : Classifier) (text : Text) : Prop :=
  ∃ element inside, Balanced element ∧ Balanced inside ∧ cc.trim element ≠ [] ∧
    text = element ++ '[' :: (inside ++ [']'])

namespace Descriptor

variable {cc : Classifier} {text : Text} {segments : List Text}

/-- The characters that the check at the top level lets pass. -/
lemma isTopLevelChar_iff {c : Char} : isTopLevelChar cc c = true ↔ cc.Allowed c := by
  have all_mem (cls : CharClass) : cls ∈ CharClass.all := by cases cls <;> decide
  simp only [isTopLevelChar, Classifier.Allowed, Bool.or_eq_true, List.contains_iff_mem,
    List.any_eq_true]
  refine or_congr_right ⟨?_, ?_⟩
  · rintro ⟨cls, _, accepts⟩
    exact ⟨cls, accepts⟩
  · rintro ⟨cls, accepts⟩
    exact ⟨cls, all_mem cls, accepts⟩

/-- The check at the top level passes exactly if all outer characters are allowed. -/
lemma checkTop_iff : Scan.checkTop (isTopLevelChar cc) text = .ok () ↔ Outer cc.Allowed text := by
  simp only [Scan.checkTop_eq_ok_iff, isTopLevelChar_iff]

/-- The text inside enclosing parentheses is balanced. -/
lemma enclosed?_eq_some_iff {inside : Text} :
    enclosed? text = .ok (some inside) ↔ Balanced inside ∧ text = '(' :: (inside ++ [')']) := by
  unfold enclosed?
  rw [Fallible.map_eq_ok_iff]
  constructor
  · rintro ⟨⟨pair, after⟩, taken, eq⟩
    cases after with
    | nil =>
      simp only [List.isEmpty_nil, if_true] at eq
      subst eq
      exact Scan.takePair_eq_some_iff.mp taken
    | cons c after => cases eq
  · rintro ⟨balanced, rfl⟩
    exact ⟨(some inside, []), Scan.takePair_eq_some_iff.mpr ⟨balanced, rfl⟩, rfl⟩

/-- A balanced text is searched for enclosing parentheses without a fault. -/
lemma enclosed?_eq_none (balanced : Balanced text) (free : ¬ Enclosed text) :
    enclosed? text = .ok none := by
  obtain ⟨⟨pair, after⟩, taken⟩ := Scan.exists_takePair .paren balanced
  have eq : enclosed? text = .ok (if after.isEmpty then pair else none) := by
    unfold enclosed?
    rw [taken]
    rfl
  rw [eq]
  split
  · next done =>
    cases pair with
    | none => rfl
    | some inside =>
      have closed := Scan.takePair_eq_some_iff.mp taken
      rw [List.isEmpty_iff.mp done] at closed
      exact absurd ⟨inside, closed⟩ free
  · rfl

/-- The outcome depends on the text without the whitespace around it. -/
lemma read_of_trim_eq {degroup : Bool} {text' : Text} (eq : cc.trim text = cc.trim text') :
    read cc degroup text = read cc degroup text' := by
  unfold read
  rw [eq]

/-- A blank text is rejected as such. -/
lemma read_of_blank (degroup : Bool) (blank : cc.trim text = []) :
    read cc degroup text = .error .empty := by
  unfold read
  exact if_pos (by simpa using blank)

/-- A text that is not blank is read once it is trimmed. -/
lemma read_of_ne_nil (degroup : Bool) (ne : cc.trim text ≠ []) :
    read cc degroup text = readTrimmed cc degroup (cc.trim text) := by
  unfold read
  exact if_neg (by simpa using ne)

/-- A text that is read is read without the whitespace at its ends. -/
lemma readTrimmed_of_read {degroup : Bool} {d : Descriptor} (h : read cc degroup text = .ok d) :
    readTrimmed cc degroup (cc.trim text) = .ok d := by
  by_cases blank : cc.trim text = []
  · rw [read_of_blank degroup blank] at h
    cases h
  · rw [read_of_ne_nil degroup blank] at h
    exact h

/-- Reading a text goes by the parentheses that enclose it. -/
lemma readTrimmed_eq (cc : Classifier) (degroup : Bool) (text : Text) :
    readTrimmed cc degroup text =
      match enclosed? text with
      | .error reason => .error reason
      | .ok none => readUngrouped cc text
      | .ok (some inner) =>
        if cc.trim inner = [] then .error .emptyOperand
        else if degroup then readTrimmed cc degroup (cc.trim inner)
        else .ok (.group (cc.trim inner)) := by
  rw [readTrimmed]
  split
  · next failed => simp only [failed]
  · next nothing => simp only [nothing]
  · next found => simp only [found, List.isEmpty_iff]

/-- A group is not examined any further if enclosing parentheses are kept. -/
lemma readTrimmed_of_enclosed {inside : Text} (balanced : Balanced inside) :
    readTrimmed cc false ('(' :: (inside ++ [')'])) =
      if cc.trim inside = [] then .error .emptyOperand else .ok (.group (cc.trim inside)) := by
  rw [readTrimmed_eq, enclosed?_eq_some_iff.mpr ⟨balanced, rfl⟩]
  rfl

/-- A balanced text without enclosing parentheses is read as one of the other forms. -/
lemma readTrimmed_of_balanced (cc : Classifier) (degroup : Bool) (balanced : Balanced text)
    (free : ¬ Enclosed text) : readTrimmed cc degroup text = readUngrouped cc text := by
  rw [readTrimmed_eq, enclosed?_eq_none balanced free]

/-- Operands may not be blank. -/
lemma operands_eq (texts : List Text) :
    operands cc texts =
      if ∃ text ∈ texts, cc.trim text = [] then .error .emptyOperand
      else .ok (texts.map cc.trim) := by
  unfold operands
  refine if_congr ?_ rfl rfl
  simp

/-- No text that gives an operand is blank. -/
lemma ne_nil_of_operands {texts results : List Text} (h : operands cc texts = .ok results) :
    ∀ text ∈ texts, cc.trim text ≠ [] := by
  intro text mem blank
  rw [operands_eq, if_pos ⟨text, mem, blank⟩] at h
  cases h

/-- Operands are trimmed texts, none of which is blank. -/
lemma exists_of_mem_operands {texts results : List Text} (h : operands cc texts = .ok results)
    {result : Text} (mem : result ∈ results) :
    ∃ text ∈ texts, cc.trim text ≠ [] ∧ result = cc.trim text := by
  rw [eq_map_trim_of_operands h] at mem
  obtain ⟨text, inTexts, rfl⟩ := List.mem_map.mp mem
  exact ⟨text, inTexts, ne_nil_of_operands h text inTexts, rfl⟩

/-- There are as many operands as texts. -/
lemma length_of_operands {texts results : List Text} (h : operands cc texts = .ok results) :
    results.length = texts.length := by
  rw [eq_map_trim_of_operands h, List.length_map]

/-- Arguments are operands that commas separate, unless there are none. -/
lemma exists_segments_of_readArgs {args : List Text} (h : readArgs cc text = .ok args) :
    args = [] ∨ ∃ pieces, Segments ',' text pieces ∧ operands cc pieces = .ok args := by
  unfold readArgs at h
  split at h
  · exact .inl (Except.ok.inj h).symm
  · obtain ⟨pieces, split, operands_ok⟩ := Fallible.bind_eq_ok_iff.mp h
    exact .inr ⟨pieces, (Scan.splitTop_eq_ok_iff_segments rfl).mp split, operands_ok⟩

/-- A separator that is somewhere outside of delimiters joins operands. -/
lemma readOperands_of_segments {separator : Char} (plain : Role.of separator = .plain)
    (h : Segments separator text segments) (several : 2 ≤ segments.length) :
    readOperands cc separator text = (operands cc segments).map some := by
  unfold readOperands
  rw [(Scan.splitTop_eq_ok_iff_segments plain).mpr h]
  exact if_neg (by omega)

/-- A separator that is nowhere outside of delimiters joins nothing. -/
lemma readOperands_eq_none {separator : Char} (plain : Role.of separator = .plain)
    (free : Outer (· ≠ separator) text) : readOperands cc separator text = .ok none := by
  unfold readOperands
  rw [(Scan.splitTop_eq_ok_iff_segments plain).mpr (.singleton free)]
  rfl

/-- What brackets after an element are read as: inside of them is nothing, or digits whose value
fits in a word of 64 bits. -/
def arrayOutcome (cc : Classifier) (element inside : Text) : Except Reason Descriptor :=
  if cc.trim inside = [] then .ok (.array (cc.trim element) none)
  else if Decimal.isNumeral (cc.trim inside) = true ∧
      Decimal.value (cc.trim inside) < UInt64.size then
    .ok (.array (cc.trim element) (some (cc.trim inside)))
  else .error .badSize

/-- The outcome for an array has the trimmed element, and a size, if any, that is a numeral and
fits. -/
lemma exists_of_arrayOutcome {element inside : Text} {d : Descriptor}
    (h : arrayOutcome cc element inside = .ok d) :
    ∃ size, d = .array (cc.trim element) size ∧ ∀ digits, size = some digits →
      Decimal.isNumeral digits = true ∧ Decimal.value digits < UInt64.size := by
  unfold arrayOutcome at h
  split at h
  · cases h
    exact ⟨none, rfl, fun _ sized => nomatch sized⟩
  · split at h
    · next fits =>
      cases h
      refine ⟨some (cc.trim inside), rfl, fun digits sized => ?_⟩
      rw [← Option.some.inj sized]
      exact fits
    · cases h

/-- A numeral is read exactly if it fits in a word. -/
lemma isSome_read?_iff {digits : Text} :
    (Decimal.read? digits).isSome = true ↔
      Decimal.isNumeral digits = true ∧ Decimal.value digits < UInt64.size := by
  unfold Decimal.read?
  split
  · next fits => simpa using fits
  · next fits => simpa using fits

/-- The last brackets after an element make an array. -/
lemma readArray_of_brackets {element inside : Text} (before : Balanced element)
    (within : Balanced inside) (ne : cc.trim element ≠ []) :
    readArray cc (element ++ '[' :: (inside ++ [']'])) =
      (arrayOutcome cc element inside).map some := by
  have cut := Scan.cutLastBrackets_eq_some_iff.mpr ⟨before, within, rfl⟩
  have unfolded : readArray cc (element ++ '[' :: (inside ++ [']'])) =
      if (cc.trim element).isEmpty then .ok none
      else if (cc.trim inside).isEmpty then .ok (some (.array (cc.trim element) none))
      else if (Decimal.read? (cc.trim inside)).isSome then
        .ok (some (.array (cc.trim element) (some (cc.trim inside))))
      else .error .badSize := by
    unfold readArray
    exact congrArg (· >>= _) cut
  rw [unfolded]
  simp only [arrayOutcome, List.isEmpty_iff, ne, if_false, isSome_read?_iff]
  split
  · rfl
  · split <;> rfl

/-- Without an element before the last brackets there is no array. -/
lemma readArray_eq_none (balanced : Balanced text) (free : ¬ Bracketed cc text) :
    readArray cc text = .ok none := by
  by_cases ends : text.getLast? = some Delimiter.bracket.closer
  · obtain ⟨items, nested⟩ := balanced
    obtain ⟨element, inside, before, within, rfl⟩ := Scan.exists_brackets nested ends
    have blank : cc.trim element = [] := by
      by_contra ne
      exact free ⟨element, inside, before, within, ne, rfl⟩
    have cut := Scan.cutLastBrackets_of_balanced before within
    unfold readArray
    refine (congrArg (· >>= _) cut).trans ?_
    exact if_pos (List.isEmpty_iff.mpr blank)
  · have cut := Scan.cutLastBrackets_eq_none ends
    unfold readArray
    exact congrArg (· >>= _) cut

/-- The alternatives of a text with `|` outside of delimiters. -/
lemma readUngrouped_of_union (allowed : Outer cc.Allowed text) (h : Segments '|' text segments)
    (several : 2 ≤ segments.length) :
    readUngrouped cc text = (operands cc segments).map .union := by
  unfold readUngrouped
  rw [checkTop_iff.mpr allowed, readOperands_of_segments rfl h several]
  cases operands cc segments <;> rfl

/-- The types of a text with `&` and without `|` outside of delimiters. -/
lemma readUngrouped_of_intersection (allowed : Outer cc.Allowed text)
    (no_bar : Outer (· ≠ '|') text) (h : Segments '&' text segments) (several : 2 ≤ segments.length) :
    readUngrouped cc text = (operands cc segments).map .intersection := by
  unfold readUngrouped
  rw [checkTop_iff.mpr allowed, readOperands_eq_none rfl no_bar,
    readOperands_of_segments rfl h several]
  cases operands cc segments <;> rfl

/-- A text without operators outside of delimiters is an array or a generic. -/
lemma readUngrouped_of_free (allowed : Outer cc.Allowed text) (no_bar : Outer (· ≠ '|') text)
    (no_amp : Outer (· ≠ '&') text) :
    readUngrouped cc text = (readArray cc text >>= fun found =>
      match found with
      | some found => .ok found
      | none => readGeneric cc text) := by
  unfold readUngrouped
  rw [checkTop_iff.mpr allowed, readOperands_eq_none rfl no_bar, readOperands_eq_none rfl no_amp]
  rfl

/-- The array of a text that ends with brackets after an element. -/
lemma readUngrouped_of_brackets {element inside : Text} (before : Balanced element)
    (within : Balanced inside) (ne : cc.trim element ≠ [])
    (allowed : Outer cc.Allowed (element ++ '[' :: (inside ++ [']'])))
    (no_bar : Outer (· ≠ '|') (element ++ '[' :: (inside ++ [']'])))
    (no_amp : Outer (· ≠ '&') (element ++ '[' :: (inside ++ [']']))) :
    readUngrouped cc (element ++ '[' :: (inside ++ [']'])) = arrayOutcome cc element inside := by
  rw [readUngrouped_of_free allowed no_bar no_amp, readArray_of_brackets before within ne]
  cases arrayOutcome cc element inside <;> rfl

/-- Every other text is a generic, or none of the forms. -/
lemma readUngrouped_of_generic (allowed : Outer cc.Allowed text) (no_bar : Outer (· ≠ '|') text)
    (no_amp : Outer (· ≠ '&') text) (no_brackets : ¬ Bracketed cc text) :
    readUngrouped cc text = readGeneric cc text := by
  rw [readUngrouped_of_free allowed no_bar no_amp, readArray_eq_none allowed.balanced no_brackets]
  rfl

/-- What can be read from a text that no parentheses enclose, in the order of precedence. -/
inductive Ungrouped (cc : Classifier) (text : Text) : Descriptor → Prop where
  | union {segments results : List Text} :
    Segments '|' text segments →
    2 ≤ segments.length →
    operands cc segments = .ok results →
    Ungrouped cc text (.union results)
  | intersection {segments results : List Text} :
    Outer (· ≠ '|') text →
    Segments '&' text segments →
    2 ≤ segments.length →
    operands cc segments = .ok results →
    Ungrouped cc text (.intersection results)
  | array {element inside : Text} {d : Descriptor} :
    Outer (· ≠ '|') text →
    Outer (· ≠ '&') text →
    Balanced element →
    Balanced inside →
    cc.trim element ≠ [] →
    text = element ++ '[' :: (inside ++ [']']) →
    arrayOutcome cc element inside = .ok d →
    Ungrouped cc text d
  | generic {d : Descriptor} :
    Outer (· ≠ '|') text →
    Outer (· ≠ '&') text →
    ¬ Bracketed cc text →
    readGeneric cc text = .ok d →
    Ungrouped cc text d

/-- A text that is read and that no parentheses enclose has no other outer characters than allowed
ones, and one of the rules applies to it. -/
lemma ungrouped_of_readUngrouped {d : Descriptor} (h : readUngrouped cc text = .ok d) :
    Outer cc.Allowed text ∧ Ungrouped cc text d := by
  obtain ⟨_, checked, _⟩ := Fallible.bind_eq_ok_iff.mp h
  have allowed := checkTop_iff.mp checked
  refine ⟨allowed, ?_⟩
  -- the forms are tried in this order, each once the ones before it are excluded
  obtain ⟨segments, bars⟩ : ∃ segments, Segments '|' text segments :=
    Scan.exists_segments rfl allowed.balanced
  by_cases several : 2 ≤ segments.length
  · rw [readUngrouped_of_union allowed bars several] at h
    obtain ⟨results, operands_ok, rfl⟩ := Fallible.map_eq_ok_iff.mp h
    exact .union bars several operands_ok
  · have no_bar := (Scan.length_segments_lt_two_iff rfl bars).mp (by omega)
    obtain ⟨segments, amps⟩ : ∃ segments, Segments '&' text segments :=
      Scan.exists_segments rfl allowed.balanced
    by_cases several : 2 ≤ segments.length
    · rw [readUngrouped_of_intersection allowed no_bar amps several] at h
      obtain ⟨results, operands_ok, rfl⟩ := Fallible.map_eq_ok_iff.mp h
      exact .intersection no_bar amps several operands_ok
    · have no_amp := (Scan.length_segments_lt_two_iff rfl amps).mp (by omega)
      by_cases brackets : Bracketed cc text
      · obtain ⟨element, inside, before, within, ne, rfl⟩ := brackets
        rw [readUngrouped_of_brackets before within ne allowed no_bar no_amp] at h
        exact .array no_bar no_amp before within ne rfl h
      · rw [readUngrouped_of_generic allowed no_bar no_amp brackets] at h
        exact .generic no_bar no_amp brackets h

/-- What a text is read as if enclosing parentheses are kept: a group, or one of the other forms. -/
lemma enclosed_or_ungrouped {d : Descriptor} (h : readTrimmed cc false text = .ok d) :
    (∃ inside, Balanced inside ∧ text = '(' :: (inside ++ [')']) ∧ cc.trim inside ≠ [] ∧
      d = .group (cc.trim inside)) ∨
    Outer cc.Allowed text ∧ Ungrouped cc text d := by
  rw [readTrimmed_eq] at h
  cases enclosing : enclosed? text with
  | error reason =>
    rw [enclosing] at h
    cases h
  | ok found =>
    rw [enclosing] at h
    cases found with
    | none => exact .inr (ungrouped_of_readUngrouped h)
    | some inside =>
      obtain ⟨balanced, eq⟩ := enclosed?_eq_some_iff.mp enclosing
      by_cases blank : cc.trim inside = []
      · simp [blank] at h
      · simp only [blank, if_false, Bool.false_eq_true, Except.ok.injEq] at h
        exact .inl ⟨inside, balanced, eq, blank, h.symm⟩

/-- None of the other forms is a group. -/
lemma Ungrouped.kind_ne_group {d : Descriptor} (h : Ungrouped cc text d) : d.kind ≠ .group := by
  cases h with
  | union _ _ _ => exact nofun
  | intersection _ _ _ _ => exact nofun
  | array _ _ _ _ _ _ outcome =>
    obtain ⟨size, rfl, _⟩ := exists_of_arrayOutcome outcome
    exact nofun
  | generic _ _ _ read =>
    obtain ⟨_, _, _, _, _, _, _, _, _, _, _, _, _, _, rfl⟩ := exists_of_readGeneric read
    exact nofun

end Descriptor
end TypeShape
