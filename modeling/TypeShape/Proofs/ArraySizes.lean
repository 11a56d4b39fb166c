import Mathlib.Data.Nat.Digits.Defs
import Mathlib.Tactic.Ring
import TypeShape.Proofs.ClosedForms

/-!
# Sizes of arrays

A size is checked when an array is read, and turned into a number only when the number is asked for.
The main statement, `arraySize_exact`, is that both agree with the number that the digits write in the
decimal system, however many zeros lead: digits in brackets are rejected from `2 ^ 64` on, and below
that they are kept as they are written and give their number. Brackets make an array of the same
elements whatever is in them, because a balanced text does not end with an opening bracket
(`Nested.getLast?_ne_opener`), so the brackets that are added to a text are the last ones.
-/

namespace TypeShape

namespace Decimal

/-- The numbers of the digits of a text, the least significant first. -/
def placeValues (digits : Text) : List Nat :=
  digits.reverse.map fun c => c.toNat - '0'.toNat

/-- The first digit has the highest place. -/
lemma placeValues_cons (c : Char) (digits : Text) :
    placeValues (c :: digits) = placeValues digits ++ [c.toNat - '0'.toNat] := by
  simp [placeValues]

/-- What is read so far is one more digit in front of the others, perhaps a large one. -/
lemma valueFrom_eq (high : Nat) (digits : Text) :
    valueFrom high digits = Nat.ofDigits 10 (placeValues digits ++ [high]) := by
  induction digits generalizing high with
  | nil => simp [valueFrom_nil, placeValues]
  | cons c digits ih =>
    rw [valueFrom_cons, ih, placeValues_cons]
    simp only [Nat.ofDigits_append, Nat.ofDigits_singleton, List.length_append, List.length_singleton]
    ring

/-- The value of a text of digits is the number that it writes in the decimal system. -/
lemma value_eq_ofDigits (digits : Text) : value digits = Nat.ofDigits 10 (placeValues digits) := by
  rw [value, valueFrom_eq, Nat.ofDigits_append, Nat.ofDigits_singleton, Nat.mul_zero, Nat.add_zero]

/-- A numeral is read as its value, if that fits in a word. -/
lemma read?_eq_some {digits : Text} (fits : Fits digits) : read? digits = some (value digits) := by
  unfold read?
  exact if_pos (by simpa [Fits] using fits)

end Decimal

/-- The last character is the last one of the rest, unless nothing follows. -/
lemma Text.getLast?_ne_of_cons {c d : Char} {rest : Text} (front : Text) (ne : c ≠ d)
    (h : rest.getLast? ≠ some d) : (front ++ c :: rest).getLast? ≠ some d := by
  cases rest with
  | nil => simpa using ne
  | cons other rest => simpa using h

/-- A balanced text does not end with an opening delimiter. -/
lemma Nested.getLast?_ne_opener {text : Text} {items : List Item} (h : Nested text items)
    (d : Delimiter) : text.getLast? ≠ some d.opener := by
  induction h with
  | nil => simp
  | plain role _ ih => exact Text.getLast?_ne_of_cons [] (d.opener_ne_of_plain role).symm ih
  | quoted _ _ ih => exact Text.getLast?_ne_of_cons (_ :: _) (by cases d <;> decide) ih
  | @pair e _ _ _ _ _ _ _ ih =>
    have ne : e.closer ≠ d.opener := by cases d <;> cases e <;> decide
    exact Text.getLast?_ne_of_cons (_ :: _) ne ih

/-- Empty brackets at the end of a balanced text have a balanced text before them. -/
lemma Balanced.of_empty_brackets {text : Text} (h : Balanced (text ++ ['[', ']'])) :
    Balanced text := by
  obtain ⟨items, nested⟩ := h
  obtain ⟨element, inside, before, ⟨within, insideNested⟩, eq⟩ :=
    Scan.exists_brackets nested (by simp [Delimiter.closer])
  have eq' : text ++ ['['] = element ++ '[' :: inside := by
    apply (List.append_left_inj [']']).mp
    simpa [Delimiter.opener, Delimiter.closer] using eq
  have text_eq : text = element := by
    rcases List.eq_nil_or_concat' inside with rfl | ⟨front, c, rfl⟩
    · exact List.append_cancel_right eq'
    · -- what is inside would end with the bracket that was added
      have last := congrArg List.getLast? eq'
      rw [List.getLast?_concat, ← List.cons_append, ← List.append_assoc, List.getLast?_concat] at last
      have other := insideNested.getLast?_ne_opener .bracket
      rw [List.getLast?_concat] at other
      exact absurd last.symm other
  exact text_eq ▸ before

namespace Descriptor

variable {cc : Classifier} {degroup : Bool} {text element digits inside : Text} {d : Descriptor}

/-- What an array is read from has brackets after something that is not blank, and no operators outside
of delimiters. -/
lemma exists_of_read_array (h : read cc false text = .ok d) (array : d.kind = .array) :
    Outer (· ≠ '|') (cc.trim text) ∧ Outer (· ≠ '&') (cc.trim text) ∧ d.name ≠ [] ∧
      ∃ size, d = .array d.name size ∧ ∀ digits, size = some digits → Decimal.Fits digits := by
  rcases enclosed_or_ungrouped (readTrimmed_of_read h) with ⟨_, _, _, _, rfl⟩ | ⟨_, ungrouped⟩
  · cases array
  · cases ungrouped with
    | union _ _ _ => cases array
    | intersection _ _ _ _ => cases array
    | array no_bar no_amp _ _ ne _ outcome =>
      obtain ⟨size, rfl, fits⟩ := exists_of_arrayOutcome outcome
      exact ⟨no_bar, no_amp, ne, size, rfl, fits⟩
    | generic _ _ _ generic =>
      obtain ⟨_, _, _, _, _, _, _, _, _, _, _, _, _, _, rfl⟩ := exists_of_readGeneric generic
      cases array

/-- An element that empty brackets make an array of is the element of every array. -/
lemma read_brackets (own : cc.OwnSymbols) (degroup : Bool)
    (unsized : parse cc false (element ++ ['[', ']']) = .ok d) (array : d.kind = .array)
    (named : d.name = cc.trim element) (balanced : Balanced inside) :
    read cc degroup (element ++ '[' :: (inside ++ [']'])) = arrayOutcome cc element inside := by
  obtain ⟨no_bar, no_amp, ne, _⟩ := exists_of_read_array (parse_eq_ok_iff.mp unsized) array
  rw [named] at ne
  have allowed := allowed_of_parse own unsized
  have before := allowed.balanced.of_empty_brackets
  replace allowed := (allowed.of_append before).1
  have skipped := (own.outer_skip (balanced_iff_outer.mp before)).balanced
  have trim_eq : cc.trim (element ++ ['[', ']']) = cc.skip element ++ ['[', ']'] :=
    own.trim_pair .bracket ne []
  rw [trim_eq] at no_bar no_amp
  have pair_free {c : Char} (plain : Role.of c = .plain) := Delimiter.bracket.outer_ne plain balanced
  refine (read_of_pair own degroup .bracket (by decide) ne allowed balanced).trans ?_
  refine (readUngrouped_of_brackets skipped balanced ?_ ?_ ?_ ?_).trans ?_
  · rw [cc.trim_skip]
    exact ne
  · exact (own.outer_skip allowed).append (Delimiter.bracket.outer_allowed cc balanced)
  · exact (no_bar.of_append skipped).1.append (pair_free rfl)
  · exact (no_amp.of_append skipped).1.append (pair_free rfl)
  · unfold arrayOutcome
    rw [cc.trim_skip]

/-- Digits in brackets are a size if their value fits in a word, and else rejected. -/
lemma arrayOutcome_of_digits (own : cc.OwnSymbols) (element : Text) (ne : digits ≠ [])
    (all : ∀ c ∈ digits, c.isDigit = true) (padded : cc.Padded digits inside) :
    arrayOutcome cc element inside =
      if Decimal.value digits < 2 ^ 64 then .ok (.array (cc.trim element) (some digits))
      else .error .badSize := by
  have numeral := Decimal.isNumeral_of_digits ne all
  unfold arrayOutcome
  rw [own.trim_digits all padded, if_neg ne]
  simp only [numeral, true_and]
  rfl

/-- A descriptor gives a number of elements exactly if it is an array that has a size. -/
lemma arraySize_eq_none_iff (h : parse cc degroup text = .ok d) :
    d.arraySize = none ↔ d.kind ≠ .array ∨ d.parameters.isEmpty = true := by
  by_cases array : d.kind = .array
  · obtain ⟨last, _, read_last⟩ := exists_read_of_read (parse_eq_ok_iff.mp h)
    obtain ⟨_, _, _, size, eq, fits⟩ := exists_of_read_array read_last array
    rw [eq]
    cases size with
    | none => simp [arraySize, parameters, Parameters.isEmpty, Parameters.empty]
    | some digits =>
      have some_size := Decimal.read?_eq_some (fits digits rfl)
      simp [arraySize, parameters, Parameters.isEmpty, Parameters.singleton, kind, some_size]
  · cases d with
    | array _ _ => exact absurd rfl array
    | _ => simp [arraySize, array]

/-- The number of elements is the number that the digits in brackets write, for all numbers that fit in
a word, and digits that write a larger one are rejected. The text before the brackets is any of which
empty brackets make an array with that element. Whatever the classifier and the text, an array with a
size also gives its number. -/
theorem arraySize_exact :
    (∀ (cc : Classifier) (element : Text) (unsized : Descriptor) (digits inside : Text),
      cc.OwnSymbols →
      parse cc false (element ++ ['[', ']']) = .ok unsized →
      unsized.kind = .array →
      unsized.name = cc.trim element →
      digits ≠ [] →
      (∀ c ∈ digits, c.isDigit = true) →
      cc.Padded digits inside →
      ∀ degroup whole, whole = element ++ '[' :: (inside ++ [']']) →
        (parse cc degroup whole = .error ⟨whole, .badSize⟩ ↔
          2 ^ 64 ≤ Nat.ofDigits 10 (Decimal.placeValues digits)) ∧
        (Nat.ofDigits 10 (Decimal.placeValues digits) < 2 ^ 64 →
          ∃ d, parse cc degroup whole = .ok d ∧ d.kind = .array ∧ d.names = [cc.trim element] ∧
            d.parameters = .singleton (.positional digits) ∧
            d.arraySize = some (Nat.ofDigits 10 (Decimal.placeValues digits)))) ∧
    ∀ (cc : Classifier) (degroup : Bool) (text : Text) (d : Descriptor),
      parse cc degroup text = .ok d →
      (d.arraySize = none ↔ d.kind ≠ .array ∨ d.parameters.isEmpty = true) := by
  refine ⟨?_, fun cc degroup text d => arraySize_eq_none_iff⟩
  rintro cc element unsized digits inside own parsed array named ne all padded degroup whole rfl
  have balanced := own.balanced_digits all padded
  have outcome := (read_brackets own degroup parsed array named balanced).trans
    (arrayOutcome_of_digits own element ne all padded)
  -- the outcome is told by whether the value fits, so it tells that in turn
  rw [← Decimal.value_eq_ofDigits]
  by_cases fits : Decimal.value digits < 2 ^ 64
  · rw [if_pos fits] at outcome
    have sized := parse_eq_ok_iff.mpr outcome
    have number := Decimal.read?_eq_some ⟨Decimal.isNumeral_of_digits ne all, fits⟩
    refine ⟨⟨fun rejected => ?_, fun large => ?_⟩, fun _ => ⟨_, sized, rfl, rfl, rfl, number⟩⟩
    · rw [sized] at rejected
      cases rejected
    · omega
  · rw [if_neg fits] at outcome
    refine ⟨⟨fun _ => by omega, fun _ => ?_⟩, fun small => absurd small fits⟩
    exact parse_eq_error_iff.mpr ⟨rfl, outcome⟩

/-- The element has brackets of its own, and the zeros in front make both sizes longer than
the limit is. -/
theorem arraySize_exact_zeros :
    let element := " a[2] ".toList
    let unsized : Descriptor := .array "a[2]".toList none
    Classifier.standard.OwnSymbols ∧
      parse .standard false (element ++ ['[', ']']) = .ok unsized ∧ unsized.arraySize = none ∧
      (∃ d, parse .standard true " a[2] [ 000000000000000000007\n]".toList = .ok d ∧
        d.names = ["a[2]".toList] ∧ d.arraySize = some 7) ∧
      parse .standard false " a[2] [0018446744073709551616]".toList =
        .error ⟨" a[2] [0018446744073709551616]".toList, .badSize⟩ := by
  intro element unsized
  have own := Classifier.standard_ownSymbols
  have parsed : parse .standard false (element ++ ['[', ']']) = .ok unsized := by decide +kernel
  have sized := arraySize_exact.1 .standard element unsized
  refine ⟨own, parsed, (arraySize_exact.2 _ _ _ _ parsed).mpr (.inr rfl), ?_, ?_⟩
  · have padded : Classifier.standard.Padded "000000000000000000007".toList
        " 000000000000000000007\n".toList :=
      ⟨[' '], ['\n'], Text.forall_of_all (by decide), Text.forall_of_all (by decide), rfl⟩
    have value : Nat.ofDigits 10 (Decimal.placeValues "000000000000000000007".toList) = 7 := by
      rw [← Decimal.value_eq_ofDigits]
      decide
    obtain ⟨_, small⟩ := sized _ _ own parsed rfl rfl (by decide) (Text.forall_of_all (by decide))
      padded true _ rfl
    rw [value] at small
    obtain ⟨d, parsed_sized, _, names, _, size⟩ := small (by decide)
    exact ⟨d, parsed_sized, names, size⟩
  · have value : 2 ^ 64 ≤ Nat.ofDigits 10 (Decimal.placeValues "0018446744073709551616".toList) := by
      rw [← Decimal.value_eq_ofDigits]
      decide
    obtain ⟨large, _⟩ := sized "0018446744073709551616".toList _ own parsed rfl rfl (by decide)
      (Text.forall_of_all (by decide)) (Classifier.padded_self _ _) false _ rfl
    exact large.mpr value

end Descriptor
end TypeShape
