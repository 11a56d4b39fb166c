import TypeShape.Proofs.Cuts

/-!
# Where a text is cut

The cuts of `Scan` are at the places that the grammar of balanced texts gives, and at no others. A
split at a separator is the only way to write a balanced text as balanced texts without the
separator at the top level (`splitTop_factorises`). The partner of an opening delimiter is the
closing one with a balanced text between them, whatever comes after it (`partnerOf_finds_partner`).
The last square bracket that opens at the top level of a balanced text is the partner of the one
that ends it (`lastOpening_iff_endsInPair`). Positions count characters.
-/

namespace TypeShape

namespace Text

variable {text : Text} {i j : Nat} {c d : Char}

/-- The text after one position and before another. -/
def between (text : Text) (i j : Nat) : Text :=
  (text.take j).drop (i + 1)

section Middle

variable (before inside after : Text) (c d : Char)

/-- What stands between two characters of a text is cut out at their places. -/
lemma between_append :
    between (before ++ c :: (inside ++ d :: after)) before.length
      (before.length + inside.length + 1) = inside := by
  have length_eq : (before ++ [c] ++ inside).length = before.length + inside.length + 1 := by
    simp [Nat.add_assoc]
  rw [between, List.append_cons, ← List.append_assoc, List.take_left' length_eq]
  exact List.drop_left' (by simp)

/-- The second of them stands at its place. -/
lemma getElem?_append_middle :
    (before ++ c :: (inside ++ d :: after))[before.length + inside.length + 1]? = some d := by
  simp [Nat.add_assoc]

end Middle

/-- A text is cut in two at each of its characters. -/
lemma exists_eq_append_of_getElem? (at_i : text[i]? = some c) :
    ∃ before after, text = before ++ c :: after ∧ before.length = i := by
  obtain ⟨lt, rfl⟩ := List.getElem?_eq_some_iff.mp at_i
  refine ⟨text.take i, text.drop (i + 1), ?_, List.length_take_of_le (Nat.le_of_lt lt)⟩
  rw [← List.drop_eq_getElem_cons lt, List.take_append_drop]

/-- What stands between two characters follows the first up to the second. -/
lemma exists_eq_between_append {before rest : Text} (lt : before.length < j)
    (at_j : (before ++ c :: rest)[j]? = some d) :
    ∃ after, rest = between (before ++ c :: rest) before.length j ++ d :: after ∧
      j = before.length + (between (before ++ c :: rest) before.length j).length + 1 := by
  obtain ⟨k, rfl⟩ := Nat.exists_eq_add_of_lt lt
  have at_k : rest[k]? = some d := by
    rw [List.getElem?_append_right (by omega)] at at_j
    have index_eq : before.length + k + 1 - before.length = k + 1 := by omega
    rwa [index_eq, List.getElem?_cons_succ] at at_j
  obtain ⟨inside, after, rfl, rfl⟩ := exists_eq_append_of_getElem? at_k
  rw [between_append]
  exact ⟨after, rfl, rfl⟩

end Text

namespace Scan

/-- The position of the partner of the opening delimiter at a position. -/
def partnerOf (text : Text) (opening : Nat) : Except Reason Nat :=
  (cutPair (text.drop opening)).map fun (inside, _) => opening + inside.length + 1

/-- The position of the square bracket that opens the pair at the end of a text. -/
def lastOpening (text : Text) : Except Reason (Option Nat) :=
  (cutLastBrackets text).map fun cut => cut.map fun (element, _) => element.length

/-- A closing delimiter after an opening one of its pair, with a balanced text between them. -/
structure Partner (text : Text) (d : Delimiter) (opening closing : Nat) : Prop where
  lt : opening < closing
  inside : Balanced (Text.between text opening closing)
  closer : text[closing]? = some d.closer

/-- A square bracket at the top level of a text that opens the pair at its end. -/
structure EndsInPair (text : Text) (opening : Nat) : Prop where
  top : ∃ before after,
    (of text).items = before ++ ⟨Delimiter.bracket.opener, [], 0⟩ :: after ∧
      (Item.textOf before).length = opening
  partner : partnerOf text opening = .ok (text.length - 1)
  element : Balanced (text.take opening)
  inside : Balanced (Text.between text opening (text.length - 1))

section Split

variable {separator : Char} {text : Text}

/-- A balanced text is split at a plain separator into texts that are balanced and have no separator
at the top level, and no other such list of texts, put together with the separator, is the text.
None of them is split any further. -/
theorem splitTop_factorises (plain : Role.of separator = .plain)
    (scanned : (of text).fault = none) :
    ∃ segments, splitTop separator text = .ok segments ∧
      Segments separator text segments ∧
      (∀ others, Segments separator text others → others = segments) ∧
      ∀ segment ∈ segments, splitTop separator segment = .ok [segment] := by
  obtain ⟨segments, factors⟩ := exists_segments plain (fault_eq_none_iff.mp scanned)
  refine ⟨segments, (splitTop_eq_ok_iff_segments plain).mpr factors, factors, ?_, ?_⟩
  · intro others factors'
    exact segments_unique plain factors' factors
  · intro segment mem
    have single := Segments.singleton (factors.free segment mem)
    exact (splitTop_eq_ok_iff_segments plain).mpr single

/-- A separator inside of a pair or a quoted value does not split, and one at the end of the text
does. -/
theorem splitTop_factorises_quoted :
    Role.of '|' = .plain ∧ (of "x(\"|\")|a<b|c>|".toList).fault = none ∧
      ∃ segments, splitTop '|' "x(\"|\")|a<b|c>|".toList = .ok segments ∧
        Segments '|' "x(\"|\")|a<b|c>|".toList segments ∧
        (∀ others, Segments '|' "x(\"|\")|a<b|c>|".toList others → others = segments) ∧
        ∀ segment ∈ segments, splitTop '|' segment = .ok [segment] := by
  have scanned : (of "x(\"|\")|a<b|c>|".toList).fault = none := by decide +kernel
  exact ⟨rfl, scanned, splitTop_factorises rfl scanned⟩

end Split

section Pair

variable {text before rest : Text} {d : Delimiter} {opening closing : Nat}

/-- The partner of an opening delimiter is found after a balanced text. -/
lemma partnerOf_eq_ok_iff :
    partnerOf (before ++ d.opener :: rest) before.length = .ok closing ↔
      ∃ inside after, Balanced inside ∧ rest = inside ++ d.closer :: after ∧
        closing = before.length + inside.length + 1 := by
  rw [partnerOf, List.drop_left, Fallible.map_eq_ok_iff]
  constructor
  · rintro ⟨⟨inside, after⟩, cut, rfl⟩
    obtain ⟨balanced, eq⟩ := cutPair_eq_ok_iff.mp cut
    exact ⟨inside, after, balanced, eq, rfl⟩
  · rintro ⟨inside, after, balanced, eq, rfl⟩
    exact ⟨(inside, after), cutPair_eq_ok_iff.mpr ⟨balanced, eq⟩, rfl⟩

/-- The same of the partner as the grammar of balanced texts has it. -/
lemma partner_iff :
    Partner (before ++ d.opener :: rest) d before.length closing ↔
      ∃ inside after, Balanced inside ∧ rest = inside ++ d.closer :: after ∧
        closing = before.length + inside.length + 1 := by
  constructor
  · rintro ⟨lt, balanced, closer⟩
    obtain ⟨after, rest_eq, closing_eq⟩ := Text.exists_eq_between_append lt closer
    exact ⟨_, after, balanced, rest_eq, closing_eq⟩
  · rintro ⟨inside, after, balanced, rfl, rfl⟩
    refine ⟨by omega, ?_, Text.getElem?_append_middle ..⟩
    rwa [Text.between_append]

/-- Without a partner, the cut fails for the fault of the scan. -/
lemma cutPair_of_not_cut {reason : Reason}
    (no_cut : cutAt Item.isTopCloser (of text).items.tail = none)
    (fault : (of text).fault = some reason) : cutPair text = .error reason := by
  unfold cutPair
  rw [no_cut, fault]
  rfl

/-- Where the items of a scan run out before the partner of its first delimiter, it is at fault. -/
lemma fault_ne_none_of_not_cut
    (no_cut : cutAt Item.isTopCloser (of (d.opener :: rest)).items.tail = none) :
    (of (d.opener :: rest)).fault ≠ none := by
  obtain ⟨inside, after, balanced, rfl⟩ | ⟨_, faulty⟩ := closed_or_fault d rest
  · have cut := cutPair_of_balanced (d := d) after balanced
    unfold cutPair at cut
    rw [no_cut] at cut
    cases cut
  · exact faulty

/-- The search for the partner of an opening delimiter finds the closing delimiter of its pair that
stands after it with a balanced text between them, and there is no more than one. If there is none,
the search fails for the reason that the scan from the opening delimiter on is at fault for: there
always is such a reason when the items of the scan have run out. -/
theorem partnerOf_finds_partner (opens : text[opening]? = some d.opener) :
    (∀ closing, partnerOf text opening = .ok closing ↔ Partner text d opening closing) ∧
    (∀ closing closing', Partner text d opening closing → Partner text d opening closing' →
      closing = closing') ∧
    ((∀ closing, ¬ Partner text d opening closing) →
      ∃ reason, (of (text.drop opening)).fault = some reason ∧
        partnerOf text opening = .error reason) ∧
    (cutAt Item.isTopCloser (of (text.drop opening)).items.tail = none →
      (of (text.drop opening)).fault ≠ none) := by
  obtain ⟨before, rest, rfl, rfl⟩ := Text.exists_eq_append_of_getElem? opens
  have found_iff : ∀ closing,
      partnerOf (before ++ d.opener :: rest) before.length = .ok closing ↔
        Partner (before ++ d.opener :: rest) d before.length closing := by
    intro closing
    rw [partnerOf_eq_ok_iff, partner_iff]
  refine ⟨found_iff, ?_, ?_, ?_⟩
  · intro closing closing' partner partner'
    -- the search finds one place at most
    have found := (found_iff closing).mpr partner
    rw [(found_iff closing').mpr partner'] at found
    exact (Except.ok.inj found).symm
  · intro alone
    obtain ⟨inside, after, balanced, eq⟩ | ⟨no_cut, faulty⟩ := closed_or_fault d rest
    · exact absurd (partner_iff.mpr ⟨inside, after, balanced, eq, rfl⟩) (alone _)
    -- where no delimiter closes the pair, the scan from its opening is at fault
    · obtain ⟨reason, fault⟩ := Option.ne_none_iff_exists'.mp faulty
      refine ⟨reason, by rw [List.drop_left, fault], ?_⟩
      rw [partnerOf, List.drop_left, cutPair_of_not_cut no_cut fault]
      rfl
  · intro no_cut
    rw [List.drop_left] at no_cut ⊢
    exact fault_ne_none_of_not_cut no_cut

/-- The partner of an angle bracket stands after the closing one of the pair inside and before a
delimiter that has no partner, and a parenthesis does not close a square bracket. -/
theorem partnerOf_finds_partner_inside :
    "f<a<b>,c>)".toList[1]? = some Delimiter.angle.opener ∧
      Partner "f<a<b>,c>)".toList .angle 1 8 ∧
      partnerOf "f<a<b>,c>)".toList 1 = .ok 8 ∧
      "f[a)".toList[1]? = some Delimiter.bracket.opener ∧
      (∀ closing, ¬ Partner "f[a)".toList .bracket 1 closing) ∧
      ∃ reason, (of ("f[a)".toList.drop 1)).fault = some reason ∧
        partnerOf "f[a)".toList 1 = .error reason := by
  have open_angle : "f<a<b>,c>)".toList[1]? = some Delimiter.angle.opener := rfl
  have open_bracket : "f[a)".toList[1]? = some Delimiter.bracket.opener := rfl
  have inside : Balanced (Text.between "f<a<b>,c>)".toList 1 8) :=
    fault_eq_none_iff.mp (by decide +kernel)
  have partner : Partner "f<a<b>,c>)".toList .angle 1 8 := ⟨by decide, inside, rfl⟩
  have no_cut : cutAt Item.isTopCloser (of "[a)".toList).items.tail = none := by decide +kernel
  have fault : (of "[a)".toList).fault = some .unbalanced := by decide +kernel
  have rejected : partnerOf "f[a)".toList 1 = .error .unbalanced :=
    Fallible.map_eq_error_iff.mpr (cutPair_of_not_cut no_cut fault)
  obtain ⟨angle_iff, _⟩ := partnerOf_finds_partner open_angle
  obtain ⟨bracket_iff, _, failed, _⟩ := partnerOf_finds_partner open_bracket
  have alone : ∀ closing, ¬ Partner "f[a)".toList .bracket 1 closing := by
    intro closing partner
    rw [(bracket_iff closing).mpr partner] at rejected
    cases rejected
  exact ⟨open_angle, partner, (angle_iff 8).mpr partner, open_bracket, alone, failed alone⟩

end Pair

section Last

variable {text element inside : Text} {opening : Nat}

/-- The brackets that end a text open after the text before them. -/
lemma lastOpening_eq_some_iff :
    lastOpening text = .ok (some opening) ↔
      ∃ element inside, Balanced element ∧ Balanced inside ∧
        text = element ++ Delimiter.bracket.opener :: (inside ++ [Delimiter.bracket.closer]) ∧
        element.length = opening := by
  rw [lastOpening, Fallible.map_eq_ok_iff]
  constructor
  · rintro ⟨cut, found, cut_eq⟩
    obtain ⟨⟨element, inside⟩, rfl, rfl⟩ := Option.map_eq_some_iff.mp cut_eq
    obtain ⟨before, within, eq⟩ := cutLastBrackets_eq_some_iff.mp found
    exact ⟨element, inside, before, within, eq, rfl⟩
  · rintro ⟨element, inside, before, within, eq, rfl⟩
    exact ⟨some (element, inside), cutLastBrackets_eq_some_iff.mpr ⟨before, within, eq⟩, rfl⟩

/-- Brackets after a balanced text are the pair at the end. -/
lemma endsInPair_append (before : Balanced element) (within : Balanced inside) :
    EndsInPair
      (element ++ Delimiter.bracket.opener :: (inside ++ [Delimiter.bracket.closer]))
      element.length := by
  have last_eq : (element ++ Delimiter.bracket.opener ::
      (inside ++ [Delimiter.bracket.closer])).length - 1 = element.length + inside.length + 1 := by
    simp [Nat.add_assoc]
  obtain ⟨items, nested⟩ := before
  obtain ⟨items', nested'⟩ := within
  have whole := nested.append (.pair (d := .bracket) nested' .nil)
  refine ⟨⟨items, _, by rw [whole.scan_eq], by rw [nested.textOf_eq]⟩, ?_, ?_, ?_⟩
  · rw [last_eq]
    exact partnerOf_eq_ok_iff.mpr ⟨inside, [], ⟨_, nested'⟩, rfl, rfl⟩
  · rw [List.take_left]
    exact ⟨_, nested⟩
  · rw [last_eq, Text.between_append]
    exact ⟨_, nested'⟩

/-- The pair at the end of a text has nothing after it. -/
lemma EndsInPair.exists_eq_append (scanned : (of text).fault = none)
    (pair : EndsInPair text opening) :
    ∃ element inside, Balanced element ∧ Balanced inside ∧
      text = element ++ Delimiter.bracket.opener :: (inside ++ [Delimiter.bracket.closer]) ∧
      element.length = opening := by
  obtain ⟨⟨before, after, items_eq, rfl⟩, partner, element, _⟩ := pair
  obtain ⟨items, nested⟩ := fault_eq_none_iff.mp scanned
  have scan_items : (of text).items = items := congrArg Scan.items nested.scan_eq
  have text_eq : Item.textOf before ++ Delimiter.bracket.opener :: Item.textOf after = text := by
    have eq := nested.textOf_eq
    rw [← scan_items, items_eq] at eq
    simpa [Item.text] using eq
  subst text_eq
  obtain ⟨inside, rest, balanced, after_eq, last_eq⟩ := partnerOf_eq_ok_iff.mp partner
  rw [List.take_left] at element
  refine ⟨_, inside, element, balanced, ?_, rfl⟩
  rw [after_eq] at last_eq ⊢
  have ended : rest = [] := by
    apply List.eq_nil_of_length_eq_zero
    simp only [List.length_append, List.length_cons] at last_eq
    omega
  rw [ended]

/-- In a balanced text that ends with a closing square bracket, and in no other, the search from the
beginning for the last square bracket that opens at the top level finds one: it is the one from
which the search for a partner finds the end of the text, and the texts before it and inside of the
pair are balanced. -/
theorem lastOpening_iff_endsInPair (scanned : (of text).fault = none) :
    ((∃ opening, lastOpening text = .ok (some opening)) ↔
      text.getLast? = some Delimiter.bracket.closer) ∧
    (∀ opening, lastOpening text = .ok (some opening) ↔ EndsInPair text opening) ∧
    (text.getLast? ≠ some Delimiter.bracket.closer → lastOpening text = .ok none) := by
  have not_found : text.getLast? ≠ some Delimiter.bracket.closer →
      lastOpening text = .ok none := by
    intro ends
    rw [lastOpening, cutLastBrackets_eq_none ends]
    rfl
  refine ⟨⟨?_, ?_⟩, ?_, not_found⟩
  · rintro ⟨opening, found⟩
    by_contra ends
    rw [not_found ends] at found
    cases found
  · intro ends
    obtain ⟨items, nested⟩ := fault_eq_none_iff.mp scanned
    obtain ⟨element, inside, before, within, eq⟩ := exists_brackets nested ends
    exact ⟨_, lastOpening_eq_some_iff.mpr ⟨element, inside, before, within, eq, rfl⟩⟩
  · intro opening
    rw [lastOpening_eq_some_iff]
    constructor
    · rintro ⟨element, inside, before, within, rfl, rfl⟩
      exact endsInPair_append before within
    · intro pair
      exact pair.exists_eq_append scanned

/-- The last pair is found after another pair and around a quoted bracket, and a text that ends with
another pair has none. -/
theorem lastOpening_iff_endsInPair_quoted :
    (of "int[1][\"]\"]".toList).fault = none ∧
      EndsInPair "int[1][\"]\"]".toList 6 ∧
      lastOpening "int[1][\"]\"]".toList = .ok (some 6) ∧
      (of "a<b[1]>".toList).fault = none ∧
      lastOpening "a<b[1]>".toList = .ok none := by
  have scanned : (of "int[1][\"]\"]".toList).fault = none := by decide +kernel
  have before : Balanced "int[1]".toList := fault_eq_none_iff.mp (by decide +kernel)
  have within : Balanced "\"]\"".toList := fault_eq_none_iff.mp (by decide +kernel)
  have pair : EndsInPair "int[1][\"]\"]".toList 6 := endsInPair_append before within
  have scanned' : (of "a<b[1]>".toList).fault = none := by decide +kernel
  obtain ⟨_, pair_iff, _⟩ := lastOpening_iff_endsInPair scanned
  obtain ⟨_, _, not_found⟩ := lastOpening_iff_endsInPair scanned'
  exact ⟨scanned, pair, (pair_iff 6).mpr pair, scanned', not_found (by decide)⟩

end Last

end Scan
end TypeShape
