import TypeShape.Proofs.DelimiterFree

/-!
# Segments of texts put together

When texts are put after each other, the last segment of one and the first of the next become a single
segment (`Segments.glue`), and the others stay. Whitespace around a text belongs to its outer segments
and is trimmed off with them (`Segments.padded`), so the operands of a text are those of the trimmed
text (`Segments.trim`).
-/

namespace TypeShape

namespace Text

variable {blank : Char → Bool} {text front back : Text}

/-- Whitespace after whitespace is whitespace. -/
lemma Blank.append (h : Blank blank front) (h' : Blank blank back) : Blank blank (front ++ back) := by
  intro c mem
  rcases List.mem_append.mp mem with mem | mem
  · exact h c mem
  · exact h' c mem

/-- Blank characters around a text are trimmed off with its own. -/
lemma trim_padded (front_blank : Blank blank front) (back_blank : Blank blank back) :
    trim blank (front ++ text ++ back) = trim blank text := by
  obtain ⟨first, last, eq, first_blank, last_blank⟩ := exists_eq_append_trim blank text
  have whole : front ++ text ++ back = (front ++ first) ++ trim blank text ++ (last ++ back) := by
    conv_lhs => rw [eq]
    simp
  rw [whole]
  exact trim_append (trimmed_trim blank text) (front_blank.append first_blank)
    (last_blank.append back_blank)

/-- Whitespace before a text is trimmed off. -/
lemma trim_append_left (front_blank : Blank blank front) :
    trim blank (front ++ text) = trim blank text := by
  have padded : trim blank (front ++ text ++ []) = trim blank text :=
    trim_padded front_blank blank_nil
  simpa using padded

/-- Whitespace after a text is trimmed off. -/
lemma trim_append_right (back_blank : Blank blank back) :
    trim blank (text ++ back) = trim blank text :=
  trim_padded blank_nil back_blank

/-- A text before one that ends with a character that stays is trimmed at its beginning only. -/
lemma trim_concat {c : Char} (ne : trim blank text ≠ []) (middle : Text) (stays : blank c = false) :
    trim blank (text ++ (middle ++ [c])) = text.dropWhile blank ++ (middle ++ [c]) := by
  have some_left : (text.dropWhile blank).isEmpty = false := by
    rw [List.isEmpty_eq_false_iff]
    intro nothing
    rw [trim, nothing] at ne
    exact ne rfl
  unfold trim
  rw [List.dropWhile_append, if_neg (by simp [some_left])]
  apply trimEnd_eq_self
  intro last final
  rw [← List.append_assoc, List.getLast?_concat] at final
  cases final
  exact stays

end Text

/-- A text with whitespace around it. -/
def Classifier.Padded (cc : Classifier) (text padded : Text) : Prop :=
  ∃ front back, Text.Blank (cc .whitespace) front ∧ Text.Blank (cc .whitespace) back ∧
    padded = front ++ text ++ back

/-- What a pair encloses does not show, so a plain character does not stand outside of it. -/
lemma Delimiter.outer_ne (d : Delimiter) {c : Char} {inside : Text} (plain : Role.of c = .plain)
    (balanced : Balanced inside) : Outer (· ≠ c) (d.opener :: (inside ++ [d.closer])) :=
  .pair balanced (d.opener_ne_of_plain plain) (d.closer_ne_of_plain plain)

/-- A pair of delimiters is allowed, whatever it encloses. -/
lemma Delimiter.outer_allowed (cc : Classifier) (d : Delimiter) {inside : Text}
    (balanced : Balanced inside) : Outer cc.Allowed (d.opener :: (inside ++ [d.closer])) := by
  have opener : cc.Allowed d.opener := .inl (by cases d <;> decide)
  have closer : cc.Allowed d.closer := .inl (by cases d <;> decide)
  exact .pair balanced opener closer

namespace Classifier

variable {cc : Classifier} {text padded : Text}

/-- A padded text is the same once it is trimmed. -/
lemma Padded.trim_eq (h : cc.Padded text padded) : cc.trim padded = cc.trim text := by
  obtain ⟨front, back, front_blank, back_blank, rfl⟩ := h
  exact Text.trim_padded front_blank back_blank

/-- A text is what trimming leaves of it, padded. -/
lemma padded_trim (cc : Classifier) (text : Text) : cc.Padded (cc.trim text) text := by
  obtain ⟨front, back, eq, front_blank, back_blank⟩ :=
    Text.exists_eq_append_trim (cc .whitespace) text
  exact ⟨front, back, front_blank, back_blank, eq⟩

/-- Trimming takes what skipping has left. -/
lemma trim_skip (cc : Classifier) (text : Text) : cc.trim (cc.skip text) = cc.trim text := by
  have front_blank := Text.blank_takeWhile (cc .whitespace) text
  conv_rhs => rw [← cc.takeWhile_append_skip text]
  exact (Text.trim_append_left front_blank).symm

/-- Whitespace is no delimiter, so it shows outside of them with all its characters. -/
lemma OwnSymbols.outer_of_blank (own : cc.OwnSymbols) {p : Char → Prop}
    (accepts : ∀ c, cc .whitespace c = true → p c) (blank : Text.Blank (cc .whitespace) text) :
    Outer p text :=
  .of_plain fun c mem => ⟨own.plain (blank c mem), accepts c (blank c mem)⟩

/-- No punctuation stands in a text whose characters are all of some class. -/
lemma OwnSymbols.free_of_classes (own : cc.OwnSymbols) {separator : Char}
    (punct : separator ∈ punctuation) (accepted : ∀ c ∈ text, ∃ cls, cc cls c = true) :
    Outer (· ≠ separator) text := by
  apply Outer.of_plain
  intro c mem
  obtain ⟨cls, accepts⟩ := accepted c mem
  refine ⟨own.plain accepts, ?_⟩
  rintro rfl
  exact own.not_punctuation accepts punct

/-- No punctuation stands in whitespace. -/
lemma OwnSymbols.free_of_blank (own : cc.OwnSymbols) {separator : Char}
    (punct : separator ∈ punctuation) (blank : Text.Blank (cc .whitespace) text) :
    Outer (· ≠ separator) text :=
  own.free_of_classes punct fun c mem => ⟨_, blank c mem⟩

/-- Whitespace is allowed outside of delimiters. -/
lemma OwnSymbols.allowed_of_blank (own : cc.OwnSymbols)
    (blank : Text.Blank (cc .whitespace) text) : Outer cc.Allowed text :=
  own.outer_of_blank (fun _ accepts => .inr ⟨_, accepts⟩) blank

/-- Trimming leaves no outer characters that were not there. -/
lemma OwnSymbols.outer_trim (own : cc.OwnSymbols) {p : Char → Prop} (h : Outer p text) :
    Outer p (cc.trim text) :=
  h.trim fun _ blank => own.plain blank

/-- A text before a pair of delimiters is trimmed at its beginning only. -/
lemma OwnSymbols.trim_pair (own : cc.OwnSymbols) (d : Delimiter) (ne : cc.trim text ≠ [])
    (inside : Text) :
    cc.trim (text ++ d.opener :: (inside ++ [d.closer])) =
      cc.skip text ++ d.opener :: (inside ++ [d.closer]) := by
  have stays : cc .whitespace d.closer = false := own.eq_false (by cases d <;> decide)
  exact Text.trim_concat ne (d.opener :: inside) stays

/-- Skipping leaves no outer characters that were not there. -/
lemma OwnSymbols.outer_skip (own : cc.OwnSymbols) {p : Char → Prop} (h : Outer p text) :
    Outer p (cc.skip text) :=
  (own.delimiterFree.peels_skip text).outer h

end Classifier

namespace Segments

variable {cc : Classifier} {separator : Char} {text text' last first : Text}
  {segments init rest segments' : List Text}

/-- There is a last segment. -/
lemma exists_concat (h : Segments separator text segments) :
    ∃ init last, segments = init ++ [last] :=
  ⟨segments.dropLast, segments.getLast h.ne_nil, (List.dropLast_append_getLast h.ne_nil).symm⟩

/-- A text without the separator is its only segment. -/
lemma eq_singleton (h : Segments separator text segments) (short : segments.length < 2) :
    segments = [text] := by
  match segments, h, short with
  | [], h, _ => exact absurd rfl h.ne_nil
  | [segment], h, _ =>
    have eq : segment = text := h.join_eq
    rw [eq]

/-- A text is not blank if none of its segments is. -/
lemma trim_ne_nil (own : cc.OwnSymbols) (plain : Role.of separator = .plain)
    (punct : separator ∈ Classifier.punctuation) (h : Segments separator text segments)
    (given : ∀ segment ∈ segments, cc.trim segment ≠ []) : cc.trim text ≠ [] := by
  intro blank
  -- blank text has no separator, so it would be the only segment
  have free := own.free_of_blank punct (Text.trim_eq_nil_iff.mp blank)
  have short := (Scan.length_segments_lt_two_iff plain h).mpr free
  rw [h.eq_singleton short] at given
  exact given text (by simp) blank

/-- Where two texts meet, two segments become one. -/
lemma glue (h : Segments separator text (init ++ [last]))
    (h' : Segments separator text' (first :: rest)) :
    Segments separator (text ++ text') (init ++ (last ++ first) :: rest) := by
  -- along the segments of the first text, whose last one is left to meet the other text
  induction init generalizing text with
  | nil =>
    have eq : last = text := h.join_eq
    subst eq
    exact h'.prepend (h.free last (by simp))
  | cons segment init ih =>
    have ne : init ++ [last] ≠ [] := by simp
    have more := cons (h.free segment (by simp)) (ih (h.tail ne))
    rw [← h.join_eq, List.cons_append, Text.join_cons _ _ ne]
    simpa using more

/-- A separator between two texts keeps their segments apart. -/
lemma concat (h : Segments separator text segments) (h' : Segments separator text' segments') :
    Segments separator (text ++ separator :: text') (segments ++ segments') := by
  obtain ⟨init, last, rfl⟩ := h.exists_concat
  have apart : Segments separator ([] ++ separator :: text') ([] :: segments') := .cons .nil h'
  have glued := h.glue apart
  simpa using glued

/-- Whitespace around a text is trimmed off with its segments. -/
lemma padded (own : cc.OwnSymbols) (punct : separator ∈ Classifier.punctuation)
    (h : Segments separator text segments) (padded : cc.Padded text text') :
    ∃ segments', Segments separator text' segments' ∧
      segments'.map cc.trim = segments.map cc.trim := by
  obtain ⟨front, back, front_blank, back_blank, rfl⟩ := padded
  obtain ⟨init, last, rfl⟩ := h.exists_concat
  have ends := h.glue (.singleton (own.free_of_blank punct back_blank))
  have whole := ends.prepend (own.free_of_blank punct front_blank)
  rw [← List.append_assoc] at whole
  have last_eq : cc.trim (last ++ back) = cc.trim last := Text.trim_append_right back_blank
  refine ⟨_, whole, ?_⟩
  cases init with
  | nil =>
    have first_eq : cc.trim (front ++ (last ++ back)) = cc.trim (last ++ back) :=
      Text.trim_append_left front_blank
    simp [first_eq, last_eq]
  | cons segment init =>
    have first_eq : cc.trim (front ++ segment) = cc.trim segment := Text.trim_append_left front_blank
    simp [first_eq, last_eq]

/-- The segments of a text and those of the trimmed text are the same when they are trimmed. -/
lemma trim (own : cc.OwnSymbols) (plain : Role.of separator = .plain)
    (punct : separator ∈ Classifier.punctuation) (h : Segments separator text segments)
    (balanced : Balanced (cc.trim text)) :
    ∃ segments', Segments separator (cc.trim text) segments' ∧
      segments'.map cc.trim = segments.map cc.trim := by
  obtain ⟨segments', trimmed⟩ := Scan.exists_segments plain balanced
  obtain ⟨others, whole, same⟩ := trimmed.padded own punct (cc.padded_trim text)
  cases Scan.segments_unique plain h whole
  exact ⟨segments', trimmed, same.symm⟩

end Segments

/-- Text in angle brackets is read as its segments between commas. -/
lemma Descriptor.readArgs_of_segments {cc : Classifier} {inside : Text} {segments : List Text}
    (own : cc.OwnSymbols) (h : Segments ',' inside segments)
    (given : ∀ segment ∈ segments, cc.trim segment ≠ []) :
    readArgs cc inside = .ok (segments.map cc.trim) := by
  have not_blank := h.trim_ne_nil own rfl (by decide) given
  have operands_ok : operands cc segments = .ok (segments.map cc.trim) := by
    rw [operands_eq, if_neg]
    rintro ⟨segment, mem, blank⟩
    exact given segment mem blank
  unfold readArgs
  rw [if_neg (by simpa using not_blank), (Scan.splitTop_eq_ok_iff_segments rfl).mpr h]
  exact operands_ok

end TypeShape
