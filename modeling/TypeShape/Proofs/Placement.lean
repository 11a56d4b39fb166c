import TypeShape.Proofs.Degrouping

/-!
# Where parts stand

The parts of a descriptor are pieces of its text, trimmed. `Placed` says this in one way for all forms:
the pieces are joined by separators, with something around them if there is only one. What follows
from that is independent of the form: a part is an excerpt of the text (`Placed.isInfix`), at least two
characters shorter (`Placed.length_add_two_le`), and all parts together are shorter than the text
(`Placed.length_flatten_lt`). Whatever is read has its parts placed in its text (`placed_of_read`).
-/

namespace TypeShape

/-- Texts that are pieces of a text, trimmed. -/
inductive Placed (cc : Classifier) (text : Text) : List Text → Prop where
  | nothing :
    text ≠ [] →
    Placed cc text []
  | pieces (separator : Char) {front back : Text} {pieces : List Text} :
    text = front ++ Text.join [separator] pieces ++ back →
    pieces ≠ [] →
    2 ≤ pieces.length ∨ 2 ≤ front.length + back.length →
    (∀ piece ∈ pieces, cc.trim piece ≠ []) →
    Placed cc text (pieces.map cc.trim)

namespace Text

variable {text : Text} {texts : List Text}

/-- What trimming leaves is an excerpt of the text. -/
lemma trim_infix (blank : Char → Bool) (text : Text) : trim blank text <:+: text := by
  obtain ⟨front, back, eq, _⟩ := exists_eq_append_trim blank text
  exact ⟨front, back, eq.symm⟩

/-- A joined text has its texts and one separator less. -/
lemma length_join (separator : Char) (ne : texts ≠ []) :
    (join [separator] texts).length + 1 = texts.flatten.length + texts.length := by
  induction texts with
  | nil => exact absurd rfl ne
  | cons first rest ih =>
    by_cases last : rest = []
    · subst last
      simp [join]
    · have others := ih last
      rw [join_cons _ _ last]
      simp only [List.length_append, List.length_cons, List.length_nil, List.flatten_cons]
      omega

/-- A text is an excerpt of what it is joined to. -/
lemma infix_of_mem_join (separator : Text) (mem : text ∈ texts) : text <:+: join separator texts := by
  induction texts with
  | nil => cases mem
  | cons first rest ih =>
    by_cases last : rest = []
    · subst last
      rw [List.mem_singleton.mp mem]
      exact List.infix_rfl
    · rw [join_cons _ _ last]
      rcases List.mem_cons.mp mem with rfl | mem
      · rw [List.append_assoc]
        exact (List.prefix_append _ _).isInfix
      · exact (ih mem).trans (List.suffix_append _ _).isInfix

/-- Texts that are not empty have at least as many characters as they are texts. -/
lemma length_le_length_flatten (ne : ∀ text ∈ texts, text ≠ []) :
    texts.length ≤ texts.flatten.length := by
  induction texts with
  | nil => exact Nat.le_refl 0
  | cons first rest ih =>
    have first_pos := List.length_pos_iff.mpr (ne first (by simp))
    have rest_le := ih fun text mem => ne text (by simp [mem])
    simp only [List.length_cons, List.flatten_cons, List.length_append]
    omega

/-- Where no text is empty, all texts are longer than one of them by the number of the others. -/
lemma length_add_length_le (ne : ∀ text ∈ texts, text ≠ []) (mem : text ∈ texts) :
    text.length + texts.length ≤ texts.flatten.length + 1 := by
  obtain ⟨before, after, rfl⟩ := List.append_of_mem mem
  have before_le : before.length ≤ before.flatten.length :=
    length_le_length_flatten fun other mem => ne other (by simp [mem])
  have after_le : after.length ≤ after.flatten.length :=
    length_le_length_flatten fun other mem => ne other (by simp [mem])
  simp only [List.length_append, List.length_cons, List.flatten_append, List.flatten_cons]
  omega

/-- Trimming makes texts no longer. -/
lemma length_flatten_map_trim_le (cc : Classifier) (texts : List Text) :
    (texts.map cc.trim).flatten.length ≤ texts.flatten.length := by
  induction texts with
  | nil => exact Nat.le_refl 0
  | cons first rest ih =>
    have first_le : (cc.trim first).length ≤ first.length := length_trim_le (cc .whitespace) first
    simp only [List.map_cons, List.flatten_cons, List.length_append]
    omega

end Text

namespace Placed

variable {cc : Classifier} {text whole part : Text} {parts : List Text}

/-- Parts of an excerpt are parts of the whole. -/
lemma widen (h : Placed cc text parts) (within : text <:+: whole) : Placed cc whole parts := by
  obtain ⟨before, after, rfl⟩ := within
  cases h with
  | nothing ne => exact .nothing (by simp [ne])
  | @pieces separator front back pieces eq some_piece enough not_blank =>
    have eq_whole : before ++ text ++ after =
        (before ++ front) ++ Text.join [separator] pieces ++ (back ++ after) := by simp [eq]
    refine .pieces separator eq_whole some_piece ?_ not_blank
    simp only [List.length_append]
    omega

/-- No part is empty. -/
lemma ne_nil (h : Placed cc text parts) : ∀ part ∈ parts, part ≠ [] := by
  cases h with
  | nothing _ => nofun
  | pieces _ _ _ _ not_blank =>
    intro part mem
    obtain ⟨piece, inPieces, rfl⟩ := List.mem_map.mp mem
    exact not_blank piece inPieces

/-- Parts are trimmed already. -/
lemma trim_eq (h : Placed cc text parts) : ∀ part ∈ parts, cc.trim part = part := by
  cases h with
  | nothing _ => nofun
  | pieces _ _ _ _ _ =>
    intro part mem
    obtain ⟨piece, _, rfl⟩ := List.mem_map.mp mem
    exact cc.trim_trim piece

/-- Each part is an excerpt of the text. -/
lemma isInfix (h : Placed cc text parts) : ∀ part ∈ parts, part <:+: text := by
  cases h with
  | nothing _ => nofun
  | @pieces separator front back pieces eq _ _ _ =>
    intro part mem
    obtain ⟨piece, inPieces, rfl⟩ := List.mem_map.mp mem
    have in_join := Text.infix_of_mem_join [separator] inPieces
    have in_text : Text.join [separator] pieces <:+: text := ⟨front, back, eq.symm⟩
    exact ((Text.trim_infix _ piece).trans in_join).trans in_text

/-- The separators between parts, or what is around them, is left over. -/
lemma length_flatten_lt (h : Placed cc text parts) : parts.flatten.length < text.length := by
  cases h with
  | nothing ne => exact List.length_pos_iff.mpr ne
  | @pieces separator front back pieces eq some_piece enough _ =>
    have joined := Text.length_join separator some_piece
    have trimmed := Text.length_flatten_map_trim_le cc pieces
    have pieces_pos := List.length_pos_iff.mpr some_piece
    rw [eq, List.length_append, List.length_append]
    omega

/-- A part leaves two characters over: those around it, or a separator and another part. -/
lemma length_add_two_le (h : Placed cc text parts) : ∀ part ∈ parts, part.length + 2 ≤ text.length := by
  have ne := h.ne_nil
  cases h with
  | nothing _ => nofun
  | @pieces separator front back pieces eq some_piece enough _ =>
    intro part mem
    have joined := Text.length_join separator some_piece
    have trimmed := Text.length_flatten_map_trim_le cc pieces
    have others := Text.length_add_length_le ne mem
    have pieces_pos := List.length_pos_iff.mpr some_piece
    rw [List.length_map] at others
    rw [eq, List.length_append, List.length_append]
    omega

end Placed

namespace Descriptor

variable {cc : Classifier} {degroup : Bool} {text last : Text} {d : Descriptor}

/-- A single piece between other characters. -/
lemma placed_trim {front back inside : Text} (eq : text = front ++ inside ++ back)
    (around : 2 ≤ front.length + back.length) (ne : cc.trim inside ≠ []) :
    Placed cc text [cc.trim inside] := by
  have single : Placed cc text ([inside].map cc.trim) :=
    .pieces ' ' eq (List.cons_ne_nil _ _) (.inr around) (by simpa using ne)
  exact single

/-- Operands from segments of an excerpt. -/
lemma placed_of_segments {separator : Char} {front back inside : Text} {segments results : List Text}
    (eq : text = front ++ inside ++ back) (segs : Segments separator inside segments)
    (enough : 2 ≤ segments.length ∨ 2 ≤ front.length + back.length)
    (h : operands cc segments = .ok results) : Placed cc text results := by
  rw [eq_map_trim_of_operands h]
  rw [← segs.join_eq] at eq
  exact .pieces separator eq segs.ne_nil enough (ne_nil_of_operands h)

/-- A generic has a name, so its text is not empty. -/
lemma ne_nil_of_readGeneric (h : readGeneric cc text = .ok d) : text ≠ [] := by
  rintro rfl
  cases h

/-- The arguments of a generic stand between its angle brackets, so that there are two more
characters. -/
lemma placed_of_readGeneric (h : readGeneric cc text = .ok d) : Placed cc text d.parts := by
  have text_ne := ne_nil_of_readGeneric h
  rcases exists_angles_of_readGeneric h with none | ⟨front, inside, closer, back, eq, args_eq⟩
  · rw [none]
    exact .nothing text_ne
  · rcases exists_segments_of_readArgs args_eq with none | ⟨pieces, segs, operands_ok⟩
    · rw [none]
      exact .nothing text_ne
    · have eq' : text = (front ++ ['<']) ++ inside ++ (closer :: back) := by simp [eq]
      refine placed_of_segments eq' segs (.inr ?_) operands_ok
      simp only [List.length_append, List.length_cons]
      omega

/-- Whatever the form other than a group, its parts are placed in the text. -/
lemma Ungrouped.placed (h : Ungrouped cc text d) : Placed cc text d.parts := by
  have whole : text = [] ++ text ++ [] := by simp
  cases h with
  | union bars several operands_ok => exact placed_of_segments whole bars (.inl several) operands_ok
  | intersection _ amps several operands_ok =>
    exact placed_of_segments whole amps (.inl several) operands_ok
  | @array element inside _ _ _ _ _ ne eq outcome =>
    obtain ⟨size, rfl, _⟩ := exists_of_arrayOutcome outcome
    have around : text = [] ++ element ++ '[' :: (inside ++ [']']) := eq
    exact placed_trim around (by simp) ne
  | generic _ _ _ generic => exact placed_of_readGeneric generic

/-- So are those of a group, whose one part stands between its parentheses. -/
lemma placed_of_read_false (h : read cc false text = .ok d) : Placed cc text d.parts := by
  suffices trimmed : Placed cc (cc.trim text) d.parts from trimmed.widen (Text.trim_infix _ text)
  rcases enclosed_or_ungrouped (readTrimmed_of_read h) with ⟨inside, _, eq, ne, rfl⟩ | ⟨_, ungrouped⟩
  · have around : cc.trim text = ['('] ++ inside ++ [')'] := eq
    exact placed_trim around (Nat.le_refl 2) ne
  · exact ungrouped.placed

/-- Unwrapping ends at an excerpt of the text. -/
lemma Unwraps.isInfix (h : Unwraps cc text last) : last <:+: text := by
  induction h with
  | refl => exact List.infix_rfl
  | step grouped _ ih =>
    have placed := placed_of_read_false grouped
    exact ih.trans (placed.isInfix _ (by simp [parts, names]))

/-- What is read with groups unwrapped is read from an excerpt of the text with groups kept. -/
lemma exists_read_of_read (h : read cc degroup text = .ok d) :
    ∃ last, last <:+: text ∧ read cc false last = .ok d := by
  cases degroup with
  | false => exact ⟨text, List.infix_rfl, h⟩
  | true =>
    obtain ⟨last, unwraps, _, eq⟩ := exists_unwraps cc text
    exact ⟨last, unwraps.isInfix, eq ▸ h⟩

/-- The parts of what is read are placed in its text, also if groups around them are unwrapped. -/
theorem placed_of_read (h : read cc degroup text = .ok d) : Placed cc text d.parts := by
  obtain ⟨last, within, read_last⟩ := exists_read_of_read h
  exact (placed_of_read_false read_last).widen within

end Descriptor
end TypeShape
