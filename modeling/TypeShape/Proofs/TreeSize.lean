import TypeShape.Proofs.Placement
import TypeShape.Proofs.Preorder

/-!
# Reading all the way down

Parts are taken from the text they are parts of, with something left over, so the tree of a text has
no more nodes than the text has characters, and half as many levels. Nothing here depends on what the
classifier accepts.
-/

namespace TypeShape

/-- A text is a part of what another text is read as, in one of the two ways to read it. -/
def IsPart (cc : Classifier) (part text : Text) : Prop :=
  ∃ degroup d, Descriptor.parse cc degroup text = .ok d ∧ part ∈ d.parts

variable {cc : Classifier} {degroup : Bool} {depth level : Nat} {text : Text} {d : Descriptor}
  {outcome : Except Rejection Descriptor}

/-- Whatever is read has its parts placed in its text. -/
lemma Descriptor.placed_of_parse (h : parse cc degroup text = .ok d) : Placed cc text d.parts :=
  placed_of_read (parse_eq_ok_iff.mp h)

/-- From part to part one cannot go on forever. -/
lemma wellFounded_isPart (cc : Classifier) : WellFounded (IsPart cc) := by
  refine Subrelation.wf ?_ (measure List.length).wf
  rintro part text ⟨degroup, d, parsed, mem⟩
  exact Descriptor.length_lt_of_mem_parts parsed mem

namespace Tree

/-- Trees that each have no more nodes than their text has characters have so together. -/
lemma length_preorderAll_le {texts : List Text} {tree : Text → Tree}
    (each : ∀ text ∈ texts, (preorder depth (tree text)).length ≤ text.length) :
    (preorderAll depth (texts.map tree)).length ≤ texts.flatten.length := by
  induction texts with
  | nil => exact Nat.le_refl 0
  | cons text texts ih =>
    have first := each text (by simp)
    have others := ih fun other mem => each other (by simp [mem])
    simp only [List.map_cons, preorderAll, List.length_append, List.flatten_cons]
    omega

/-- A tree has as many nodes as its text has characters, at most, or it is a leaf. -/
lemma length_preorder_le (cc : Classifier) (degroup : Bool) (depth : Nat) (text : Text) :
    (preorder depth (ofText cc degroup text)).length ≤ max 1 text.length := by
  generalize len : text.length = n
  induction n using Nat.strongRecOn generalizing text depth with
  | ind n ih =>
    cases parsed : Descriptor.parse cc degroup text with
    | error rejection =>
      rw [ofText_of_error parsed]
      exact Nat.le_max_left 1 n
    | ok d =>
      have placed := Descriptor.placed_of_parse parsed
      have each : ∀ part ∈ d.parts,
          (preorder (depth + 1) (ofText cc degroup part)).length ≤ part.length := by
        intro part mem
        have shorter := placed.length_add_two_le part mem
        have part_pos := List.length_pos_iff.mpr (placed.ne_nil part mem)
        have bound := ih part.length (by omega) (depth + 1) part rfl
        omega
      have below := length_preorderAll_le each
      have left_over := placed.length_flatten_lt
      rw [ofText_of_ok parsed, preorder, List.length_cons]
      omega

/-- Every level takes two characters of the text. -/
lemma level_le (mem : (level, outcome) ∈ preorder depth (ofText cc degroup text)) :
    2 * level ≤ 2 * depth + (text.length - 1) := by
  generalize len : text.length = n
  induction n using Nat.strongRecOn generalizing text depth with
  | ind n ih =>
    rcases mem_preorder_ofText.mp mem with ⟨rfl, _⟩ | ⟨d, parsed, part, inParts, below⟩
    · omega
    · have placed := Descriptor.placed_of_parse parsed
      have shorter := placed.length_add_two_le part inParts
      have part_pos := List.length_pos_iff.mpr (placed.ne_nil part inParts)
      have bound := ih part.length (by omega) below rfl
      omega

/-- The parts of what is read are not empty, each leaves over at least two characters of the text and
all of them together one. So reading every part again, and going on behind those that are rejected,
comes to an end, with at most as many nodes as the text has characters and at most half as many
levels. -/
theorem ofText_bounded (cc : Classifier) (degroup : Bool) (text : Text) :
    (∀ d, Descriptor.parse cc degroup text = .ok d →
      d.parts.flatten.length + 1 ≤ text.length ∧
      ∀ part ∈ d.parts, part ≠ [] ∧ part.length + 2 ≤ text.length) ∧
    WellFounded (IsPart cc) ∧
    (ofText cc degroup text =
      match Descriptor.parse cc degroup text with
      | .error rejection => rejected rejection
      | .ok d => node d (d.parts.map (ofText cc degroup))) ∧
    (preorder 0 (ofText cc degroup text)).length ≤ max 1 text.length ∧
    ∀ level outcome, (level, outcome) ∈ preorder 0 (ofText cc degroup text) →
      level ≤ (text.length - 1) / 2 := by
  refine ⟨?_, wellFounded_isPart cc, ?_, length_preorder_le cc degroup 0 text, ?_⟩
  · intro d parsed
    have placed := Descriptor.placed_of_parse parsed
    exact ⟨placed.length_flatten_lt, fun part mem =>
      ⟨placed.ne_nil part mem, placed.length_add_two_le part mem⟩⟩
  · cases parsed : Descriptor.parse cc degroup text with
    | error rejection => exact ofText_of_error parsed
    | ok d => exact ofText_of_ok parsed
  · intro level outcome mem
    have bound := level_le mem
    omega

/-- A group with a rejected text inside is an alternative as long as one can be, and that text stands
as deep as one can. -/
theorem ofText_bounded_attained :
    Descriptor.parse .standard false "(;)|b".toList = .ok (.union ["(;)".toList, "b".toList]) ∧
      ("(;)".toList ≠ [] ∧ "(;)".toList.length + 2 ≤ 5) ∧
      (2, .error ⟨[';'], .unexpected ';'⟩) ∈
        preorder 0 (ofText .standard false "(;)|b".toList) ∧
      2 ≤ (5 - 1) / 2 := by
  have parsed : Descriptor.parse .standard false "(;)|b".toList =
      .ok (.union ["(;)".toList, "b".toList]) := by
    decide +kernel
  have leaf : (2, .error ⟨[';'], .unexpected ';'⟩) ∈
      preorder 0 (ofText .standard false "(;)|b".toList) := by
    decide +kernel
  obtain ⟨parts_bounded, _, _, _, levels⟩ := ofText_bounded .standard false "(;)|b".toList
  obtain ⟨_, group_bounded⟩ := parts_bounded _ parsed
  exact ⟨parsed, group_bounded _ (by simp [Descriptor.parts, Descriptor.names]), leaf,
    levels 2 _ leaf⟩

end Tree
end TypeShape
