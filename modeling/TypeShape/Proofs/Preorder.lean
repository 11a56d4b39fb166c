import Mathlib.Logic.Basic
import Mathlib.Tactic.Lemma
import TypeShape.Tree

/-!
# Walks over trees

What stands at the nodes of the tree of a text: at the root, what the text is read as, and at every
other node, what a part is read as, of the descriptor above it. So the nodes are what the texts are
read as that the tree reaches (`mem_preorder_iff`).
-/

namespace TypeShape.Tree

variable {cc : Classifier} {degroup : Bool} {depth level : Nat} {text : Text}
  {outcome : Except Rejection Descriptor}

/-- The nodes of several trees are those of each of them. -/
lemma mem_preorderAll {trees : List Tree} :
    (level, outcome) ∈ preorderAll depth trees ↔
      ∃ tree ∈ trees, (level, outcome) ∈ preorder depth tree := by
  induction trees with
  | nil => simp [preorderAll]
  | cons tree trees ih => simp [preorderAll, ih]

/-- The root of a tree is what its text is read as, and the nodes below it are those of the trees of
the parts. -/
lemma mem_preorder_ofText :
    (level, outcome) ∈ preorder depth (ofText cc degroup text) ↔
      level = depth ∧ outcome = Descriptor.parse cc degroup text ∨
      ∃ d, Descriptor.parse cc degroup text = .ok d ∧
        ∃ part ∈ d.parts, (level, outcome) ∈ preorder (depth + 1) (ofText cc degroup part) := by
  cases parsed : Descriptor.parse cc degroup text with
  | error rejection =>
    rw [ofText_of_error parsed]
    simp [preorder]
  | ok d =>
    rw [ofText_of_ok parsed]
    simp [preorder, mem_preorderAll]

/-- A text is reached from another in some steps, each of them from the text of a descriptor to one of
its parts. -/
inductive Reaches (cc : Classifier) (degroup : Bool) : Text → Nat → Text → Prop
  | self {text : Text} : Reaches cc degroup text 0 text
  | part {text part last : Text} {steps : Nat} {d : Descriptor}
      (parsed : Descriptor.parse cc degroup text = .ok d) (mem : part ∈ d.parts)
      (below : Reaches cc degroup part steps last) : Reaches cc degroup text (steps + 1) last

/-- The nodes of a tree are what the texts that it reaches are read as, one level down for each
step. -/
lemma mem_preorder_iff :
    (level, outcome) ∈ preorder depth (ofText cc degroup text) ↔
      ∃ steps last, level = depth + steps ∧ Reaches cc degroup text steps last ∧
        outcome = Descriptor.parse cc degroup last := by
  constructor
  · intro mem
    generalize len : text.length = n
    -- parts are shorter than their text, though they are not its tails
    induction n using Nat.strongRecOn generalizing text depth with
    | ind n ih =>
      rcases mem_preorder_ofText.mp mem with
        ⟨level_eq, outcome_eq⟩ | ⟨d, parsed, part, inParts, below⟩
      · exact ⟨0, text, level_eq, .self, outcome_eq⟩
      · have shorter := Descriptor.length_lt_of_mem_parts parsed inParts
        obtain ⟨steps, last, level_eq, reaches, outcome_eq⟩ :=
          ih part.length (by omega) below rfl
        exact ⟨steps + 1, last, by omega, .part parsed inParts reaches, outcome_eq⟩
  · rintro ⟨steps, last, rfl, reaches, rfl⟩
    induction reaches generalizing depth with
    | self => exact mem_preorder_ofText.mpr (.inl ⟨rfl, rfl⟩)
    | @part text part last steps d parsed inParts _ ih =>
      have below : (depth + 1 + steps, Descriptor.parse cc degroup last) ∈
          preorder (depth + 1) (ofText cc degroup part) := ih
      rw [Nat.add_right_comm] at below
      exact mem_preorder_ofText.mpr (.inr ⟨d, parsed, part, inParts, below⟩)

/-- The last step to a text is from a descriptor that is reached, to one of its parts. -/
lemma Reaches.exists_source {last : Text} {steps : Nat}
    (reaches : Reaches cc degroup text (steps + 1) last) :
    ∃ source d, Reaches cc degroup text steps source ∧
      Descriptor.parse cc degroup source = .ok d ∧ last ∈ d.parts := by
  induction steps generalizing text with
  | zero =>
    obtain _ | ⟨parsed, inParts, ⟨⟩⟩ := reaches
    exact ⟨text, _, .self, parsed, inParts⟩
  | succ steps ih =>
    obtain _ | ⟨parsed, inParts, below⟩ := reaches
    obtain ⟨source, d, reaches, source_parsed, mem⟩ := ih below
    exact ⟨source, d, .part parsed inParts reaches, source_parsed, mem⟩

/-- A node below the root is what a part is read as, of a descriptor that the tree reaches one level
above. -/
lemma exists_part_of_mem_preorder
    (mem : (level, outcome) ∈ preorder depth (ofText cc degroup text)) :
    level = depth ∧ outcome = Descriptor.parse cc degroup text ∨
      ∃ above source d part, level = depth + (above + 1) ∧
        Reaches cc degroup text above source ∧
        Descriptor.parse cc degroup source = .ok d ∧ part ∈ d.parts ∧
        outcome = Descriptor.parse cc degroup part := by
  obtain ⟨steps, last, level_eq, reaches, outcome_eq⟩ := mem_preorder_iff.mp mem
  cases steps with
  | zero =>
    cases reaches
    exact .inl ⟨level_eq, outcome_eq⟩
  | succ above =>
    obtain ⟨source, d, reached, parsed, inParts⟩ := reaches.exists_source
    exact .inr ⟨above, source, d, last, level_eq, reached, parsed, inParts, outcome_eq⟩

end TypeShape.Tree
