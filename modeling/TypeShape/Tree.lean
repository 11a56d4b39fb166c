import TypeShape.Descriptor.Parts

/-!
# Trees of descriptors

Reading every part of a descriptor again, and the parts of the parts, gives a tree. A text that is
rejected is a leaf, and the reading goes on with the next part. The tree is finite because parts are
shorter than the text they come from.
-/

namespace TypeShape

/-- A text read all the way down. -/
inductive Tree where
  /-- A text that is no descriptor. -/
  | rejected (rejection : Rejection)
  /-- A descriptor with the trees of its parts, in order. -/
  | node (d : Descriptor) (children : List Tree)

namespace Tree

/-- Reads a text and all its parts. -/
def ofText (cc : Classifier) (degroup : Bool) (text : Text) : Tree :=
  match parsed : Descriptor.parse cc degroup text with
  | .error rejection => rejected rejection
  | .ok d =>
    node d (d.parts.attach.map fun part =>
      have := Descriptor.length_lt_of_mem_parts parsed part.property
      ofText cc degroup part.val)
termination_by text.length

mutual

/-- What is at the nodes of a tree, each with its distance from the root, a node before its
children. -/
def preorder (depth : Nat) : Tree → List (Nat × Except Rejection Descriptor)
  | rejected rejection => [(depth, .error rejection)]
  | node d children => (depth, .ok d) :: preorderAll (depth + 1) children

/-- What is at the nodes of several trees, one tree after the other. -/
def preorderAll (depth : Nat) : List Tree → List (Nat × Except Rejection Descriptor)
  | [] => []
  | tree :: trees => preorder depth tree ++ preorderAll depth trees

end

/-- A text that is no descriptor is a leaf. -/
theorem ofText_of_error {cc : Classifier} {degroup : Bool} {text : Text} {rejection : Rejection}
    (h : Descriptor.parse cc degroup text = .error rejection) :
    ofText cc degroup text = rejected rejection := by
  unfold ofText
  split
  · next parsed =>
    rw [h] at parsed
    rw [Except.error.inj parsed]
  · next parsed =>
    rw [h] at parsed
    cases parsed

/-- The children of a descriptor are the trees of its parts. -/
theorem ofText_of_ok {cc : Classifier} {degroup : Bool} {text : Text} {d : Descriptor}
    (h : Descriptor.parse cc degroup text = .ok d) :
    ofText cc degroup text = node d (d.parts.map (ofText cc degroup)) := by
  rw [ofText]
  split
  · next parsed =>
    rw [h] at parsed
    cases parsed
  · next parsed =>
    rw [h] at parsed
    cases parsed
    simp

end Tree
end TypeShape
