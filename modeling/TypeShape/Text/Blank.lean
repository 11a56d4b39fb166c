import TypeShape.Text.CodeRange

/-!
# Blank characters

The characters of Unicode with the property `White_Space`.
-/

namespace TypeShape.CodeRange

/-- The characters with the property `White_Space`, as ranges of code points. -/
def whiteSpace : List CodeRange :=
  [⟨0x9, 0xD⟩, ⟨0x20, 0x20⟩, ⟨0x85, 0x85⟩, ⟨0xA0, 0xA0⟩, ⟨0x1680, 0x1680⟩, ⟨0x2000, 0x200A⟩,
   ⟨0x2028, 0x2029⟩, ⟨0x202F, 0x202F⟩, ⟨0x205F, 0x205F⟩, ⟨0x3000, 0x3000⟩]

end TypeShape.CodeRange

namespace TypeShape.Text

/-- Whether the character has the property `White_Space`. -/
def isBlank (c : Char) : Bool :=
  CodeRange.holds c CodeRange.whiteSpace

/-- Every ASCII character that the core library calls whitespace is blank. -/
theorem isBlank_of_isWhitespace {c : Char} (h : c.isWhitespace = true) : isBlank c = true := by
  simp only [Char.isWhitespace, Bool.or_eq_true, decide_eq_true_eq] at h
  rcases h with ((rfl | rfl) | rfl) | rfl <;> rfl

end TypeShape.Text
