import TypeShape.Text
import TypeShape.Text.Unprintable
import TypeShape.Text.GraphemeExtend

/-!
# Literals

How texts and characters are shown inside messages: between quotes, with everything escaped that
would not be seen or would end the literal early.
-/

namespace TypeShape.Literal

/-- Whether a character would be drawn onto the one before it. -/
def isAttached (c : Char) : Bool :=
  CodeRange.holds c CodeRange.graphemeExtend && !CodeRange.halfwidthSoundMarks.contains c

/-- Whether a character is shown by its code point: it has no printed form, or it would be drawn
onto the character before it. -/
def isHidden (c : Char) : Bool :=
  isAttached c || CodeRange.holds c CodeRange.unprintable

/-- A character by its code point, in lower-case hexadecimal without leading zeros. -/
def codePoint (c : Char) : Text :=
  ['\\', 'u', '\x7b'] ++ Nat.toDigits 16 c.toNat ++ ['\x7d']

/-- One character of a literal that the character `mark` opens and closes. -/
def escape (mark c : Char) : Text :=
  if c = '\x00' then ['\\', '0']
  else if c = '\t' then ['\\', 't']
  else if c = '\r' then ['\\', 'r']
  else if c = '\n' then ['\\', 'n']
  else if c = '\\' ∨ c = mark then ['\\', c]
  else if isHidden c then codePoint c
  else [c]

/-- A text in double quotes. -/
def ofText (text : Text) : Text :=
  '"' :: text.flatMap (escape '"') ++ ['"']

/-- A character in single quotes. -/
def ofChar (c : Char) : Text :=
  '\'' :: escape '\'' c ++ ['\'']

end TypeShape.Literal
