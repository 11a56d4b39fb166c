import TypeShape.Text

/-!
# Decimal numbers

Unsigned numbers written in ASCII digits. Only numbers that fit in a word of 64 bits are read.
-/

namespace TypeShape.Decimal

/-- The value of a run of digits that follows digits of value `high`. -/
def valueFrom (high : Nat) : Text → Nat
  | [] => high
  | c :: rest => valueFrom (10 * high + (c.toNat - '0'.toNat)) rest

theorem valueFrom_nil (high : Nat) : valueFrom high [] = high := by
  rfl

theorem valueFrom_cons (high : Nat) (c : Char) (rest : Text) :
    valueFrom high (c :: rest) = valueFrom (10 * high + (c.toNat - '0'.toNat)) rest := by
  rfl

/-- The value of a text of ASCII digits, most significant first; leading zeros are allowed. -/
def value (digits : Text) : Nat :=
  valueFrom 0 digits

/-- Whether the text is a run of one or more ASCII digits. -/
def isNumeral (text : Text) : Bool :=
  !text.isEmpty && text.all Char.isDigit

/-- The number that the text writes, if it is a numeral and its value fits in a word. -/
def read? (text : Text) : Option Nat :=
  if isNumeral text && value text < UInt64.size then some (value text) else none

end TypeShape.Decimal
