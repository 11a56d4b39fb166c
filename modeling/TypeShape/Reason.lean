import TypeShape.Text.Literal

/-!
# Reasons for rejection

A text that is not a descriptor is rejected for one reason, and the rejection carries the exact text
that was given, not the part of it that was being read.
-/

namespace TypeShape

/-- Why a text is not a descriptor. -/
inductive Reason where
  /-- The text is blank. -/
  | empty
  /-- A delimiter has no partner, or one of another shape. -/
  | unbalanced
  /-- The text ends inside a quoted value. -/
  | unterminatedQuote
  /-- A character may not stand where it does. -/
  | unexpected (c : Char)
  /-- An operand, a group, a generic argument or a parameter is blank. -/
  | emptyOperand
  /-- A parameter key is given twice. -/
  | repeatedKey
  /-- The brackets of an array hold something else than a small number. -/
  | badSize
  /-- A parameter has a key and no value. -/
  | missingValue
  /-- Something follows the end of the descriptor. -/
  | trailingText
  /-- There is no name where one is required. -/
  | missingName
  deriving DecidableEq

/-- The wording of a reason. -/
def Reason.message : Reason → Text
  | .empty => "empty input".toList
  | .unbalanced => "unbalanced delimiters".toList
  | .unterminatedQuote => "unterminated quoted string".toList
  | .unexpected c => "unexpected character ".toList ++ Literal.ofChar c
  | .emptyOperand => "empty operand".toList
  | .repeatedKey => "duplicate parameter key".toList
  | .badSize => "array size is not a number".toList
  | .missingValue => "missing parameter value".toList
  | .trailingText => "unexpected trailing text".toList
  | .missingName => "missing type name".toList

/-- A rejected text, with the reason. -/
structure Rejection where
  /-- The exact text that was given. -/
  input : Text
  /-- What is wrong with it. -/
  reason : Reason
  deriving DecidableEq

/-- The report of a rejection. -/
def Rejection.message (rejection : Rejection) : Text :=
  "invalid type descriptor ".toList ++ Literal.ofText rejection.input ++ ": ".toList
    ++ rejection.reason.message

end TypeShape
