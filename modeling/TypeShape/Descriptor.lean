import TypeShape.Text.Decimal
import TypeShape.Parameters

/-!
# Descriptors

A descriptor is one level of a type: which of five forms it has, and the texts that the form is made
of. Apart from the primary name of a generic, these texts are the source of further descriptors,
which are read only on demand.
-/

namespace TypeShape

/-- The form of a descriptor. -/
inductive Kind where
  /-- A name, perhaps with flags, parameters and generic arguments. -/
  | generic
  /-- An element type and one pair of square brackets. -/
  | array
  /-- A descriptor in parentheses. -/
  | group
  /-- Alternatives. -/
  | union
  /-- Types that hold together. -/
  | intersection
  deriving DecidableEq

/-- The word for a form. -/
def Kind.label : Kind → Text
  | .generic => "generic".toList
  | .array => "array".toList
  | .group => "group".toList
  | .union => "union".toList
  | .intersection => "intersection".toList

/-- One level of a type. -/
inductive Descriptor where
  /-- A name with its flags, its generic arguments and its parameters. -/
  | generic (flags name : Text) (args : List Text) (parameters : Parameters)
  /-- An element type with the size that is written for it, if one is. -/
  | array (element : Text) (size : Option Text)
  /-- The text inside a pair of parentheses. -/
  | group (inner : Text)
  /-- Two alternatives or more. -/
  | union (operands : List Text)
  /-- Two types or more that hold together. -/
  | intersection (operands : List Text)
  deriving DecidableEq

namespace Descriptor

/-- The form of the descriptor. -/
def kind : Descriptor → Kind
  | generic .. => .generic
  | array .. => .array
  | group _ => .group
  | union _ => .union
  | intersection _ => .intersection

/-- The names: the primary name and the arguments of a generic, the element of an array, the inner
text of a group, or the operands. -/
def names : Descriptor → List Text
  | generic _ name args _ => name :: args
  | array element _ => [element]
  | group inner => [inner]
  | union operands => operands
  | intersection operands => operands

/-- The first of the names. -/
def name (d : Descriptor) : Text :=
  d.names.headD []

/-- The generic arguments. Other forms have none. -/
def genericArgs : Descriptor → List Text
  | generic _ _ args _ => args
  | _ => []

/-- The flags, without whitespace and without the colon of a flag word. Other forms have none. -/
def flags : Descriptor → Text
  | generic flags .. => flags
  | _ => []

/-- The parameters of a generic, or the size of an array as its only parameter. -/
def parameters : Descriptor → Parameters
  | generic _ _ _ parameters => parameters
  | array _ (some size) => .singleton (.positional size)
  | _ => .empty

/-- The number of elements of an array that has a size. -/
def arraySize : Descriptor → Option Nat
  | array _ (some size) => Decimal.read? size
  | _ => none

/-- The parts that are the source of further descriptors: the arguments of a generic, and every name
of another form. -/
def parts : Descriptor → List Text
  | generic _ _ args _ => args
  | d => d.names

end Descriptor
end TypeShape
