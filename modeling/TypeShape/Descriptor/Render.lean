import TypeShape.Descriptor
import TypeShape.Parameters.Written

/-!
# Canonical text

The text that shows a descriptor: nothing is written that can be left out, and the parts stand as
they are in the source.
-/

namespace TypeShape.Descriptor

/-- Whether a flag is a character of a flag word, and not a flag on its own. -/
def isWordFlag (c : Char) : Bool :=
  c.isAlphanum || c == '_'

/-- The flags: the flag word with its colon, then the flag symbols. -/
def renderFlags (flags : Text) : Text :=
  match flags.takeWhile isWordFlag with
  | [] => flags
  | word => word ++ ':' :: flags.dropWhile isWordFlag

/-- The parameters in parentheses, unless there are none. -/
def renderParameters (parameters : Parameters) : Text :=
  if parameters.isEmpty then [] else '(' :: parameters.write ++ [')']

/-- The generic arguments in angle brackets, unless there are none. -/
def renderArgs : List Text → Text
  | [] => []
  | args => '<' :: Text.join [','] args ++ ['>']

/-- The canonical text of a descriptor. -/
def render : Descriptor → Text
  | generic flags name args parameters =>
    renderFlags flags ++ name ++ renderParameters parameters ++ renderArgs args
  | array element size => element ++ '[' :: size.getD [] ++ [']']
  | group inner => '(' :: inner ++ [')']
  | union operands => Text.join ['|'] operands
  | intersection operands => Text.join ['&'] operands

end TypeShape.Descriptor
