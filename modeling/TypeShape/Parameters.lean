import TypeShape.Text

/-!
# Parameters

The parameters of a descriptor are values in the order of the source, each given by position or by
key. A key is given at most once: `offer` refuses a second value for it, and then leaves the parameters
as they are.
-/

namespace TypeShape

/-- A value of a descriptor. Values are texts, and what they mean is up to the reader. -/
inductive Parameter where
  /-- A value given by its position. -/
  | positional (value : Text)
  /-- A value given by a key. -/
  | named (key value : Text)
  deriving DecidableEq

namespace Parameter

/-- The key, if there is one. -/
def key? : Parameter → Option Text
  | positional _ => none
  | named key _ => some key

/-- The value, however it is given. -/
def value : Parameter → Text
  | positional value => value
  | named _ value => value

/-- The value, if it is given by position. -/
def positional? : Parameter → Option Text
  | positional value => some value
  | named _ _ => none

/-- The key and the value, if there is a key. -/
def named? : Parameter → Option (Text × Text)
  | positional _ => none
  | named key value => some (key, value)

end Parameter

/-- Parameters in the order of the source. -/
structure Parameters where
  /-- The parameters, positional and named. -/
  toList : List Parameter
  deriving DecidableEq

namespace Parameters

/-- No parameters. -/
def empty : Parameters :=
  ⟨[]⟩

/-- A single parameter. -/
def singleton (parameter : Parameter) : Parameters :=
  ⟨[parameter]⟩

/-- The number of parameters. -/
def size (parameters : Parameters) : Nat :=
  parameters.toList.length

/-- Whether there are no parameters. -/
def isEmpty (parameters : Parameters) : Bool :=
  parameters.toList.isEmpty

/-- The value of the first parameter with the given key. -/
def get? (parameters : Parameters) (key : Text) : Option Text :=
  parameters.toList.findSome? fun parameter =>
    match parameter with
    | .named other value => if other = key then some value else none
    | .positional _ => none

/-- The parameter at a position, counted from zero. -/
def getIndex? (parameters : Parameters) (index : Nat) : Option Parameter :=
  parameters.toList[index]?

/-- The values that are given by position, in order. -/
def positional (parameters : Parameters) : List Text :=
  parameters.toList.filterMap Parameter.positional?

/-- The keys and values of the named parameters, in order. -/
def named (parameters : Parameters) : List (Text × Text) :=
  parameters.toList.filterMap Parameter.named?

/-- Offers a parameter to be added at the end, and gives the parameters afterwards. A named parameter
whose key is already given is refused and handed back, and then they are what they were before. -/
def offer (parameters : Parameters) (parameter : Parameter) : Except Parameter Unit × Parameters :=
  if (parameter.key?.bind parameters.get?).isSome then (.error parameter, parameters)
  else (.ok (), ⟨parameters.toList ++ [parameter]⟩)

/-- Adds a parameter at the end, for a caller that has no use for the parameters once one is
refused. -/
def push (parameters : Parameters) (parameter : Parameter) : Except Parameter Parameters :=
  match parameters.offer parameter with
  | (.ok _, parameters) => .ok parameters
  | (.error refused, _) => .error refused

/-- Whether the ways to look at the parameters agree: by index and by key each of them is found
again, and positional and named ones are all there are. -/
def isConsistent (parameters : Parameters) : Bool :=
  parameters.toList.zipIdx.all (fun (parameter, index) =>
    parameters.getIndex? index == some parameter &&
      match parameter with
      | .named key value => parameters.get? key == some value
      | .positional _ => true) &&
    parameters.positional.length + parameters.named.length == parameters.size

/-- A positional parameter is never refused. -/
theorem offer_positional (parameters : Parameters) (value : Text) :
    parameters.offer (.positional value) = (.ok (), ⟨parameters.toList ++ [.positional value]⟩) :=
  rfl

end Parameters
end TypeShape
