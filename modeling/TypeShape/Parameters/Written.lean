import TypeShape.CharClass
import TypeShape.Parameters
import TypeShape.Scan.TopLevel

/-!
# Written parameters

Parameters stand between parentheses, with commas at the top level between them. Each is a value, or
a key, a colon and a value; a value is quoted, or bare text up to the next comma. `read` and `write`
are the two directions.
-/

namespace TypeShape.Parameters

/-- Reads a value. A quoted value has its escapes resolved and nothing may follow it; any other text
is the value itself. -/
def readValue (cc : Classifier) (text : Text) : Except Reason Text :=
  match text with
  | [] => .ok []
  | c :: rest =>
    if c = Quoted.mark then
      match Quoted.read rest with
      | none => .error .unterminatedQuote
      | some (value, after) =>
        if (cc.trim after).isEmpty then .ok value else .error .trailingText
    else .ok text

/-- Splits an item that begins with an identifier and a colon into the identifier and the text after
the colon. -/
def splitKey (cc : Classifier) (item : Text) : Option (Text × Text) :=
  match item with
  | [] => none
  | first :: rest =>
    if cc .nameStart first then
      match cc.trim (rest.dropWhile (cc .nameChar)) with
      | ':' :: value => some (first :: rest.takeWhile (cc .nameChar), value)
      | _ => none
    else none

/-- Reads one parameter, from an item without whitespace at its ends. -/
def readItem (cc : Classifier) (item : Text) : Except Reason Parameter :=
  match splitKey cc item with
  | some (key, value) =>
    if (cc.trim value).isEmpty then .error .missingValue
    else (readValue cc (cc.trim value)).map (.named key)
  | none => (readValue cc item).map .positional

/-- Reads items one after the other, adding to the parameters that came before. -/
def readItems (cc : Classifier) (parameters : Parameters) : List Text → Except Reason Parameters
  | [] => .ok parameters
  | item :: items =>
    if (cc.trim item).isEmpty then .error .emptyOperand
    else
      match readItem cc (cc.trim item) with
      | .error reason => .error reason
      | .ok parameter =>
        match parameters.push parameter with
        | .error _ => .error .repeatedKey
        | .ok parameters => readItems cc parameters items

/-- Reads the text between the parentheses of a parameter list. Blank text is the empty list. -/
def read (cc : Classifier) (text : Text) : Except Reason Parameters :=
  if (cc.trim text).isEmpty then .ok empty
  else
    match Scan.splitTop ',' text with
    | .error reason => .error reason
    | .ok items => readItems cc empty items

/-- Whether a value is written without quotation marks. -/
def isBare (value : Text) : Bool :=
  !value.isEmpty && value.all fun c => c.isAlphanum || ['_', '.', '-', '+'].contains c

/-- The written form of a value. -/
def writeValue (value : Text) : Text :=
  if isBare value then value else Quoted.write value

/-- The written form of one parameter. -/
def writeItem : Parameter → Text
  | .positional value => writeValue value
  | .named key value => key ++ ':' :: writeValue value

/-- The written form of the parameters, without the parentheses around them. -/
def write (parameters : Parameters) : Text :=
  Text.join [',', ' '] (parameters.toList.map writeItem)

end TypeShape.Parameters
