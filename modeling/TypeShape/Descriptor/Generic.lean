import TypeShape.Descriptor
import TypeShape.Parameters.Written

/-!
# Reading the generic form

A generic is a sequence of components, each but the name optional, with whitespace allowed between
them: a flag word and its colon, flag symbols, the name, parameters in parentheses, arguments in
angle brackets. Each step takes its component from the beginning of the text and gives the rest.
-/

namespace TypeShape.Descriptor

/-- Takes a flag word with its colon. Without a colon there is no flag word. -/
def takeFlagWord (cc : Classifier) (text : Text) : Text × Text :=
  match text.takeWhile (cc .flagWord), cc.skip (text.dropWhile (cc .flagWord)) with
  | c :: word, ':' :: rest => (c :: word, rest)
  | _, _ => ([], text)

/-- Takes flag symbols and the whitespace around them. -/
def takeFlagSymbols (cc : Classifier) : Text → Text × Text
  | [] => ([], [])
  | c :: rest =>
    if cc .whitespace c then takeFlagSymbols cc rest
    else if cc .flagSymbol c then (c :: (takeFlagSymbols cc rest).1, (takeFlagSymbols cc rest).2)
    else ([], c :: rest)

/-- Takes the segments of a name with the separators between them. After a separator another
segment has to begin. -/
def takeSegments (cc : Classifier) (text : Text) : Except Reason (Text × Text) :=
  match text with
  | [] => .error .missingName
  | first :: rest =>
    if cc .nameStart first then
      match after : rest.dropWhile (cc .nameChar) with
      | [] => .ok (first :: rest.takeWhile (cc .nameChar), [])
      | separator :: more =>
        if cc .namespaceSeparator separator then
          if more.head?.any (cc .nameStart) then
            have : more.length < (first :: rest).length :=
              Nat.lt_succ_of_lt (Text.length_lt_of_dropWhile_eq_cons after)
            (takeSegments cc more).map fun (name, rest') =>
              (first :: rest.takeWhile (cc .nameChar) ++ separator :: name, rest')
          else .error .missingName
        else .ok (first :: rest.takeWhile (cc .nameChar), separator :: more)
    else .error (.unexpected first)
termination_by text.length
decreasing_by assumption

/-- Takes a name: segments, with a root separator before them if it is absolute. -/
def takeName (cc : Classifier) (text : Text) : Except Reason (Text × Text) :=
  match text with
  | [] => .error .missingName
  | c :: rest =>
    if cc .rootSeparator c then
      (takeSegments cc rest).map fun (name, rest') => (c :: name, rest')
    else takeSegments cc text

/-- The texts without whitespace at their ends, none of which may be blank. -/
def operands (cc : Classifier) (texts : List Text) : Except Reason (List Text) :=
  if (texts.map cc.trim).any List.isEmpty then .error .emptyOperand
  else .ok (texts.map cc.trim)

/-- Reads the text between the angle brackets of generic arguments. Blank text is no argument. -/
def readArgs (cc : Classifier) (text : Text) : Except Reason (List Text) :=
  if (cc.trim text).isEmpty then .ok []
  else do
    let pieces ← Scan.splitTop ',' text
    operands cc pieces

/-- Reads the whole text as a generic. -/
def readGeneric (cc : Classifier) (text : Text) : Except Reason Descriptor := do
  let (word, rest) := takeFlagWord cc text
  let (symbols, rest) := takeFlagSymbols cc rest
  let (name, rest) ← takeName cc rest
  let (list, rest) ← Scan.takePair .paren (cc.skip rest)
  let parameters ← (list.map (Parameters.read cc)).getD (.ok .empty)
  let (list, rest) ← Scan.takePair .angle (cc.skip rest)
  let args ← (list.map (readArgs cc)).getD (.ok [])
  if (cc.skip rest).isEmpty then .ok (.generic (word ++ symbols) name args parameters)
  else .error .trailingText

end TypeShape.Descriptor
