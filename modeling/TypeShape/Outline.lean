import TypeShape.Memo
import TypeShape.Parsed

/-!
# Outlines

The report of the command line. Each text is shown with an outline: a line for the descriptor and,
indented, lines for its parts and their parts, with enclosing parentheses unwrapped. The outline ends
at the first part that is rejected. All texts are read through one memo.
-/

namespace TypeShape.Outline

/-- What a descriptor is made of, in words. -/
def describe : Descriptor → Text
  | .generic flags name _ parameters =>
    name ++ (if flags.isEmpty then [] else " flags=".toList ++ Literal.ofText flags)
      ++ parameters.toList.flatMap fun parameter =>
        match parameter with
        | .positional value => ' ' :: Literal.ofText value
        | .named key value => ' ' :: key ++ '=' :: Literal.ofText value
  | .array element size =>
    match (Descriptor.array element size).arraySize with
    | some n => "of ".toList ++ Nat.toDigits 10 n
    | none => "unsized".toList
  | d => "of ".toList ++ Nat.toDigits 10 d.names.length

/-- The line for a descriptor. -/
def line (depth : Nat) (d : Descriptor) : Text :=
  List.replicate (2 * depth) ' ' ++ d.kind.label ++ ' ' :: describe d

/-- Lines, and the rejection that ended them early, if one did. -/
structure Lines where
  /-- The memo afterwards. -/
  memo : Memo
  /-- The lines, in order. -/
  lines : List Text
  /-- The rejection of the first part that is no descriptor. -/
  failure : Option Rejection

/-- The lines of texts one after the other, up to the first that fails. -/
def inOrder (outline : Memo → Text → Lines) (memo : Memo) : List Text → Lines
  | [] => ⟨memo, [], none⟩
  | text :: texts =>
    let first := outline memo text
    match first.failure with
    | some rejection => ⟨first.memo, first.lines, some rejection⟩
    | none =>
      let rest := inOrder outline first.memo texts
      ⟨rest.memo, first.lines ++ rest.lines, rest.failure⟩

/-- The outline of a text, with at most `fuel` levels. -/
def ofText (fuel depth : Nat) (memo : Memo) (text : Text) : Lines :=
  match fuel with
  | 0 => ⟨memo, [], none⟩
  | fuel + 1 =>
    let served := memo.parse .standard ⟨text, true⟩
    match served.answer with
    | .error rejection => ⟨served.memo, [], some rejection⟩
    | .ok found =>
      let parts := inOrder (ofText fuel (depth + 1)) served.memo found.descriptor.parts
      ⟨parts.memo, line depth found.descriptor :: parts.lines, parts.failure⟩

/-- The lines for one text: the text, its outline, and the rejection that ended the outline. Parts
are shorter than the text they come from, so there are fewer levels than characters and one more. -/
def linesFor (memo : Memo) (text : Text) : Memo × List Text :=
  let outline := ofText (text.length + 1) 1 memo text
  let failure := match outline.failure with
    | some rejection => [' ' :: ' ' :: rejection.message]
    | none => []
  (outline.memo, text :: outline.lines ++ failure)

/-- The lines for texts one after the other. -/
def linesForAll (memo : Memo) : List Text → Memo × List Text
  | [] => (memo, [])
  | text :: texts =>
    let (memo, first) := linesFor memo text
    let (memo, rest) := linesForAll memo texts
    (memo, first ++ rest)

/-- The texts that are shown if none are given. -/
def samples : List Text :=
  ["?\\App\\Collection(max:10, \"a b\")<int|string>".toList,
   "((A&B)|null)[3]".toList,
   "u:+list<map<string,int[]>>".toList]

/-- Texts that are no descriptors, which end every report. -/
def malformed : List Text :=
  ["".toList, "int(".toList, "int||float".toList, "int(max:1,max:2)".toList]

/-- An optional text, as a literal. -/
def optionalLiteral : Option Text → Text
  | some text => "Some(".toList ++ Literal.ofText text ++ [')']
  | none => "None".toList

/-- The lines for the malformed texts: the rejection of each, handed over as a value. A rejection that
ended the call would be shown as it is. -/
def malformedLines (memo : Memo) : List Text → List Text
  | [] => []
  | text :: texts =>
    let served := memo.parse .standard ⟨text, false⟩
    let line := match OnReject.value.apply served.answer with
      | .ok parsed => optionalLiteral (parsed.invalid?.map Rejection.message)
      | .error rejection => rejection.message
    line :: malformedLines served.memo texts

/-- The whole report for the given texts. -/
def report (texts : List Text) : List Text :=
  let (memo, lines) := linesForAll (.new none) (if texts.isEmpty then samples else texts)
  lines ++ malformedLines memo malformed

end TypeShape.Outline
