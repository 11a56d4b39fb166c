import TypeShape.Text
import TypeShape.Text.Blank

/-!
# Character classes

Which characters may form the flags and the names of a descriptor is decided by a classifier: a
test for each of seven classes. The structural punctuation is fixed and no classifier changes it.
The classes of a classifier may overlap each other and the punctuation.
-/

namespace TypeShape

/-- The roles that a character can play in flags and names. -/
inductive CharClass where
  /-- Begins a segment of a name, or a parameter key. -/
  | nameStart
  /-- Continues a segment of a name, or a parameter key. -/
  | nameChar
  /-- Joins the segments of a name. -/
  | namespaceSeparator
  /-- Makes a name absolute, when it stands before the first segment. -/
  | rootSeparator
  /-- Forms a flag word, which a colon ends. -/
  | flagWord
  /-- Is a flag on its own. -/
  | flagSymbol
  /-- Has no meaning between the components of a descriptor. -/
  | whitespace
  deriving DecidableEq

/-- All classes. -/
def CharClass.all : List CharClass :=
  [.nameStart, .nameChar, .namespaceSeparator, .rootSeparator, .flagWord, .flagSymbol, .whitespace]

/-- The characters that each class accepts. -/
abbrev Classifier := CharClass → Char → Bool

namespace Classifier

/-- The flag symbols of the standard classifier. -/
def standardSymbols : List Char :=
  ['?', '*', '+', '-', '=', '@', '^', '\x60', '~', '!', '#', '$', '%']

/-- ASCII identifiers for names and flag words, backslash and full stop between the segments of a
name, backslash before an absolute name, and the blank characters of Unicode. -/
def standard : Classifier
  | .nameStart => fun c => c.isAlpha || c == '_'
  | .nameChar => fun c => c.isAlphanum || c == '_'
  | .namespaceSeparator => fun c => c == '\\' || c == '.'
  | .rootSeparator => fun c => c == '\\'
  | .flagWord => fun c => c.isAlphanum || c == '_'
  | .flagSymbol => standardSymbols.contains
  | .whitespace => Text.isBlank

/-- Replacements for classes of the standard classifier: the set of characters of each class that
is replaced. -/
abbrev Replacements := CharClass → Option (List Char)

/-- The standard classifier with some classes replaced. A replacement of the namespace separators
also replaces the root separator, by the first of them, unless that has a set of its own. -/
def replaced (sets : Replacements) : Classifier
  | .rootSeparator =>
    match sets .rootSeparator, sets .namespaceSeparator with
    | some set, _ => set.contains
    | none, some set => fun c => set.head? == some c
    | none, none => standard .rootSeparator
  | cls =>
    match sets cls with
    | some set => set.contains
    | none => standard cls

/-- Without replacements the classifier is the standard one. -/
theorem replaced_none : replaced (fun _ => none) = standard := by
  funext cls
  cases cls <;> rfl

/-- The classes that accept a character. -/
def classesOf (cc : Classifier) (c : Char) : List CharClass :=
  CharClass.all.filter fun cls => cc cls c

/-- The text without whitespace at its two ends. -/
def trim (cc : Classifier) (text : Text) : Text :=
  Text.trim (cc .whitespace) text

/-- The text from its first character that is not whitespace. -/
def skip (cc : Classifier) (text : Text) : Text :=
  text.dropWhile (cc .whitespace)

end Classifier
end TypeShape
