import TypeShape.Conformance.Forms

/-!
# Checks of the character classes

The checks that it is the classifier of a reader that decides which characters may stand in flags and
names, and which are whitespace. Each stage replaces one class and has a new reader.
-/

namespace TypeShape.Conformance

/-- Checks for readers with one class replaced. -/
structure Stage where
  /-- The class that is replaced. -/
  replaced : CharClass
  /-- The characters that are in the class instead. -/
  set : List Char
  /-- The checks. -/
  checks : List Check

namespace Stage

/-- The classes that no trial may choose, since some stage replaces them. -/
def decided : List CharClass :=
  [.flagSymbol, .namespaceSeparator, .whitespace]

/-- The replacements of a stage, together with those of a trial. -/
def replacements (stage : Stage) (sets : Classifier.Replacements) : Classifier.Replacements :=
  fun cls =>
    if cls = stage.replaced then some stage.set
    else if cls ∈ decided then none
    else sets cls

end Stage

/-- A text that is rejected when enclosing parentheses are not unwrapped. -/
def refuses (input : Text) (reason : Reason) : List Check :=
  [⟨⟨input, false⟩, .rejected reason⟩]

open Expectation in
/-- Other flag symbols, of which one is an operator, which is looked for first. -/
def flagSymbolStage : Stage :=
  ⟨.flagSymbol, ['?', '&', '.'], List.flatten [
    reads "?.int" (generic "?." ["int"] []),
    refuses "+int" (.unexpected '+'),
    refuses "a+b&c" (.unexpected '+'),
    reads "a&b" (intersection ["a", "b"])]⟩

open Expectation in
/-- Other namespace separators, of which one is the colon that ends a flag word. -/
def separatorStage : Stage :=
  ⟨.namespaceSeparator, [':', '/'], List.flatten [
    reads ":a/b:c" (plain ":a/b:c"),
    refuses "a\\b" (.unexpected '\\'),
    refuses "a\\b|c" (.unexpected '\\'),
    reads "u:a:b" (generic "u" ["a:b"] [])]⟩

open Expectation in
/-- Other whitespace, which could also stand in names. -/
def whitespaceStage : Stage :=
  ⟨.whitespace, ['_'], List.flatten [
    reads "__int__" (plain "int"),
    reads "a_|_b" (union ["a", "b"]),
    refuses " int" (.unexpected ' '),
    refuses "___" .empty]⟩

/-- All stages, in order. -/
def classStages : List Stage :=
  [flagSymbolStage, separatorStage, whitespaceStage]

/-- Goes through stages, up to the first check that is not met. -/
def trialStages (reader : Classifier → Subject) (sets : Classifier.Replacements) :
    List Stage → Report
  | [] => .empty
  | stage :: stages =>
    let subject := reader (.replaced (stage.replacements sets))
    (trial subject stage.checks).2.andThen (trialStages reader sets stages)

end TypeShape.Conformance
