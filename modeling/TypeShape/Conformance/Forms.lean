import TypeShape.Conformance.Trial

/-!
# Checks of the notation

The checks that every reader with the standard classes passes: each form of the notation, the order
of precedence between the forms, the reasons for which a text is rejected, and that a text read again
gives the same. A reader with other classes may fail some of them.
-/

namespace TypeShape.Conformance

/-- The texts of checks are written as string literals. -/
scoped instance : Coe String Text := ⟨String.toList⟩

/-- A text that gives what is expected. -/
def reads (input : Text) (want : Expectation) : List Check :=
  [⟨⟨input, false⟩, .gives want⟩]

/-- A text that gives what is expected once enclosing parentheses are unwrapped. -/
def unwraps (input : Text) (want : Expectation) : List Check :=
  [⟨⟨input, true⟩, .gives want⟩]

/-- A text that is rejected, whether enclosing parentheses are unwrapped or not. -/
def rejects (input : Text) (reason : Reason) : List Check :=
  [⟨⟨input, false⟩, .rejected reason⟩, ⟨⟨input, true⟩, .rejected reason⟩]

/-- A text that gives the same a second time, whether enclosing parentheses are unwrapped or not, and
parameters that can be looked at in any way. -/
def repeats (input : Text) : List Check :=
  [⟨⟨input, false⟩, .accepted⟩, ⟨⟨input, false⟩, .unchanged⟩,
   ⟨⟨input, true⟩, .accepted⟩, ⟨⟨input, true⟩, .unchanged⟩,
   ⟨⟨input, false⟩, .consistent⟩]

open Expectation in
/-- Names alone. -/
def nameChecks : List Check := List.flatten [
  reads "int" (plain "int"),
  reads "  int\t" (plain "int"),
  reads "_x1" (plain "_x1"),
  reads "\\Foo" (plain "\\Foo"),
  reads "Foo\\Bar\\Baz" (plain "Foo\\Bar\\Baz"),
  reads "\\Foo\\Bar" (plain "\\Foo\\Bar"),
  reads "foo.bar.Baz" (plain "foo.bar.Baz"),
  reads "foo.bar\\Baz" (plain "foo.bar\\Baz")]

open Expectation in
/-- Names with flags. -/
def flagChecks : List Check := List.flatten [
  reads "u:?*+int" (generic "u?*+" ["int"] []),
  reads "+int" (generic "+" ["int"] []),
  reads "?int" (generic "?" ["int"] []),
  reads "u:int" (generic "u" ["int"] []),
  reads "mode_2:int" (generic "mode_2" ["int"] []),
  reads "? * int" (generic "?*" ["int"] []),
  reads "u : -int" (generic "u-" ["int"] []),
  reads "=@^\x60~!#$%int" (generic "=@^\x60~!#$%" ["int"] []),
  reads "?\\Foo" (generic "?" ["\\Foo"] [])]

open Expectation Parameter in
/-- Names with parameters. -/
def parameterChecks : List Check := List.flatten [
  reads "int()" (plain "int"),
  reads "int( )" (plain "int"),
  reads "int(0)" (generic "" ["int"] [positional "0"]),
  reads "int(min:0)" (generic "" ["int"] [named "min" "0"]),
  reads "int(\"\\\"foo bar\\\"\", min:0, max:123)"
    (generic "" ["int"] [positional "\"foo bar\"", named "min" "0", named "max" "123"]),
  reads "string( \"a,b\" , sep : \",\" , 3 )"
    (generic "" ["string"] [positional "a,b", named "sep" ",", positional "3"]),
  reads "re(\"\\\\d+\\)\")" (generic "" ["re"] [positional "\\d+)"]),
  reads "int (max:3)" (generic "" ["int"] [named "max" "3"])]

open Expectation Parameter in
/-- Names with generic arguments. -/
def argumentChecks : List Check := List.flatten [
  reads "array<int>" ((plain "array").withNames ["array", "int"]),
  reads "array<int,array<Foo<string>,Bar>>"
    ((plain "array").withNames ["array", "int", "array<Foo<string>,Bar>"]),
  reads "map< string , int|null >" ((plain "map").withNames ["map", "string", "int|null"]),
  reads "Foo<>" (plain "Foo"),
  reads "Foo<(a&b)[], c(x:\"<\")>" ((plain "Foo").withNames ["Foo", "(a&b)[]", "c(x:\"<\")"]),
  reads "?list(max:3)<int>" (generic "?" ["list", "int"] [named "max" "3"]),
  reads "u:+\\A\\B(1, k:v)<X, Y>"
    (generic "u+" ["\\A\\B", "X", "Y"] [positional "1", named "k" "v"])]

open Expectation in
/-- Arrays. -/
def arrayChecks : List Check := List.flatten [
  reads "int[]" (array "int" none),
  reads "int[3]" (array "int" (some "3")),
  reads "int[ 3 ]" (array "int" (some "3")),
  reads "int[123][456]" (array "int[123]" (some "456")),
  reads "int [] " (array "int" none),
  reads "Foo<int[2]>[]" (array "Foo<int[2]>" none),
  reads "?int[]" (array "?int" none),
  reads "(int|float)[2]" (array "(int|float)" (some "2")),
  reads "(int)[]" (array "(int)" none)]

open Expectation in
/-- Groups, and what is left of them once their parentheses are unwrapped. -/
def groupChecks : List Check := List.flatten [
  reads "(int)" (group "int"),
  reads "( int )" (group "int"),
  reads "((int))" (group "(int)"),
  reads "(int|float)" (group "int|float"),
  reads "(a(\")\"))" (group "a(\")\")"),
  reads "(a;b)" (group "a;b"),
  unwraps "(int)" (plain "int"),
  unwraps "((int))" (plain "int"),
  unwraps "((int|float|string))" (union ["int", "float", "string"]),
  unwraps "(int)[]" (array "(int)" none),
  unwraps "int" (plain "int"),
  [⟨⟨"((a;b))", true⟩, .rejected (.unexpected ';')⟩]]

open Expectation in
/-- Unions and intersections. A union binds less than an intersection, and both bind less than all
other forms. -/
def operatorChecks : List Check := List.flatten [
  reads "int|float" (union ["int", "float"]),
  reads " int | float | null " (union ["int", "float", "null"]),
  reads "int&float|string" (union ["int&float", "string"]),
  reads "int|float&string" (union ["int", "float&string"]),
  reads "int&float&string" (intersection ["int", "float", "string"]),
  reads "(a|b)&c" (intersection ["(a|b)", "c"]),
  reads "%a&b" (intersection ["%a", "b"]),
  reads "(a|b)|(c&d)" (union ["(a|b)", "(c&d)"]),
  reads "A<B|C>|D" (union ["A<B|C>", "D"]),
  reads "f(\"|\")|g" (union ["f(\"|\")", "g"]),
  reads "int[]|null" (union ["int[]", "null"]),
  unwraps "(a|b)|c" (union ["(a|b)", "c"])]

/-- Texts that are no descriptors. -/
def malformedChecks : List Check := List.flatten [
  rejects "" .empty,
  rejects "   " .empty,
  rejects "int(" .unbalanced,
  rejects "int)" .unbalanced,
  rejects "(int" .unbalanced,
  rejects "Foo<int" .unbalanced,
  rejects "Foo<int)" .unbalanced,
  rejects "int[3" .unbalanced,
  rejects "int(\"" .unterminatedQuote,
  rejects "int||float" .emptyOperand,
  rejects "|int" .emptyOperand,
  rejects "int&" .emptyOperand,
  rejects "int&&float" .emptyOperand,
  rejects "()" .emptyOperand,
  rejects "Foo<int,,float>" .emptyOperand,
  rejects "int(1,,2)" .emptyOperand,
  rejects "int(max:1,max:2)" .repeatedKey,
  rejects "int(max:)" .missingValue,
  rejects "int[x]" .badSize,
  rejects "int[1.5]" .badSize,
  rejects "int;" (.unexpected ';'),
  rejects "int;|float" (.unexpected ';'),
  rejects "int|float;" (.unexpected ';'),
  rejects "a&b;c" (.unexpected ';'),
  rejects ";;[3]" (.unexpected ';'),
  rejects "a,b" (.unexpected ','),
  rejects "int|\"x\"" (.unexpected '"'),
  rejects "int[99999999999999999999999]" .badSize,
  rejects "int float" .trailingText,
  rejects "Foo<int>(1)" .trailingText,
  rejects "int(1)(2)" .trailingText,
  rejects "int(\"a\"b)" .trailingText,
  rejects "1int" (.unexpected '1'),
  rejects "[3]" (.unexpected '['),
  rejects "\\\\Foo" (.unexpected '\\'),
  rejects "Foo." .missingName,
  rejects "?" .missingName,
  rejects "u:" .missingName]

/-- Texts that are read more than once. What is rejected once is rejected again. -/
def repetitionChecks : List Check := List.flatten [
  repeats "?Foo(1, k:v)<A|B>",
  repeats "(a)",
  repeats "a&b",
  repeats "int[2]",
  rejects "int||float" .emptyOperand,
  rejects "int||float" .emptyOperand]

/-- Texts in parentheses, which are groups of just these texts. -/
def wrappingChecks : List Check :=
  ["int", "a|b", "Foo<(x)>", "?T(k:\"v\")[]", "(z)"].flatMap fun inner : String =>
    reads ('(' :: inner.toList ++ [')']) (.group inner)

/-- All checks of the notation. -/
def formChecks : List Check :=
  nameChecks ++ flagChecks ++ parameterChecks ++ argumentChecks ++ arrayChecks ++ groupChecks
    ++ operatorChecks ++ malformedChecks ++ repetitionChecks ++ wrappingChecks

end TypeShape.Conformance
