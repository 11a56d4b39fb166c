import TypeShape.Outline

/-!
# Command line

Prints the report for the descriptors given as arguments.
-/

/-- Prints the report, a line for each of its lines. -/
def main (args : List String) : IO Unit := do
  for line in TypeShape.Outline.report (args.map String.toList) do
    IO.println (String.ofList line)
