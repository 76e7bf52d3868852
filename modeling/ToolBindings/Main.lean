import ToolBindings.CommandLine.Description

/-!
# The program

Runs its arguments as a command line on the workspace that standard input describes, and describes
on standard output what comes of it.
-/

open ToolBindings

/-- Runs the arguments; input that is no description is refused like a wrong command line. -/
def main (arguments : List String) : IO UInt32 := do
  let input ← (← IO.getStdin).readToEnd
  match Json.read? input with
  | some (.map fields) =>
    let description := CommandLine.Description.ofJson (.map fields)
    let (exit, result) := description.run arguments
    IO.println (Json.print .indented result)
    return exit.toUInt32
  | _ =>
    IO.eprintln "The workspace on standard input is no JSON object."
    return 2
