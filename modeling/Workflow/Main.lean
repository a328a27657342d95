import Workflow.CommandLine.Execution
import Workflow.CommandLine.Help

set_option autoImplicit false

open Workflow.CommandLine

def readText (path : String) : IO (Option String) := do
  try
    return some (← IO.FS.readFile path)
  catch _ => return none

def main (args : List String) : IO UInt32 := do
  match Invocation.ofArgs? args with
  | none =>
    IO.eprint (printed overview)
    return usageExitCode.toUInt32
  | some (.inform lines) =>
    IO.print (printed lines)
    return 0
  | some (.perform command) =>
    let text ← match command.file? with
      | some path => readText path
      | none => pure none
    let surroundings : Surroundings :=
      { file? := fun path => if command.file? = some path then text else none
        database? := fun _ => none }
    let (outcome, _) := run surroundings command
    IO.print outcome.output
    IO.eprint outcome.complaint
    return outcome.exitCode.toUInt32
