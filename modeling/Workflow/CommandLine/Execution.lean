import Workflow.CommandLine.Command
import Workflow.Document.Run
import Workflow.Document.Template
import Workflow.Json.Basic
import Workflow.Store.Tables

/-!
What the commands do. A server needs its database, its directory and its address, in this order; no
surroundings known here leave an address free, so serving ends there at the latest.
-/

set_option autoImplicit false

namespace Workflow.CommandLine

structure Surroundings where
  file? : String → Option String
  database? : String → Option Tables

inductive Fault where
  | noDatabase
  | migrationFailed
  | noFile (path : String)
  | noGraph (path : String)
  | noDirectoryFile (path : String)
  | noDirectory (path : String)
  | notServing
deriving DecidableEq

def Fault.message : Fault → String
  | .noDatabase => "failed to connect to database"
  | .migrationFailed => "migration failed"
  | .noFile path => s!"cannot read file {path}"
  | .noGraph path => s!"invalid graph JSON in {path}"
  | .noDirectoryFile path => s!"cannot read directory file {path}"
  | .noDirectory path => s!"invalid directory JSON in {path}"
  | .notServing => "API server failed"

inductive Outcome where
  | done (text : String)
  | refused (text : String)
  | failed (fault : Fault)
deriving DecidableEq

namespace Outcome

def exitCode : Outcome → Nat
  | .done _ => 0
  | _ => 1

def output : Outcome → String
  | .done text => text
  | _ => ""

def complaint : Outcome → String
  | .done _ => ""
  | .refused text => text
  | .failed fault => s!"Error: {fault.message}\n"

end Outcome

def usageExitCode : Nat := 2

variable (surroundings : Surroundings)

def readGraph (path : String) : Except Fault Graph :=
  match surroundings.file? path with
  | none => .error (.noFile path)
  | some text =>
    match Graph.record.shape.parse? text with
    | some graph => .ok graph
    | none => .error (.noGraph path)

def readDirectory (path : String) : Except Fault Directory :=
  match surroundings.file? path with
  | none => .error (.noDirectoryFile path)
  | some text =>
    match (Shape.listOf User.record.shape).parse? text with
    | some users => .ok (.listed users)
    | none => .error (.noDirectory path)

def connect (url : String) (connections : Nat) : Except Fault Tables :=
  match connections, surroundings.database? url with
  | 0, _ => .error .noDatabase
  | _, some tables => .ok tables
  | _, none => .error .noDatabase

def serve (options : ServeOptions) : Except Fault Unit := do
  match options.databaseUrl with
  | some url => let _ ← connect surroundings url options.maxConnections
  | none => pure ()
  match options.directory with
  | some path => let _ ← readDirectory surroundings path
  | none => pure ()
  throw .notServing

def validate (graph : Graph) : Outcome :=
  match graph.violations with
  | [] => .done s!"✅ Graph is valid: {graph.tasks.length} tasks.\n"
  | violations =>
    .refused ("❌ Validation failed:\n" ++
      String.join (violations.map fun violation => s!"  - {violation.message}\n"))

def compile (graph : Graph) (config : Config) : Outcome :=
  match graph.compileWith config with
  | .ok compiled => .done ((Shape.taskTemplates.write compiled.tasks).laidOut 0 ++ "\n")
  | .error error => .refused s!"❌ {error.message}\n"

def run : Command → Outcome × Option Tables
  | .serve options =>
    (match serve surroundings options with
      | .ok () => .done ""
      | .error fault => .failed fault,
      options.databaseUrl.bind surroundings.database?)
  | .migrate url =>
    match connect surroundings url 2 with
    | .error fault => (.failed fault, none)
    | .ok tables =>
      match Tables.migrate.run tables with
      | (.ok _, tables) => (.done "", some tables)
      | (.error _, tables) => (.failed .migrationFailed, some tables)
  | .validate path =>
    (match readGraph surroundings path with
      | .ok graph => validate graph
      | .error fault => .failed fault, none)
  | .compile path config =>
    (match readGraph surroundings path with
      | .ok graph => compile graph config
      | .error fault => .failed fault, none)

end Workflow.CommandLine
