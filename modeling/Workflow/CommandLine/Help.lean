import Workflow.CommandLine.Command

set_option autoImplicit false

namespace Workflow.CommandLine

structure Topic where
  name : String
  needed : List String
  lines : List String

def overview : List String :=
  ["Process template compiler and instance execution engine",
    "",
    "Usage: process-engine <COMMAND>",
    "",
    "Commands:",
    "  serve     Start the REST API server",
    "  migrate   Run pending database migrations",
    "  validate  Validate a process graph JSON file",
    "  compile   Compile a process graph JSON file and print the task templates",
    "  help      Print this message or the help of the given subcommand(s)",
    "",
    "Options:",
    "  -h, --help     Print help",
    "  -V, --version  Print version"]

def Topic.serve : Topic where
  name := "serve"
  needed := []
  lines :=
    ["Start the REST API server",
      "",
      "Usage: process-engine serve [OPTIONS]",
      "",
      "Options:",
      "      --bind <BIND>",
      "          [default: 0.0.0.0:8080]",
      "      --database-url <DATABASE_URL>",
      "          Postgres URL. Without one, state lives in memory only [env: DATABASE_URL=]",
      "      --max-connections <MAX_CONNECTIONS>",
      "          [default: 10]",
      "      --directory <DIRECTORY>",
      "          JSON file with an array of `\x7bid, name, organization?\x7d` users",
      "      --max-fan-out <MAX_FAN_OUT>",
      "          Maximum task instances per template at start [default: 64]",
      "      --no-auto-linearize",
      "          Do not chain edge-less graphs automatically",
      "  -h, --help",
      "          Print help"]

def Topic.migrate : Topic where
  name := "migrate"
  needed := ["--database-url="]
  lines :=
    ["Run pending database migrations",
      "",
      "Usage: process-engine migrate --database-url <DATABASE_URL>",
      "",
      "Options:",
      "      --database-url <DATABASE_URL>  [env: DATABASE_URL=]",
      "  -h, --help                         Print help"]

def Topic.validate : Topic where
  name := "validate"
  needed := ["-"]
  lines :=
    ["Validate a process graph JSON file",
      "",
      "Usage: process-engine validate <PATH>",
      "",
      "Arguments:",
      "  <PATH>  Path to the graph JSON file",
      "",
      "Options:",
      "  -h, --help  Print help"]

def Topic.compile : Topic where
  name := "compile"
  needed := ["-"]
  lines :=
    ["Compile a process graph JSON file and print the task templates",
      "",
      "Usage: process-engine compile [OPTIONS] <PATH>",
      "",
      "Arguments:",
      "  <PATH>  ",
      "",
      "Options:",
      "      --max-fan-out <MAX_FAN_OUT>  Maximum task instances per template at start [default: 64]",
      "      --no-auto-linearize          Do not chain edge-less graphs automatically",
      "  -h, --help                       Print help"]

def topics : List Topic := [.serve, .migrate, .validate, .compile]

def aboutHelp : List String :=
  ["Print this message or the help of the given subcommand(s)",
    "",
    "Usage: process-engine help [COMMAND]...",
    "",
    "Arguments:",
    "  [COMMAND]...  Print help for the subcommand(s)"]

def version : List String := ["process-engine 0.1.0"]

def helpOn? : List String → Option (List String)
  | [] => some overview
  | ["help"] => some aboutHelp
  | [name] => (topics.find? (·.name = name)).map (·.lines)
  | _ => none

def asksForHelp (arg : String) : Bool := arg = "--help" || arg.startsWith "-h"

def asksForVersion (arg : String) : Bool := arg = "--version" || arg.startsWith "-V"

def beforeHelp? : List String → Option (List String)
  | [] => none
  | arg :: rest =>
    if arg = "--" then none
    else if asksForHelp arg then some []
    else (beforeHelp? rest).map (arg :: ·)

def Topic.admits (topic : Topic) (args : List String) : Bool :=
  [args, args ++ topic.needed].any fun args => (Command.ofArgs? (topic.name :: args)).isSome

inductive Invocation where
  | perform (command : Command)
  | inform (lines : List String)
deriving DecidableEq

def Invocation.ofArgs? : List String → Option Invocation
  | [] => none
  | name :: args =>
    if name = "help" then (helpOn? args).map .inform
    else if asksForHelp name then some (.inform overview)
    else if asksForVersion name then some (.inform version)
    else
      match beforeHelp? args, topics.find? (·.name = name) with
      | some before, some topic => if topic.admits before then some (.inform topic.lines) else none
      | _, _ => (Command.ofArgs? (name :: args)).map .perform

def printed (lines : List String) : String := String.join (lines.map (· ++ "\n"))

end Workflow.CommandLine
