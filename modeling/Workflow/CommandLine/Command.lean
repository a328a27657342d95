import Workflow.Graph.Compile
import Workflow.Text.Basic

set_option autoImplicit false

namespace Workflow.Address

abbrev Skip := List Char → Option (List Char)

def char (c : Char) : Skip
  | d :: rest => if c = d then some rest else none
  | [] => none

def digitValue? (radix : Nat) (c : Char) : Option Nat :=
  (Text.hexValue? c).filter (· < radix)

def number (radix limit : Nat) : Skip := fun s =>
  let digits := (s.takeWhile fun c => (digitValue? radix c).isSome).filterMap (digitValue? radix)
  if !digits.isEmpty && digits.foldl (fun n d => n * radix + d) 0 < limit then
    some (s.drop digits.length)
  else none

def octet : Skip := fun s =>
  match s with
  | '0' :: d :: _ => if d.isDigit then none else number 10 256 s
  | _ => number 10 256 s

def dotted : Skip := fun s => do
  let s ← octet s
  let s ← octet (← char '.' s)
  let s ← octet (← char '.' s)
  octet (← char '.' s)

def group : Skip := fun s =>
  if 4 < (s.takeWhile fun c => (Text.hexValue? c).isSome).length then none
  else number 16 65536 s

-- Groups with colons between them, `room` of them at most; the last two places may be taken by a
-- dotted address. Says how many places are taken, whether by a dotted address, and what follows.
def groups (first : Bool) : Nat → List Char → Nat × Bool × List Char
  | 0, s => (0, false, s)
  | room + 1, s =>
    let start := if first then some s else char ':' s
    match if 0 < room then start.bind dotted else none with
    | some rest => (2, true, rest)
    | none =>
      match start.bind group with
      | some rest =>
        let (taken, isDotted, rest) := groups false room rest
        (taken + 1, isDotted, rest)
      | none => (0, false, s)

def grouped : Skip := fun s =>
  match groups true 8 s with
  | (8, _, rest) => some rest
  | (_, true, _) => none
  | (taken, false, rest) => do
    let rest ← char ':' (← char ':' rest)
    return (groups true (7 - taken) rest).2.2

def zone : Skip := fun s =>
  match s with
  | '%' :: rest => number 10 4294967296 rest
  | _ => some s

def portNumber : Skip := fun s => do number 10 65536 (← char ':' s)

def bracketed : Skip := fun s => do
  let s ← zone (← grouped (← char '[' s))
  char ']' s

def isAddress (s : String) : Bool :=
  ((dotted s.toList).bind portNumber = some []) || ((bracketed s.toList).bind portNumber = some [])

end Workflow.Address

namespace Workflow.CommandLine

structure Grammar where
  options : List String := []
  flags : List String := []

structure Arguments where
  options : List (String × String) := []
  flags : List String := []
  words : List String := []
deriving DecidableEq, Repr

namespace Arguments

def withOption? (name value : String) (found : Arguments) : Option Arguments :=
  if found.options.any (·.1 = name) then none
  else some { found with options := (name, value) :: found.options }

def withFlag? (name : String) (found : Arguments) : Option Arguments :=
  if name ∈ found.flags then none else some { found with flags := name :: found.flags }

def withWord (word : String) (found : Arguments) : Arguments :=
  { found with words := word :: found.words }

end Arguments

def isWord (s : String) : Bool := s = "-" || s.toList.head? ≠ some '-'

def attached? (s : String) : Option (String × String) :=
  match s.toList.dropWhile (· ≠ '=') with
  | [] => none
  | _ :: value => some (String.ofList (s.toList.takeWhile (· ≠ '=')), String.ofList value)

def arguments? (grammar : Grammar) : List String → Option Arguments
  | [] => some {}
  | arg :: rest =>
    if arg = "--" then some { words := rest }
    else if isWord arg then (arguments? grammar rest).map (·.withWord arg)
    else if arg ∈ grammar.flags then (arguments? grammar rest).bind (·.withFlag? arg)
    else if arg ∈ grammar.options then
      match rest with
      | value :: rest =>
        if isWord value then (arguments? grammar rest).bind (·.withOption? arg value) else none
      | [] => none
    else
      match attached? arg with
      | some (name, value) =>
        if name ∈ grammar.options then (arguments? grammar rest).bind (·.withOption? name value)
        else none
      | none => none

def integer? (s : String) : Option Int :=
  let (negative, digits) := match s.toList with
    | '-' :: rest => (true, rest)
    | '+' :: rest => (false, rest)
    | digits => (false, digits)
  if digits.isEmpty || !digits.all Char.isDigit then none
  else
    let n : Int := digits.foldl (fun n c => n * 10 + (c.toNat - '0'.toNat)) 0
    some (if negative then -n else n)

def boundedBy (limit : Nat) (i : Int) : Option Nat :=
  if 0 ≤ i ∧ i < limit then some i.toNat else none

structure ServeOptions where
  bind : String := "0.0.0.0:8080"
  databaseUrl : Option String := none
  maxConnections : Nat := 10
  directory : Option String := none
  config : Config := {}
deriving DecidableEq

inductive Command where
  | serve (options : ServeOptions)
  | migrate (databaseUrl : String)
  | validate (path : String)
  | compile (path : String) (config : Config)
deriving DecidableEq

def Arguments.value {α : Type} (found : Arguments) (name : String) (default : α)
    (read? : String → Option α) : Option α :=
  match found.options.lookup name with
  | some text => read? text
  | none => some default

def path? (s : String) : Option String := if s = "" then none else some s

def natural? (s : String) : Option Nat :=
  if s.toList.head? = some '-' then none else (integer? s).bind (boundedBy 18446744073709551616)

def connections? (s : String) : Option Nat := (integer? s).bind (boundedBy 4294967296)

def address? (s : String) : Option String := if Address.isAddress s then some s else none

def Arguments.config? (found : Arguments) : Option Config := do
  let maxFanOut ← found.value "--max-fan-out" 64 natural?
  return { autoLinearize := !found.flags.contains "--no-auto-linearize", maxFanOut }

def tuning : Grammar := { options := ["--max-fan-out"], flags := ["--no-auto-linearize"] }

def serving : Grammar :=
  { tuning with
    options :=
      ["--bind", "--database-url", "--max-connections", "--directory"] ++ tuning.options }

def Command.ofArgs? : List String → Option Command
  | "serve" :: args => do
    let found ← arguments? serving args
    if !found.words.isEmpty then none
    else
      let bind ← found.value "--bind" "0.0.0.0:8080" address?
      let databaseUrl ← found.value "--database-url" none fun url => some (some url)
      let maxConnections ← found.value "--max-connections" 10 connections?
      let directory ← found.value "--directory" none fun path => (path? path).map some
      let config ← found.config?
      return .serve { bind, databaseUrl, maxConnections, directory, config }
  | "migrate" :: args => do
    let found ← arguments? { options := ["--database-url"] } args
    match found.words, found.options.lookup "--database-url" with
    | [], some url => return .migrate url
    | _, _ => none
  | "validate" :: args => do
    let found ← arguments? {} args
    match found.words with
    | [path] => return .validate (← path? path)
    | _ => none
  | "compile" :: args => do
    let found ← arguments? tuning args
    match found.words with
    | [path] => return .compile (← path? path) (← found.config?)
    | _ => none
  | _ => none

def Command.file? : Command → Option String
  | .serve options => options.directory
  | .migrate _ => none
  | .validate path => some path
  | .compile path _ => some path

end Workflow.CommandLine
