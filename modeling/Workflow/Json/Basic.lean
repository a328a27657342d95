import Workflow.Number.Double
import Workflow.Text.Basic

set_option autoImplicit false

namespace Workflow

inductive Json where
  | null
  | bool (value : Bool)
  | int (value : Int)
  | real (value : Double)
  | text (value : String)
  | list (items : List Json)
  | record (members : List (String × Json))

namespace Json

def member? (key : String) : Json → Option Json
  | .record members => (members.reverse.lookup key)
  | _ => none

def putMember (key : String) (value : Json) : List (String × Json) → List (String × Json)
  | [] => [(key, value)]
  | first :: rest =>
    if key = first.1 then (key, value) :: rest
    else if key < first.1 then (key, value) :: first :: rest
    else first :: putMember key value rest

mutual

def depth : Json → Nat
  | .list items => depthItems items + 1
  | .record members => depthMembers members + 1
  | _ => 0

def depthItems : List Json → Nat
  | [] => 0
  | item :: rest => max item.depth (depthItems rest)

def depthMembers : List (String × Json) → Nat
  | [] => 0
  | (_, value) :: rest => max value.depth (depthMembers rest)

end

mutual

-- Every key once, over the last value written under it, and the keys in increasing order.
def settled : Json → Json
  | .list items => .list (settledItems items)
  | .record members => .record (settledMembers members [])
  | json => json

def settledItems : List Json → List Json
  | [] => []
  | item :: rest => item.settled :: settledItems rest

def settledMembers : List (String × Json) → List (String × Json) → List (String × Json)
  | [], done => done
  | (key, value) :: rest, done => settledMembers rest (putMember key value.settled done)

end

def escaped (c : Char) : List Char :=
  match c with
  | '"' => ['\\', '"']
  | '\\' => ['\\', '\\']
  | '\n' => ['\\', 'n']
  | '\r' => ['\\', 'r']
  | '\t' => ['\\', 't']
  | '\x08' => ['\\', 'b']
  | '\x0c' => ['\\', 'f']
  | c =>
    if c.toNat < 0x20 then ['\\', 'u', '0', '0', Text.hexDigit (c.toNat / 16), Text.hexDigit c.toNat]
    else [c]

def quoted (s : String) : String := String.ofList ('"' :: s.toList.flatMap escaped ++ ['"'])

mutual

def compact : Json → String
  | .null => "null"
  | .bool b => if b then "true" else "false"
  | .int i => toString i
  | .real x => x.render
  | .text s => quoted s
  | .list items => "[" ++ ",".intercalate (compactItems items) ++ "]"
  | .record members => "\x7b" ++ ",".intercalate (compactMembers members) ++ "\x7d"

def compactItems : List Json → List String
  | [] => []
  | item :: rest => item.compact :: compactItems rest

def compactMembers : List (String × Json) → List String
  | [] => []
  | (key, value) :: rest => (quoted key ++ ":" ++ value.compact) :: compactMembers rest

end

def indent (depth : Nat) : String := "\n" ++ String.ofList (List.replicate (2 * depth) ' ')

def enclosed (depth : Nat) (start stop : String) (parts : List String) : String :=
  if parts.isEmpty then start ++ stop
  else
    start ++ indent (depth + 1) ++ ("," ++ indent (depth + 1)).intercalate parts ++
      indent depth ++ stop

mutual

def laidOut (depth : Nat) : Json → String
  | .list items => enclosed depth "[" "]" (laidOutItems (depth + 1) items)
  | .record members => enclosed depth "\x7b" "\x7d" (laidOutMembers (depth + 1) members)
  | json => json.compact

def laidOutItems (depth : Nat) : List Json → List String
  | [] => []
  | item :: rest => item.laidOut depth :: laidOutItems depth rest

def laidOutMembers (depth : Nat) : List (String × Json) → List String
  | [] => []
  | (key, value) :: rest =>
    (quoted key ++ ": " ++ value.laidOut depth) :: laidOutMembers depth rest

end

end Json

end Workflow
