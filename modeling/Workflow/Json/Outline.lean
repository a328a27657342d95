import Workflow.Json.Basic

/-!
The outline of a text that should be JSON: its value as far as the text is well formed, with marks
where it is not. Reading a value off an outline meets its problems in the order of the text, and a
part that nobody reads only has to be well formed.
-/

set_option autoImplicit false

namespace Workflow.Json

inductive Outline where
  | null
  | bool (value : Bool)
  | int (value : Int)
  | real (value : Double)
  | text (value : String)
  -- A number beyond the largest double, or a text with half of a surrogate pair.
  | unreadable
  | list (items : List Outline) (closed : Bool)
  -- A key with half of a surrogate pair is `none`.
  | record (members : List (Option String × Outline)) (closed : Bool)
  | broken

inductive Problem where
  | malformed
  | misshapen
deriving DecidableEq, Repr

abbrev Reading (α : Type) := Except Problem α

def depthLimit : Nat := 127

mutual

def outline : Json → Outline
  | .null => .null
  | .bool b => .bool b
  | .int i => .int i
  | .real x => .real x
  | .text s => .text s
  | .list items => .list (outlineItems items) true
  | .record members => .record (outlineMembers members) true

def outlineItems : List Json → List Outline
  | [] => []
  | item :: rest => item.outline :: outlineItems rest

def outlineMembers : List (String × Json) → List (Option String × Outline)
  | [] => []
  | (key, value) :: rest => (some key, value.outline) :: outlineMembers rest

end

namespace Outline

mutual

def whole : Outline → Bool
  | .list items closed => wholeItems items && closed
  | .record members closed => wholeMembers members && closed
  | .broken => false
  | _ => true

def wholeItems : List Outline → Bool
  | [] => true
  | item :: rest => item.whole && wholeItems rest

def wholeMembers : List (Option String × Outline) → Bool
  | [] => true
  | (_, value) :: rest => value.whole && wholeMembers rest

end

mutual

def json? (room : Nat) : Outline → Option Json
  | .null => some .null
  | .bool b => some (.bool b)
  | .int i => some (.int i)
  | .real x => some (.real x)
  | .text s => some (.text s)
  | .unreadable => none
  | .broken => none
  | .list items closed =>
    match room, closed with
    | room + 1, true => (jsonItems? room items).map .list
    | _, _ => none
  | .record members closed =>
    match room, closed with
    | room + 1, true => (jsonMembers? room members).map .record
    | _, _ => none

def jsonItems? (room : Nat) : List Outline → Option (List Json)
  | [] => some []
  | item :: rest => do
    let first ← item.json? room
    let others ← jsonItems? room rest
    return first :: others

def jsonMembers? (room : Nat) : List (Option String × Outline) → Option (List (String × Json))
  | [] => some []
  | (key, value) :: rest => do
    let key ← key
    let first ← value.json? room
    let others ← jsonMembers? room rest
    return (key, first) :: others

end

end Outline

end Workflow.Json
