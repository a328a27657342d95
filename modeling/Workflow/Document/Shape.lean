import Workflow.Json.Reader
import Workflow.Time.Rfc3339
import Workflow.Uuid

set_option autoImplicit false

namespace Workflow

open Json (Outline Problem Reading)

structure Shape (α : Type) where
  write : α → Json
  read : Nat → Outline → Reading α

namespace Shape

def unexpected : Outline → Problem
  | .unreadable => .malformed
  | .broken => .malformed
  | _ => .misshapen

def accept {α : Type} : Option α → Reading α
  | some a => .ok a
  | none => .error .misshapen

def text : Shape String where
  write := .text
  read _
    | .text s => .ok s
    | o => .error (unexpected o)

def parsed {α : Type} (render : α → String) (parse? : String → Option α) : Shape α where
  write a := .text (render a)
  read _
    | .text s => accept (parse? s)
    | o => .error (unexpected o)

def uuid : Shape Uuid := parsed Uuid.render Uuid.parse?

def time : Shape Instant := parsed Instant.render Instant.parse?

def boolean : Shape Bool where
  write := .bool
  read _
    | .bool b => .ok b
    | o => .error (unexpected o)

def word32 : Shape Nat where
  write n := .int n
  read _
    | .int i => accept (if 0 ≤ i ∧ i < 4294967296 then some i.toNat else none)
    | o => .error (unexpected o)

def double : Shape Double where
  write := .real
  read _
    | .real x => .ok x
    | .int i => .ok (Double.ofInt i)
    | o => .error (unexpected o)

def any : Shape Json where
  write := id
  read room o :=
    match (o.json? room).bind (Json.expand? Json.parse?) with
    | some json => .ok json.settled
    | none => .error .malformed

def optional {α : Type} (shape : Shape α) : Shape (Option α) where
  write a := a.elim .null shape.write
  read room
    | .null => .ok none
    | o => do return some (← shape.read room o)

def readItems {α : Type} (read : Outline → Reading α) : List Outline → Reading (List α)
  | [] => .ok []
  | item :: rest => do
    let first ← read item
    let others ← readItems read rest
    return first :: others

def listOf {α : Type} (shape : Shape α) : Shape (List α) where
  write as := .list (as.map shape.write)
  read room
    | .list items closed =>
      match room with
      | 0 => .error .malformed
      | room + 1 => do
        let as ← readItems (shape.read room) items
        if closed then return as else .error .malformed
    | o => .error (unexpected o)

-- One of a few words. The word may also stand as the only key of an object, over null; any value
-- but a text or an object is as bad as broken text.
def word {α : Type} (name : α → String) (ofName? : String → Option α) : Shape α where
  write a := .text (name a)
  read room
    | .text s => accept (ofName? s)
    | .record members closed =>
      match room, members with
      | _ + 1, (some key, value) :: rest => do
        let a ← accept (ofName? key)
        match value with
        | .null => if rest.isEmpty && closed then return a else .error .malformed
        | o => .error (unexpected o)
      | _, _ => .error .malformed
    | _ => .error .malformed

-- The value that a document stands for. Only a text can be nested too deeply.
def decode {α : Type} (shape : Shape α) (document : Json) : Reading α :=
  shape.read document.depth document.outline

def parse? {α : Type} (shape : Shape α) (s : String) : Option α :=
  match Json.outlineOf s with
  | (outline, true) => (shape.read Json.depthLimit outline).toOption
  | _ => none

end Shape

end Workflow
