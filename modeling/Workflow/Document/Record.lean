import Workflow.Document.Shape

/-!
Objects with named fields. A record lists its fields in order; each says how it is written, what
stands for it when it is missing, and how it is read. An object is read in the order of its text, so
the first problem met is the one reported; an array holds the fields in the order of the record.
-/

set_option autoImplicit false

namespace Workflow

open Json (Outline Problem Reading)

abbrev Member := Option String × Outline

structure Record (ρ α : Type) where
  write : ρ → List (String × Json)
  checks : List (String × (Nat → Outline → Reading Unit))
  gather : Nat → (String → Option Outline) → Reading α
  take : Nat → List Outline → Bool → Reading (α × List Outline)

namespace Record

structure Absence (β : Type) where
  inObject : Option β
  inArray : Option β
  unwritten : β → Bool

def field {ρ β : Type} (key : String) (get : ρ → β) (shape : Shape β) (absence : Absence β) :
    Record ρ β where
  write r := if absence.unwritten (get r) then [] else [(key, shape.write (get r))]
  checks := [(key, fun room o => (shape.read room o).map fun _ => ())]
  gather room members :=
    match members key with
    | some o => shape.read room o
    | none => Shape.accept absence.inObject
  take room items closed :=
    match items with
    | o :: rest => do return (← shape.read room o, rest)
    | [] =>
      if closed then (Shape.accept absence.inArray).map fun b => (b, [])
      else .error .malformed

def required {ρ β : Type} (key : String) (get : ρ → β) (shape : Shape β) : Record ρ β :=
  field key get shape ⟨none, none, fun _ => false⟩

-- Missing stands for the default; null does not.
def withDefault {ρ β : Type} (default : β) (key : String) (get : ρ → β) (shape : Shape β) :
    Record ρ β :=
  field key get shape ⟨some default, some default, fun _ => false⟩

def optional {ρ β : Type} (key : String) (get : ρ → Option β) (shape : Shape β) :
    Record ρ (Option β) :=
  field key get shape.optional ⟨some none, some none, Option.isNone⟩

def nullable {ρ β : Type} (key : String) (get : ρ → Option β) (shape : Shape β) :
    Record ρ (Option β) :=
  field key get shape.optional ⟨some none, some none, fun _ => false⟩

def nullableInArray {ρ β : Type} (key : String) (get : ρ → Option β) (shape : Shape β) :
    Record ρ (Option β) :=
  field key get shape.optional ⟨some none, none, fun _ => false⟩

instance {ρ : Type} : Applicative (Record ρ) where
  pure a :=
    { write := fun _ => []
      checks := []
      gather := fun _ _ => .ok a
      take := fun _ items _ => .ok (a, items) }
  seq f x :=
    { write := fun r => f.write r ++ (x ()).write r
      checks := f.checks ++ (x ()).checks
      gather := fun room members => do
        let g ← f.gather room members
        let a ← (x ()).gather room members
        return g a
      take := fun room items closed => do
        let (g, items) ← f.take room items closed
        let (a, items) ← (x ()).take room items closed
        return (g a, items) }

-- The members in order: a known key comes at most once and over a value of its shape, and the value
-- of any other key is well formed.
def scan (checks : List (String × (Nat → Outline → Reading Unit))) (room : Nat) :
    List String → List Member → Reading Unit
  | _, [] => .ok ()
  | _, (none, _) :: _ => .error .malformed
  | seen, (some key, value) :: rest =>
    match checks.lookup key with
    | none => if value.whole then scan checks room seen rest else .error .malformed
    | some check =>
      if key ∈ seen then .error .misshapen
      else do
        check room value
        scan checks room (key :: seen) rest

def find? (members : List Member) (key : String) : Option Outline := members.lookup (some key)

def readInside {ρ α : Type} (record : Record ρ α) (room : Nat) : Outline → Reading α
  | .record members closed => do
    scan record.checks room [] members
    if closed then record.gather room (find? members) else .error .malformed
  | .list items closed => do
    let (a, rest) ← record.take room items closed
    if rest.isEmpty && closed then return a else .error .malformed
  | o => .error (Shape.unexpected o)

def shape {α : Type} (record : Record α α) : Shape α where
  write a := .record (record.write a)
  read room o :=
    match room, o with
    | 0, .record _ _ => .error .malformed
    | 0, .list _ _ => .error .malformed
    | room, o => record.readInside (room - 1) o

end Record

end Workflow
