import Workflow.Graph.Basic
import Workflow.Graph.Validation

/-!
The visit by counters and the depth-first search by frames, one step at a time. Nothing here keeps a
counter from falling below zero, an id from joining the queue twice, or the sets of the search in step
with its frames; that is for theory to show.
-/

set_option autoImplicit false

namespace Workflow

structure Traversal where
  counter : String → Int
  queue : List String
  -- Targets of the id taken last whose counters are still to be lowered.
  pending : List String := []
  taken : List String := []

namespace Traversal

def joined (traversal : Traversal) : List String := traversal.taken ++ traversal.queue

def lower (traversal : Traversal) (target : String) (rest : List String) : Traversal :=
  let left := traversal.counter target - 1
  { traversal with
    counter := fun id => if id = target then left else traversal.counter id
    queue := if left = 0 then traversal.queue ++ [target] else traversal.queue
    pending := rest }

def take (traversal : Traversal) (arcs : List Arc) (id : String) (rest : List String) : Traversal :=
  { traversal with
    queue := rest
    pending := successors arcs id
    taken := traversal.taken ++ [id] }

def next? (arcs : List Arc) (traversal : Traversal) : Option Traversal :=
  match traversal.pending, traversal.queue with
  | target :: rest, _ => some (traversal.lower target rest)
  | [], id :: rest => some (traversal.take arcs id rest)
  | [], [] => none

end Traversal

def Graph.outset (graph : Graph) : Traversal :=
  { counter := fun id => (sources graph.arcs id).length
    queue := (graph.ofKind .start).map Node.id }

structure Adjacency where
  entries : List (String × List String)
  distinct : (entries.map (·.1)).Nodup

namespace Adjacency

def targets (adjacency : Adjacency) (id : String) : List String :=
  ((adjacency.entries.find? (·.1 = id)).map (·.2)).getD []

def arcs (adjacency : Adjacency) : List Arc :=
  adjacency.entries.flatMap fun entry => entry.2.map fun target => (entry.1, target)

end Adjacency

structure Frame where
  id : String
  cursor : Nat
deriving DecidableEq, Repr

structure Descent where
  roots : List String
  visited : List String := []
  onPath : List String := []
  found : List String := []
  -- The frame of the id met last comes first.
  frames : List Frame := []
deriving DecidableEq, Repr

namespace Descent

def visit (descent : Descent) (id : String) : Descent :=
  if id ∈ descent.visited then descent
  else
    { descent with
      visited := descent.visited.insert id
      onPath := descent.onPath.insert id
      frames := ⟨id, 0⟩ :: descent.frames }

def follow (descent : Descent) (target : String) : Descent :=
  if target ∈ descent.onPath then { descent with found := reported descent.found target }
  else descent.visit target

def leave (descent : Descent) (id : String) (outer : List Frame) : Descent :=
  { descent with onPath := descent.onPath.erase id, frames := outer }

def next? (adjacency : Adjacency) (descent : Descent) : Option Descent :=
  match descent.frames, descent.roots with
  | ⟨id, cursor⟩ :: outer, _ =>
    match (adjacency.targets id)[cursor]? with
    | some target => some ({ descent with frames := ⟨id, cursor + 1⟩ :: outer }.follow target)
    | none => some (descent.leave id outer)
  | [], root :: rest => some ({ descent with roots := rest }.visit root)
  | [], [] => none

def after? (adjacency : Adjacency) (descent : Descent) : Nat → Option Descent
  | 0 => some descent
  | count + 1 => (descent.after? adjacency count).bind (next? adjacency)

end Descent

end Workflow
