set_option autoImplicit false

namespace Workflow

inductive Side where
  | source
  | target
deriving DecidableEq, Repr

def Side.name : Side → String
  | .source => "source"
  | .target => "target"

def maxDeadlineOffset : Nat := 36500

inductive Violation where
  | noStart
  | manyStarts (count : Nat)
  | repeatedNode (id : String)
  | repeatedEdge (id : String)
  | dangling (edge node : String) (side : Side)
  | unreachable (id : String)
  | cycle (id : String)
  | noBranch (id : String)
  | farDeadline (id : String) (days : Nat)
deriving DecidableEq, Repr

namespace Violation

def message : Violation → String
  | .noStart => "graph has no start node"
  | .manyStarts count => s!"graph has {count} start nodes, expected exactly one"
  | .repeatedNode id => s!"duplicate node ID: '{id}'"
  | .repeatedEdge id => s!"duplicate edge ID: '{id}'"
  | .dangling edge node side =>
    s!"edge '{edge}' references unknown node '{node}' ({side.name} side)"
  | .unreachable id => s!"node '{id}' is not reachable from the start node"
  | .cycle id => s!"cycle detected at node '{id}'"
  | .noBranch id => s!"exclusive gateway '{id}' has no outgoing edge"
  | .farDeadline id days =>
    s!"task '{id}' has a deadline offset of {days} days, the limit is {maxDeadlineOffset}"

def ofCycle : Violation → Bool
  | .cycle _ => true
  | _ => false

def ofOffset (id : String) (days : Option Nat) : List Violation :=
  match days with
  | some days => if maxDeadlineOffset < days then [.farDeadline id days] else []
  | none => []

end Violation

def repeatsAfter (seen : List String) : List String → List String
  | [] => []
  | id :: rest => if id ∈ seen then id :: repeatsAfter seen rest else repeatsAfter (id :: seen) rest

def repeats (ids : List String) : List String := repeatsAfter [] ids

end Workflow
