import Workflow.Graph.Basic
import Workflow.Graph.Violation

/-!
Searches along arcs. Both keep the list of ids that were not met yet, which only shrinks; the
depth-first search reports every id that an arc re-enters while the id is still on the path, and
the breadth-first search lists what can be reached.
-/

set_option autoImplicit false

namespace Workflow

-- An id on the current path, with the targets still to follow from it.
structure Step where
  id : String
  pending : List String

def weight : List Step → Nat
  | [] => 0
  | step :: outer => step.pending.length + 1 + weight outer

def reported (found : List String) (id : String) : List String :=
  if id ∈ found then found else found ++ [id]

-- Follows the path to its end: what is left unmet, and the ids re-entered so far.
def walk (arcs : List Arc) (unmet found : List String) : List Step → List String × List String
  | [] => (unmet, found)
  | ⟨_, []⟩ :: outer => walk arcs unmet found outer
  | ⟨id, next :: rest⟩ :: outer =>
    if next = id ∨ next ∈ outer.map Step.id then
      walk arcs unmet (reported found next) (⟨id, rest⟩ :: outer)
    else if next ∈ unmet then
      walk arcs (unmet.erase next) found (⟨next, successors arcs next⟩ :: ⟨id, rest⟩ :: outer)
    else walk arcs unmet found (⟨id, rest⟩ :: outer)
termination_by path => (unmet.length, weight path)
decreasing_by
  · apply Prod.Lex.right
    simp [weight]
  · apply Prod.Lex.right
    simp [weight]
  · rename_i member
    apply Prod.Lex.left
    have := List.length_pos_of_mem member
    rw [List.length_erase_of_mem member]
    omega
  · apply Prod.Lex.right
    simp [weight]

def walkFrom (arcs : List Arc) (unmet found : List String) : List String → List String
  | [] => found
  | root :: rest =>
    if root ∈ unmet then
      let (unmet, found) := walk arcs (unmet.erase root) found [⟨root, successors arcs root⟩]
      walkFrom arcs unmet found rest
    else walkFrom arcs unmet found rest

def findCycles (roots : List String) (arcs : List Arc) : List String :=
  walkFrom arcs (roots ++ arcs.map (·.2)).eraseDups [] roots

def enqueue (unmet queue : List String) : List String → List String × List String
  | [] => (unmet, queue)
  | target :: rest =>
    if target ∈ unmet then enqueue (unmet.erase target) (queue ++ [target]) rest
    else enqueue unmet queue rest

theorem length_enqueue (unmet queue targets : List String) :
    (enqueue unmet queue targets).1.length + (enqueue unmet queue targets).2.length =
      unmet.length + queue.length := by
  induction targets generalizing unmet queue with
  | nil => rfl
  | cons target rest ih =>
    rw [enqueue]
    split
    · rename_i member
      have := List.length_pos_of_mem member
      rw [ih, List.length_erase_of_mem member]
      simp
      omega
    · exact ih unmet queue

def reach (arcs : List Arc) (unmet : List String) : List String → List String
  | [] => []
  | id :: queue =>
    let next := enqueue unmet queue (successors arcs id)
    id :: reach arcs next.1 next.2
termination_by queue => unmet.length + queue.length
decreasing_by
  rw [length_enqueue]
  simp

def reachable (arcs : List Arc) (id : String) : List String :=
  reach arcs (((arcs.map (·.2)).eraseDups).erase id) [id]

end Workflow

namespace Workflow.Graph

def soundArcs (graph : Graph) : List Arc :=
  graph.arcs.filter fun arc => arc.1 ∈ graph.ids && arc.2 ∈ graph.ids

def startViolations (graph : Graph) : List Violation :=
  match (graph.ofKind .start).length with
  | 0 => [.noStart]
  | 1 => []
  | count => [.manyStarts count]

def danglingEnds (graph : Graph) (edge : Edge) : List Violation :=
  (if edge.source ∈ graph.ids then [] else [.dangling edge.id edge.source .source]) ++
    (if edge.target ∈ graph.ids then [] else [.dangling edge.id edge.target .target])

def branchViolations (graph : Graph) : List Violation :=
  ((graph.ofKind .exclusive).filter fun node => (successors graph.soundArcs node.id).isEmpty).map
    fun node => .noBranch node.id

-- Judged only when it is clear where to start.
def unreachable (graph : Graph) : List String :=
  match graph.ofKind .start with
  | [start] =>
    let reached := reachable graph.soundArcs start.id
    ((graph.nodes.filter fun node => node.kind ≠ .start && node.id ∉ reached).map
      Node.id).eraseDups
  | _ => []

def violations (graph : Graph) : List Violation :=
  (repeats graph.ids).map .repeatedNode ++
  (repeats (graph.edges.map Edge.id)).map .repeatedEdge ++
  graph.startViolations ++
  graph.edges.flatMap graph.danglingEnds ++
  graph.branchViolations ++
  (findCycles graph.ids graph.soundArcs).map .cycle ++
  graph.unreachable.map .unreachable ++
  graph.nodes.flatMap fun node => Violation.ofOffset node.id node.deadlineOffsetDays

def Valid (graph : Graph) : Prop := graph.violations = []

instance (graph : Graph) : Decidable graph.Valid :=
  inferInstanceAs (Decidable (graph.violations = []))

end Workflow.Graph
