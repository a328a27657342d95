import Workflow.Error
import Workflow.Graph.Basic
import Workflow.Graph.Validation
import Workflow.Task.Template

/-!
From diagrams to task lists. Nodes are visited in an order in which every arc leads forward; a task
waits for the nearest tasks before it, found by walking arcs backwards through gateways. Crossing an
exclusive gateway with more than one arc into it lets any of several predecessors do.
-/

set_option autoImplicit false

namespace Workflow.Graph

def needsChain (graph : Graph) : Bool :=
  graph.edges.isEmpty && !graph.hasGateways && !graph.tasks.isEmpty

def chain (graph : Graph) : List String :=
  ((graph.ofKind .start).head?.toList ++ graph.tasks ++
    (graph.ofKind .finish).head?.toList).map Node.id

def chainEdges (number : Nat) : List String → List Edge
  | source :: target :: rest =>
    { id := s!"auto-{number}", source, target } :: chainEdges (number + 1) (target :: rest)
  | _ => []

def chained (graph : Graph) : Graph := { graph with edges := chainEdges 1 graph.chain }

-- Takes the arcs from `id` to the targets away one by one. A target that is left without an arc
-- into it joins the queue.
def settle (id : String) (drawn : List Arc) (queue : List String) :
    List String → List Arc × List String
  | [] => (drawn, queue)
  | target :: rest =>
    if (id, target) ∈ drawn then
      let left := drawn.erase (id, target)
      settle id left (if target ∈ left.map (·.2) then queue else queue ++ [target]) rest
    else settle id drawn queue rest

theorem length_settle (id : String) (drawn : List Arc) (queue targets : List String) :
    (settle id drawn queue targets).1.length + (settle id drawn queue targets).2.length ≤
      drawn.length + queue.length := by
  induction targets generalizing drawn queue with
  | nil => exact Nat.le_refl _
  | cons target rest ih =>
    rw [settle]
    split
    · rename_i member
      have := List.length_pos_of_mem member
      refine Nat.le_trans (ih _ _) ?_
      rw [List.length_erase_of_mem member]
      split
      · omega
      · rw [List.length_append, List.length_singleton]
        omega
    · exact ih drawn queue

def visit (drawn : List Arc) : List String → List String
  | [] => []
  | id :: queue =>
    let next := settle id drawn queue (successors drawn id)
    id :: visit next.1 next.2
termination_by queue => drawn.length + queue.length
decreasing_by
  have := length_settle id drawn queue (successors drawn id)
  simp only [List.length_cons]
  omega

def visitOrder (graph : Graph) : List String :=
  visit graph.arcs ((graph.ofKind .start).map Node.id)

def taskOrder (graph : Graph) : List String :=
  graph.visitOrder.filter fun id => graph.kind? id = some .task

-- What a backward walk meets at an id: the task it stops at, the ids to go on to, and whether this
-- is an exclusive gateway with several arcs into it.
structure Stop where
  found : List String := []
  onward : List String := []
  merge : Bool := false

def stop (graph : Graph) (id : String) : Stop :=
  let before := sources graph.arcs id
  match graph.kind? id with
  | some .task => { found := [id] }
  | some .parallel => { onward := before }
  | some .exclusive => { onward := before, merge := 1 < before.length }
  | _ => {}

-- Walks backwards from the ids in the queue, past each at most once: the tasks met first, and
-- whether a merge was crossed.
def walkBack (graph : Graph) (unmet : List String) : List String → List String × Bool
  | [] => ([], false)
  | id :: queue =>
    if id ∈ unmet then
      let here := graph.stop id
      let rest := walkBack graph (unmet.erase id) (queue ++ here.onward)
      (here.found ++ rest.1, here.merge || rest.2)
    else walkBack graph unmet queue
termination_by queue => (unmet.length, queue.length)
decreasing_by
  · rename_i member
    apply Prod.Lex.left
    have := List.length_pos_of_mem member
    rw [List.length_erase_of_mem member]
    omega
  · apply Prod.Lex.right
    simp

def nearest (graph : Graph) (id : String) : List String × Bool :=
  graph.walkBack graph.ids (sources graph.arcs id)

def placeIn (order : List String) (id : String) : Nat := order.idxOf id

def templateOf (graph : Graph) (order : List String) (node : Node) : TaskTemplate :=
  let (found, crossed) := graph.nearest node.id
  let predecessors := found.mergeSort fun a b => placeIn order a ≤ placeIn order b
  { id := node.id
    name := node.displayName
    taskType := node.taskType.getD .plain
    stageLabel := node.stageLabel
    description := node.description
    assigneeHint := node.assigneeHint
    predecessorIds := predecessors
    predecessorMode := if 1 < predecessors.length && crossed then .any else .all
    deadlineOffsetDays := node.deadlineOffsetDays
    orderHint := placeIn order node.id }

def compileValid (graph : Graph) : List TaskTemplate :=
  let order := graph.taskOrder
  (order.filterMap graph.node?).map (graph.templateOf order)

def compile (graph : Graph) : Except Error (List TaskTemplate) :=
  match graph.violations with
  | [] => .ok graph.compileValid
  | violations => .error (.graph violations)

end Workflow.Graph

namespace Workflow

structure Config where
  autoLinearize : Bool := true
  maxFanOut : Nat := 64
deriving DecidableEq

structure Compiled where
  graph : Graph
  tasks : List TaskTemplate
  linearized : Bool
deriving DecidableEq

def Graph.compileWith (graph : Graph) (config : Config) : Except Error Compiled :=
  if config.autoLinearize && graph.needsChain then do
    let tasks ← graph.chained.compile
    return { graph := graph.chained, tasks, linearized := true }
  else do
    let tasks ← graph.compile
    return { graph, tasks, linearized := false }

end Workflow
