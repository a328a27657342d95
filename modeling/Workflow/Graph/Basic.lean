import Workflow.Text.Basic
import Workflow.Number.Double

set_option autoImplicit false

namespace Workflow

inductive NodeKind where
  | start
  | task
  | parallel
  | exclusive
  | finish
deriving DecidableEq, Repr

namespace NodeKind

def gateway : NodeKind → Bool
  | .parallel => true
  | .exclusive => true
  | _ => false

def name : NodeKind → String
  | .start => "start"
  | .task => "task"
  | .parallel => "gateway_parallel"
  | .exclusive => "gateway_xor"
  | .finish => "end"

def ofName? : String → Option NodeKind
  | "start" => some .start
  | "task" => some .task
  | "gateway_parallel" => some .parallel
  | "gateway_xor" => some .exclusive
  | "end" => some .finish
  | _ => none

theorem ofName?_name (kind : NodeKind) : ofName? kind.name = some kind := by
  cases kind <;> rfl

end NodeKind

inductive TaskType where
  | plain
  | worklog
  | cooperation
  | approval
deriving DecidableEq, Repr

namespace TaskType

-- A plain task may be completed without having been started.
def direct : TaskType → Bool
  | .plain => true
  | _ => false

def name : TaskType → String
  | .plain => "TASK"
  | .worklog => "WORKLOG"
  | .cooperation => "COOPERATION"
  | .approval => "APPROVAL"

def ofName? : String → Option TaskType
  | "TASK" => some .plain
  | "WORKLOG" => some .worklog
  | "COOPERATION" => some .cooperation
  | "APPROVAL" => some .approval
  | _ => none

theorem ofName?_name (type : TaskType) : ofName? type.name = some type := by
  cases type <;> rfl

end TaskType

structure Position where
  x : Double
  y : Double
deriving DecidableEq

-- The fields after the kind only mean something on a task.
structure Node where
  id : String
  kind : NodeKind
  name : Option String := none
  taskType : Option TaskType := none
  description : Option String := none
  assigneeHint : Option String := none
  stageLabel : Option String := none
  deadlineOffsetDays : Option Nat := none
  position : Option Position := none
deriving DecidableEq

namespace Node

def ofKind (id : String) (kind : NodeKind) : Node := { id, kind }

def task (id : String) : Node := { id, kind := .task, name := some id }

def displayName (node : Node) : String := node.name.getD node.id

end Node

structure Edge where
  id : String
  source : String
  target : String
  condition : Option String := none
deriving DecidableEq

namespace Edge

def defaultBranch (edge : Edge) : Bool :=
  match edge.condition with
  | none => true
  | some condition => Text.trim condition = ""

end Edge

abbrev Arc := String × String

def Edge.arc (edge : Edge) : Arc := (edge.source, edge.target)

def successors (arcs : List Arc) (id : String) : List String :=
  (arcs.filter (·.1 = id)).map (·.2)

def sources (arcs : List Arc) (id : String) : List String :=
  (arcs.filter (·.2 = id)).map (·.1)

structure Graph where
  nodes : List Node := []
  edges : List Edge := []
deriving DecidableEq

namespace Graph

def empty (graph : Graph) : Bool := graph.nodes.isEmpty && graph.edges.isEmpty

def ids (graph : Graph) : List String := graph.nodes.map Node.id

def arcs (graph : Graph) : List Arc := graph.edges.map Edge.arc

def node? (graph : Graph) (id : String) : Option Node := graph.nodes.find? (·.id = id)

def kind? (graph : Graph) (id : String) : Option NodeKind := (graph.node? id).map Node.kind

def ofKind (graph : Graph) (kind : NodeKind) : List Node := graph.nodes.filter (·.kind = kind)

def hasGateways (graph : Graph) : Bool := graph.nodes.any (·.kind.gateway)

def tasks (graph : Graph) : List Node := graph.ofKind .task

end Graph

end Workflow
