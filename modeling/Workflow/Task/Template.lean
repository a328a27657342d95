import Workflow.Graph.Basic

set_option autoImplicit false

namespace Workflow

inductive PredecessorMode where
  | all
  | any
deriving DecidableEq, Repr

namespace PredecessorMode

def name : PredecessorMode → String
  | .all => "ALL"
  | .any => "ANY"

def ofName? : String → Option PredecessorMode
  | "ALL" => some .all
  | "ANY" => some .any
  | _ => none

theorem ofName?_name (mode : PredecessorMode) : ofName? mode.name = some mode := by
  cases mode <;> rfl

end PredecessorMode

structure TaskTemplate where
  id : String
  name : String
  taskType : TaskType := .plain
  stageLabel : Option String := none
  description : Option String := none
  assigneeHint : Option String := none
  predecessorIds : List String := []
  predecessorMode : PredecessorMode := .all
  deadlineOffsetDays : Option Nat := none
  orderHint : Nat := 0
deriving DecidableEq

namespace TaskTemplate

def hasPredecessors (template : TaskTemplate) : Bool := !template.predecessorIds.isEmpty

def arcs (template : TaskTemplate) : List Arc :=
  template.predecessorIds.map fun predecessor => (predecessor, template.id)

end TaskTemplate

def predecessorArcs (templates : List TaskTemplate) : List Arc := templates.flatMap TaskTemplate.arcs

end Workflow
