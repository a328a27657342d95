import Workflow.Process.Status
import Workflow.Task.Template
import Workflow.Time.Instant
import Workflow.Uuid

set_option autoImplicit false

namespace Workflow

structure HistoryEntry where
  time : Instant
  action : LifecycleAction
  actorId : Option String := none
  reason : Option String := none
deriving DecidableEq

structure Process where
  id : Uuid
  templateId : Uuid
  title : String
  status : ProcessStatus
  startAt : Instant
  -- Promised at the start and never moved.
  expectedEndAt : Option Instant := none
  endAt : Option Instant := none
  startedById : String
  itemCode : Option String := none
  moldCode : Option String := none
  carModelCode : Option String := none
  initiativeId : Option String := none
  stopType : Option StopType := none
  stopReason : Option String := none
  stoppedById : Option String := none
  stoppedAt : Option Instant := none
  history : List HistoryEntry := []
deriving DecidableEq

structure Task where
  id : Uuid
  processId : Uuid
  templateId : String
  name : String
  taskType : TaskType
  stageLabel : Option String := none
  status : TaskStatus
  assigneeId : Option String := none
  assigneeName : Option String := none
  organization : Option String := none
  plannedStartAt : Option Instant := none
  plannedEndAt : Option Instant := none
  actualStartAt : Option Instant := none
  actualEndAt : Option Instant := none
  deadlineAt : Option Instant := none
deriving DecidableEq

structure Run where
  process : Process
  tasks : List Task
  templates : List TaskTemplate
deriving DecidableEq

namespace Run

def id (run : Run) : Uuid := run.process.id

def task? (run : Run) (id : Uuid) : Option Task := run.tasks.find? (·.id = id)

-- The last template of an id.
def template? (run : Run) (id : String) : Option TaskTemplate :=
  run.templates.reverse.find? (·.id = id)

def instancesOf (run : Run) (templateId : String) : List Task :=
  run.tasks.filter (·.templateId = templateId)

def allTerminal (run : Run) : Bool := run.tasks.all (·.status.terminal)

def dependents (run : Run) (id : String) : List String :=
  successors (predecessorArcs run.templates) id

end Run

inductive Event where
  | taskReady (process task : Uuid) (template name : String) (assignee : Option String)
  | taskCompleted (process task : Uuid) (template : String) (assignee : Option String)
      (time : Instant)
  | taskSkipped (process task : Uuid) (template : String) (reason : Option String)
  | completed (process : Uuid) (time : Instant)
  | stopped (process : Uuid) (actor stopType reason : String)
  | resumed (process : Uuid) (actor : String)
deriving DecidableEq

def Event.ready (task : Task) : Event :=
  .taskReady task.processId task.id task.templateId task.name task.assigneeId

-- Made once, when a run is launched or read from a document.
structure Index where
  place? : String → Option Nat
  instances : String → List Nat
  dependents : String → List String

namespace Index

def empty : Index := ⟨fun _ => none, fun _ => [], fun _ => []⟩

def push {β : Type} (table : String → List β) (key : String) (value : β) : String → List β :=
  fun other => if other = key then table other ++ [value] else table other

def addTemplate (index : Index) : TaskTemplate × Nat → Index
  | (template, place) =>
    { index with
      place? := fun id => if id = template.id then some place else index.place? id
      dependents := template.predecessorIds.foldl
        (fun table predecessor => push table predecessor template.id) index.dependents }

def addTask (index : Index) : Task × Nat → Index
  | (task, place) => { index with instances := push index.instances task.templateId place }

def ofTemplates (templates : List TaskTemplate) : Index :=
  templates.zipIdx.foldl addTemplate empty

def build (templates : List TaskTemplate) (tasks : List Task) : Index :=
  tasks.zipIdx.foldl addTask (ofTemplates templates)

end Index

def Run.index (run : Run) : Index := .build run.templates run.tasks

end Workflow
