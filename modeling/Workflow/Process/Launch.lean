import Workflow.Directory
import Workflow.Error
import Workflow.Process.Basic

set_option autoImplicit false

namespace Workflow

def deadline (anchor : Instant) (offset : Option Nat) : Except Error (Option Instant) :=
  match offset with
  | none => .ok none
  | some days =>
    match anchor.addDays? days with
    | some time => .ok (some time)
    | none => .error (.request (.farDeadline days anchor))

def longestOffset (templates : List TaskTemplate) : Option Nat :=
  (templates.filterMap TaskTemplate.deadlineOffsetDays).max?

def expectedEnd (start : Instant) (templates : List TaskTemplate) :
    Except Error (Option Instant) :=
  deadline start (longestOffset templates)

structure Seed where
  templateId : String
  assignee : Option User := none
  plannedStartAt : Option Instant := none
  plannedEndAt : Option Instant := none
  -- Wins over the deadline computed from the template.
  deadlineAt : Option Instant := none
deriving DecidableEq

def seedsOf (seeds : List Seed) (template : TaskTemplate) : List Seed :=
  match seeds.filter (·.templateId = template.id) with
  | [] => [{ templateId := template.id }]
  | own => own

def plantings (templates : List TaskTemplate) (seeds : List Seed) : List (TaskTemplate × Seed) :=
  templates.flatMap fun template => (seedsOf seeds template).map fun seed => (template, seed)

def seedDeadline (start : Instant) (template : TaskTemplate) (seed : Seed) :
    Except Error (Option Instant) :=
  match seed.deadlineAt with
  | some time => .ok (some time)
  | none => deadline (seed.plannedStartAt.getD start) template.deadlineOffsetDays

def plant (process : Process) (id : Uuid) (template : TaskTemplate) (seed : Seed) :
    Except Error Task := do
  let deadlineAt ← seedDeadline process.startAt template seed
  return {
    id
    processId := process.id
    templateId := template.id
    name := template.name
    taskType := template.taskType
    stageLabel := template.stageLabel
    status := .notStarted
    assigneeId := seed.assignee.map User.id
    assigneeName := seed.assignee.map User.name
    organization := seed.assignee.bind User.organization
    plannedStartAt := seed.plannedStartAt
    plannedEndAt := seed.plannedEndAt
    deadlineAt }

def plantAll (process : Process) (ids : Nat → Uuid) (number : Nat) :
    List (TaskTemplate × Seed) → Except Error (List Task)
  | [] => .ok []
  | (template, seed) :: rest => do
    let first ← plant process (ids number) template seed
    let others ← plantAll process ids (number + 1) rest
    return first :: others

namespace Run

def waits (run : Run) (task : Task) : Bool :=
  match run.template? task.templateId with
  | some template => template.hasPredecessors
  | none => false

def settleFirst (run : Run) (task : Task) : Task :=
  { task with status := if run.waits task then .waiting else .ready }

def opened (run : Run) : Run × List Event :=
  let tasks := run.tasks.map run.settleFirst
  ({ run with tasks }, (tasks.filter (·.status = .ready)).map .ready)

def launch (process : Process) (templates : List TaskTemplate) (seeds : List Seed)
    (ids : Nat → Uuid) : Except Error (Run × List Event) := do
  let tasks ← plantAll process ids 0 (plantings templates seeds)
  return opened { process := { process with status := .active }, tasks, templates }

end Run

end Workflow
