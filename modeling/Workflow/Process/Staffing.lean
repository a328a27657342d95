import Workflow.Directory
import Workflow.Error
import Workflow.Process.Launch
import Workflow.Template
import Workflow.Time.Instant
import Workflow.Uuid

set_option autoImplicit false

namespace Workflow

-- One assignee of one task; a task named again fans out.
structure Assignment where
  taskTemplateId : String
  assigneeId : String
deriving DecidableEq

structure Plan where
  taskTemplateId : String
  plannedStartAt : Option Instant := none
  plannedEndAt : Option Instant := none
  deadlineAt : Option Instant := none
deriving DecidableEq

structure StartRequest where
  templateId : Uuid
  title : String
  startedById : String
  itemCode : Option String := none
  moldCode : Option String := none
  carModelCode : Option String := none
  taskAssignees : List Assignment := []
  taskPlans : List Plan := []
  initiativeId : Option String := none
deriving DecidableEq

structure Warning where
  taskTemplateId : String
  assigneeId : String
deriving DecidableEq, Repr

def Warning.message (warning : Warning) : String :=
  s!"assignee '{warning.assigneeId}' for task '{warning.taskTemplateId}' could not be resolved"

-- Every assignment names a task of the template, and none more often than the limit allows. `named`
-- holds the tasks named so far.
def checkAssignments (template : Template) (limit : Nat) (named : List String) :
    List Assignment → Except Error Unit
  | [] => .ok ()
  | assignment :: rest =>
    let id := assignment.taskTemplateId
    if (template.task? id).isNone then .error (.request (.unknownAssigned id))
    else if limit < named.count id + 1 then .error (.request (.tooManyAssignees id limit))
    else checkAssignments template limit (id :: named) rest

def checkPlans (template : Template) (named : List String) : List Plan → Except Error Unit
  | [] => .ok ()
  | plan :: rest =>
    let id := plan.taskTemplateId
    if (template.task? id).isNone then .error (.request (.unknownPlanned id))
    else if id ∈ named then .error (.request (.plannedTwice id))
    else checkPlans template (id :: named) rest

namespace StartRequest

def checkWords (request : StartRequest) : Except Error Unit :=
  if Text.trim request.title = "" then .error (.request .blankProcessTitle)
  else if Text.trim request.startedById = "" then .error (.request .blankStarter)
  else .ok ()

def check (request : StartRequest) (template : Template) (limit : Nat) : Except Error Unit :=
  if template.tasks.isEmpty then .error (.request (.noTasks template.id))
  else do
    checkAssignments template limit [] request.taskAssignees
    checkPlans template [] request.taskPlans

def requested (request : StartRequest) (task : String) : List String :=
  ((request.taskAssignees.filter (·.taskTemplateId = task)).map Assignment.assigneeId).eraseDups

def plan? (request : StartRequest) (task : String) : Option Plan :=
  request.taskPlans.find? (·.taskTemplateId = task)

def seed (request : StartRequest) (task : String) (assignee : Option User) : Seed where
  templateId := task
  assignee
  plannedStartAt := (request.plan? task).bind Plan.plannedStartAt
  plannedEndAt := (request.plan? task).bind Plan.plannedEndAt
  deadlineAt := (request.plan? task).bind Plan.deadlineAt

end StartRequest

namespace Directory

def resolveAll (directory : Directory) : List String → Except Error (List User × List String)
  | [] => .ok ([], [])
  | id :: rest => do
    let user ← directory.resolve id
    let (users, unknown) ← directory.resolveAll rest
    match user with
    | some user => return (user :: users, unknown)
    | none => return (users, id :: unknown)

end Directory

namespace StartRequest

def staffTask (request : StartRequest) (directory : Directory) (task : String) :
    Except Error (List Seed × List Warning) := do
  let (users, unknown) ← directory.resolveAll (request.requested task)
  let seeds := match users with
    | [] => [request.seed task none]
    | users => users.map fun user => request.seed task (some user)
  return (seeds, unknown.map fun id => ⟨task, id⟩)

def staff (request : StartRequest) (directory : Directory) :
    List TaskTemplate → Except Error (List Seed × List Warning)
  | [] => .ok ([], [])
  | template :: rest => do
    let (seeds, warnings) ← request.staffTask directory template.id
    let (others, more) ← request.staff directory rest
    return (seeds ++ others, warnings ++ more)

def process (request : StartRequest) (template : Template) (id : Uuid) (now : Instant)
    (expectedEndAt : Option Instant) : Process where
  id
  templateId := template.id
  title := Text.trim request.title
  status := .active
  startAt := now
  expectedEndAt
  startedById := request.startedById
  itemCode := request.itemCode
  moldCode := request.moldCode
  carModelCode := request.carModelCode
  initiativeId := request.initiativeId
  history := [{ time := now, action := .started, actorId := some request.startedById }]

-- The run that a request starts, with the events that tell of it. The first id is that of the
-- process, the tasks take the ones after it.
def launch (request : StartRequest) (template : Template) (seeds : List Seed) (now : Instant)
    (ids : Nat → Uuid) : Except Error (Run × List Event) := do
  let expectedEndAt ← expectedEnd now template.tasks
  Run.launch (request.process template (ids 0) now expectedEndAt) template.tasks seeds
    fun number => ids (number + 1)

end StartRequest

end Workflow
