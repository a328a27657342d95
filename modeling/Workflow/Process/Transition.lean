import Workflow.Error
import Workflow.Process.Basic
import Workflow.Text.Basic

set_option autoImplicit false

namespace Workflow

def satisfied (mode : PredecessorMode) (instances : List Task) : Bool :=
  match mode with
  | .all => instances.all (·.status.terminal)
  | .any => instances.any (·.status = .completed) || instances.all (·.status = .skipped)

namespace Run

def unblocked (run : Run) (template : TaskTemplate) : Bool :=
  template.predecessorIds.all fun predecessor =>
    satisfied template.predecessorMode (run.instancesOf predecessor)

def heldOf (run : Run) (templateId : String) : List Task :=
  (run.instancesOf templateId).filter (·.status.held)

def releaseTask (templateId : String) (task : Task) : Task :=
  if task.templateId = templateId ∧ task.status.held then { task with status := .ready } else task

def release (run : Run) (templateId : String) : Run × List Event :=
  match run.template? templateId with
  | none => (run, [])
  | some template =>
    if run.unblocked template then
      ({ run with tasks := run.tasks.map (releaseTask templateId) },
        (run.heldOf templateId).map .ready)
    else (run, [])

def releaseAll (run : Run) : List String → Run × List Event
  | [] => (run, [])
  | id :: rest =>
    let (run, first) := run.release id
    let (run, others) := run.releaseAll rest
    (run, first ++ others)

def releaseDependents (run : Run) (templateId : String) : Run × List Event :=
  run.releaseAll (run.dependents templateId)

def recompute (run : Run) : Run × List Event :=
  run.releaseAll (run.templates.map TaskTemplate.id)

end Run

structure StopRequest where
  actorId : String
  stopType : StopType
  reason : String := ""
deriving DecidableEq

structure ResumeRequest where
  actorId : String
  reason : Option String := none
deriving DecidableEq

inductive Move where
  | start (task : Uuid)
  | complete (task : Uuid)
  | skip (task : Uuid) (reason : Option String)
  | stop (request : StopRequest)
  | resume (request : ResumeRequest)
deriving DecidableEq

namespace Run

def ensureActive (run : Run) : Except Error Unit :=
  if run.process.status = .active then .ok ()
  else .error (.process .advance run.id run.process.status)

def findTask (run : Run) (id : Uuid) : Except Error Task :=
  match run.task? id with
  | some task => .ok task
  | none => .error (.noTask run.id id)

def putFirst (id : Uuid) (task : Task) : List Task → List Task
  | [] => []
  | first :: rest => if first.id = id then task :: rest else first :: putFirst id task rest

def putTask (run : Run) (id : Uuid) (task : Task) : Run :=
  { run with tasks := putFirst id task run.tasks }

def finish (run : Run) (now : Instant) : Run × List Event :=
  if run.process.status = .active && run.allTerminal then
    ({ run with
        process := { run.process with
          status := .completed
          endAt := some now
          history := run.process.history ++ [{ time := now, action := .completed }] } },
      [.completed run.id now])
  else (run, [])

def settled (run : Run) (task : Task) (event : Event) (now : Instant) : Run × List Event :=
  let (run, released) := (run.putTask task.id task).releaseDependents task.templateId
  let (run, finished) := run.finish now
  (run, event :: released ++ finished)

def startTask (run : Run) (id : Uuid) (now : Instant) : Except Error (Run × List Event) := do
  run.ensureActive
  let task ← run.findTask id
  if task.status = .ready then
    return (run.putTask id { task with status := .inProgress, actualStartAt := some now }, [])
  else .error (.task .start id task.status)

def mayComplete (task : Task) : Bool :=
  match task.status with
  | .inProgress => true
  | .ready => task.taskType.direct
  | _ => false

def completeTask (run : Run) (id : Uuid) (now : Instant) : Except Error (Run × List Event) := do
  run.ensureActive
  let task ← run.findTask id
  if mayComplete task then
    let done := { task with
      status := .completed
      actualStartAt := some (task.actualStartAt.getD now)
      actualEndAt := some now }
    return run.settled done
      (.taskCompleted task.processId task.id task.templateId task.assigneeId now) now
  else .error (.task .complete id task.status)

def skipTask (run : Run) (id : Uuid) (reason : Option String) (now : Instant) :
    Except Error (Run × List Event) := do
  run.ensureActive
  let task ← run.findTask id
  if task.status.terminal then .error (.task .skip id task.status)
  else
    let done := { task with status := .skipped, actualEndAt := some now }
    return run.settled done (.taskSkipped task.processId task.id task.templateId reason) now

def stopRule : StopType → ProcessAction × List ProcessStatus × ProcessStatus × LifecycleAction
  | .suspended => (.suspend, [.active], .suspended, .suspended)
  | .aborted => (.abort, [.active, .suspended], .aborted, .aborted)

def stop (run : Run) (request : StopRequest) (now : Instant) :
    Except Error (Run × List Event) :=
  let reason := Text.trim request.reason
  let (action, allowed, next, recorded) := stopRule request.stopType
  if reason = "" then .error (.request .blankReason)
  else if Text.trim request.actorId = "" then .error (.request .blankActor)
  else if run.process.status ∈ allowed then
    let entry : HistoryEntry :=
      { time := now, action := recorded, actorId := some request.actorId, reason := some reason }
    let process := { run.process with
      status := next
      stopType := some request.stopType
      stopReason := some reason
      stoppedById := some request.actorId
      stoppedAt := some now
      endAt := if next = .aborted then some now else run.process.endAt
      history := run.process.history ++ [entry] }
    .ok ({ run with process },
      [.stopped run.id request.actorId request.stopType.lower reason])
  else .error (.process action run.id run.process.status)

def resume (run : Run) (request : ResumeRequest) (now : Instant) :
    Except Error (Run × List Event) :=
  if run.process.status = .suspended then
    let entry : HistoryEntry :=
      { time := now
        action := .resumed
        actorId := some request.actorId
        reason := request.reason.filter fun reason => Text.trim reason ≠ "" }
    let process := { run.process with
      status := .active
      stopType := none
      stopReason := none
      stoppedById := none
      stoppedAt := none
      history := run.process.history ++ [entry] }
    .ok ({ run with process }, [.resumed run.id request.actorId])
  else .error (.process .resume run.id run.process.status)

def apply (run : Run) (now : Instant) : Move → Except Error (Run × List Event)
  | .start task => run.startTask task now
  | .complete task => run.completeTask task now
  | .skip task reason => run.skipTask task reason now
  | .stop request => run.stop request now
  | .resume request => run.resume request now

def next (run : Run) (now : Instant) (move : Move) : Run × List Event :=
  match run.apply now move with
  | .ok result => result
  | .error _ => (run, [])

def after (run : Run) : List (Instant × Move) → Run × List Event
  | [] => (run, [])
  | (now, move) :: rest =>
    let (run, first) := run.next now move
    let (run, others) := run.after rest
    (run, first ++ others)

end Run

end Workflow
