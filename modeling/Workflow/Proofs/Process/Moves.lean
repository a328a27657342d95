import Workflow.Process.Transition
import Workflow.Proofs.Basic

set_option autoImplicit false

namespace Workflow

def Task.begun (task : Task) (now : Instant) : Task :=
  { task with status := .inProgress, actualStartAt := some now }

def Task.done (task : Task) (now : Instant) : Task :=
  { task with
    status := .completed
    actualStartAt := some (task.actualStartAt.getD now)
    actualEndAt := some now }

def Task.passed (task : Task) (now : Instant) : Task :=
  { task with status := .skipped, actualEndAt := some now }

def Task.doneEvent (task : Task) (now : Instant) : Event :=
  .taskCompleted task.processId task.id task.templateId task.assigneeId now

def Task.passedEvent (task : Task) (reason : Option String) : Event :=
  .taskSkipped task.processId task.id task.templateId reason

def Process.stopped (process : Process) (request : StopRequest) (now : Instant) : Process :=
  let (_, _, next, recorded) := Run.stopRule request.stopType
  let reason := Text.trim request.reason
  { process with
    status := next
    stopType := some request.stopType
    stopReason := some reason
    stoppedById := some request.actorId
    stoppedAt := some now
    endAt := if next = .aborted then some now else process.endAt
    history := process.history ++
      [{ time := now, action := recorded, actorId := some request.actorId, reason := some reason }] }

def Process.resumed (process : Process) (request : ResumeRequest) (now : Instant) : Process :=
  { process with
    status := .active
    stopType := none
    stopReason := none
    stoppedById := none
    stoppedAt := none
    history := process.history ++
      [{ time := now
         action := .resumed
         actorId := some request.actorId
         reason := request.reason.filter fun reason => Text.trim reason ≠ "" }] }

namespace Run

inductive Makes (run : Run) (now : Instant) : Move → Run × List Event → Prop where
  | start (id : Uuid) (task : Task) (active : run.process.status = .active)
      (found : run.task? id = some task) (ready : task.status = .ready) :
      Makes run now (.start id) (run.putTask id (task.begun now), [])
  | complete (id : Uuid) (task : Task) (active : run.process.status = .active)
      (found : run.task? id = some task) (may : mayComplete task = true) :
      Makes run now (.complete id) (run.settled (task.done now) (task.doneEvent now) now)
  | skip (id : Uuid) (reason : Option String) (task : Task)
      (active : run.process.status = .active) (found : run.task? id = some task)
      (unfinished : task.status.terminal = false) :
      Makes run now (.skip id reason) (run.settled (task.passed now) (task.passedEvent reason) now)
  | stop (request : StopRequest) (reason : Text.trim request.reason ≠ "")
      (actor : Text.trim request.actorId ≠ "")
      (allowed : run.process.status ∈ (stopRule request.stopType).2.1) :
      Makes run now (.stop request) ({ run with process := run.process.stopped request now },
        [.stopped run.id request.actorId request.stopType.lower (Text.trim request.reason)])
  | resume (request : ResumeRequest) (suspended : run.process.status = .suspended) :
      Makes run now (.resume request) ({ run with process := run.process.resumed request now },
        [.resumed run.id request.actorId])

theorem find_task_ok_iff {α : Type} (run : Run) (id : Uuid) (act : Task → Except Error α) (result : α) :
    (do run.ensureActive; let task ← run.findTask id; act task) = .ok result ↔
      run.process.status = .active ∧ ∃ task, run.task? id = some task ∧ act task = .ok result := by
  simp only [bind_ok_iff]
  unfold ensureActive findTask
  by_cases active : run.process.status = .active
  · cases run.task? id <;> simp [active]
  · simp [active]

theorem start_task_ok_iff (run : Run) (id : Uuid) (now : Instant) (result : Run × List Event) :
    run.startTask id now = .ok result ↔ run.Makes now (.start id) result := by
  unfold startTask
  rw [find_task_ok_iff]
  constructor
  · rintro ⟨active, task, found, made⟩
    by_cases ready : task.status = .ready
    · rw [if_pos ready] at made
      cases made
      exact .start id task active found ready
    · simp [ready] at made
  · intro made
    cases made with
    | start _ task active found ready => exact ⟨active, task, found, if_pos ready⟩

theorem complete_task_ok_iff (run : Run) (id : Uuid) (now : Instant) (result : Run × List Event) :
    run.completeTask id now = .ok result ↔ run.Makes now (.complete id) result := by
  unfold completeTask
  rw [find_task_ok_iff]
  constructor
  · rintro ⟨active, task, found, made⟩
    by_cases may : mayComplete task = true
    · rw [if_pos may] at made
      cases made
      exact .complete id task active found may
    · simp [may] at made
  · intro made
    cases made with
    | complete _ task active found may => exact ⟨active, task, found, if_pos may⟩

theorem skip_task_ok_iff (run : Run) (id : Uuid) (reason : Option String) (now : Instant)
    (result : Run × List Event) :
    run.skipTask id reason now = .ok result ↔ run.Makes now (.skip id reason) result := by
  unfold skipTask
  rw [find_task_ok_iff]
  constructor
  · rintro ⟨active, task, found, made⟩
    cases unfinished : task.status.terminal with
    | true => simp [unfinished] at made
    | false =>
        rw [unfinished, if_neg Bool.false_ne_true] at made
        cases made
        exact .skip id reason task active found unfinished
  · intro made
    cases made with
    | skip _ _ task active found unfinished =>
        refine ⟨active, task, found, ?_⟩
        rw [unfinished, if_neg Bool.false_ne_true]
        rfl

theorem stop_ok_iff (run : Run) (request : StopRequest) (now : Instant) (result : Run × List Event) :
    run.stop request now = .ok result ↔ run.Makes now (.stop request) result := by
  unfold stop
  by_cases reason : Text.trim request.reason = ""
  · constructor
    · simp [reason]
    · intro made
      cases made with
      | stop _ given _ _ => exact absurd reason given
  by_cases actor : Text.trim request.actorId = ""
  · constructor
    · simp [reason, actor]
    · intro made
      cases made with
      | stop _ _ given _ => exact absurd actor given
  by_cases allowed : run.process.status ∈ (stopRule request.stopType).2.1
  · simp only [if_neg reason, if_neg actor, if_pos allowed]
    constructor
    · intro made
      cases made
      exact .stop request reason actor allowed
    · rintro ⟨_, _, _, _⟩
      rfl
  · constructor
    · simp [reason, actor, allowed]
    · intro made
      cases made with
      | stop _ _ _ given => exact absurd given allowed

theorem resume_ok_iff (run : Run) (request : ResumeRequest) (now : Instant)
    (result : Run × List Event) :
    run.resume request now = .ok result ↔ run.Makes now (.resume request) result := by
  unfold resume
  by_cases suspended : run.process.status = .suspended
  · rw [if_pos suspended]
    constructor
    · intro made
      cases made
      exact .resume request suspended
    · rintro ⟨_, _⟩
      rfl
  · constructor
    · simp [suspended]
    · intro made
      cases made with
      | resume _ given => exact absurd given suspended

theorem apply_ok_iff (run : Run) (now : Instant) (move : Move) (result : Run × List Event) :
    run.apply now move = .ok result ↔ run.Makes now move result := by
  cases move with
  | start id => exact start_task_ok_iff run id now result
  | complete id => exact complete_task_ok_iff run id now result
  | skip id reason => exact skip_task_ok_iff run id reason now result
  | stop request => exact stop_ok_iff run request now result
  | resume request => exact resume_ok_iff run request now result

theorem makes_open {run : Run} {now : Instant} {move : Move} {result : Run × List Event}
    (made : run.Makes now move result) : run.process.status.terminal = false := by
  cases made with
  | start _ _ active => rw [active]; rfl
  | complete _ _ active => rw [active]; rfl
  | skip _ _ _ active => rw [active]; rfl
  | stop request _ _ allowed =>
      cases type : request.stopType <;> cases status : run.process.status <;>
        first | rfl | simp [stopRule, type, status] at allowed
  | resume _ suspended => rw [suspended]; rfl

theorem next_keeps (holds : Run → Prop)
    (step : ∀ run now move result, holds run → Makes run now move result → holds result.1)
    (run : Run) (now : Instant) (move : Move) (start : holds run) : holds (run.next now move).1 := by
  unfold next
  cases applied : run.apply now move with
  | ok result => exact step run now move result start ((run.apply_ok_iff now move result).mp applied)
  | error _ => exact start

theorem after_keeps (holds : Run → Prop)
    (step : ∀ run now move result, holds run → Makes run now move result → holds result.1)
    (run : Run) (moves : List (Instant × Move)) (start : holds run) : holds (run.after moves).1 := by
  induction moves generalizing run with
  | nil => exact start
  | cons head rest ih => exact ih _ (next_keeps holds step run head.1 head.2 start)

end Run

end Workflow
