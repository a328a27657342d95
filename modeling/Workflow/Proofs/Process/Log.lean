import Workflow.Proofs.Process.Moves

set_option autoImplicit false

namespace Workflow

inductive Notice where
  | ready
  | completed
  | skipped
deriving DecidableEq

namespace Event

def notice? : Event → Option (Notice × Uuid)
  | .taskReady _ task _ _ _ => some (.ready, task)
  | .taskCompleted _ task _ _ _ => some (.completed, task)
  | .taskSkipped _ task _ _ => some (.skipped, task)
  | _ => none

def tells (notice : Notice) (id : Uuid) (event : Event) : Bool := event.notice? = some (notice, id)

def about (id : Uuid) (event : Event) : Bool := event.notice?.any (·.2 = id)

def ends : Event → Bool
  | .completed _ _ => true
  | _ => false

theorem about_of_tells (notice : Notice) (id : Uuid) (event : Event)
    (tells : event.tells notice id = true) : event.about id = true := by
  rw [about, of_decide_eq_true tells]
  simp

theorem about_same (event : Event) (id other : Uuid) (one : event.about id = true)
    (same : event.about other = true) : id = other := by
  cases notice : event.notice? with
  | none => simp [about, notice] at one
  | some told => simp_all [about]

theorem about_open (event : Event) (id : Uuid) (own : event.about id = true) : event.ends = false := by
  cases event <;> first | rfl | cases own

end Event

section Notices

variable (task : Task) (time : Instant) (reason : Option String)

@[simp] theorem notice_ready : (Event.ready task).notice? = some (.ready, task.id) := rfl

@[simp] theorem notice_done : (task.doneEvent time).notice? = some (.completed, task.id) := rfl

@[simp] theorem notice_passed : (task.passedEvent reason).notice? = some (.skipped, task.id) := rfl

end Notices

def told (id : Uuid) (log : List Event) : List Event := log.filter (Event.about id)

namespace Task

-- What is told of a task by the time it has its status. A skipped one may have been ready before.
inductive Story (task : Task) : List Event → Prop where
  | waiting (status : task.status = .waiting) : Story task []
  | ready (status : task.status = .ready) : Story task [.ready task]
  | begun (status : task.status = .inProgress) : Story task [.ready task]
  | done (status : task.status = .completed) (time : Instant) :
      Story task [.ready task, task.doneEvent time]
  | passed (status : task.status = .skipped) (reason : Option String) :
      Story task [task.passedEvent reason]
  | dropped (status : task.status = .skipped) (reason : Option String) :
      Story task [.ready task, task.passedEvent reason]

structure Accounted (task : Task) (log : List Event) : Prop where
  readyOnce : log.countP (Event.tells .ready task.id) ≤ 1
  announced : task.status = .ready ∨ task.status = .inProgress ∨ task.status = .completed →
    log.countP (Event.tells .ready task.id) = 1
  unannounced : task.status = .waiting → log.countP (Event.tells .ready task.id) = 0
  completed : log.countP (Event.tells .completed task.id) =
    if task.status = .completed then 1 else 0
  skipped : log.countP (Event.tells .skipped task.id) = if task.status = .skipped then 1 else 0
  ordered : log.Pairwise fun earlier later =>
    earlier.tells .completed task.id = true ∨ earlier.tells .skipped task.id = true →
      later.tells .ready task.id = false

end Task

theorem told_append (id : Uuid) (log more : List Event) :
    told id (log ++ more) = told id log ++ told id more := List.filter_append ..

theorem told_all (id : Uuid) (said : List Event) (own : ∀ event ∈ said, event.about id = true) :
    told id said = said := List.filter_eq_self.mpr own

theorem told_elsewhere (id other : Uuid) (said : List Event)
    (own : ∀ event ∈ said, event.about id = true) (apart : other ≠ id) : told other said = [] := by
  refine List.filter_eq_nil_iff.mpr fun event member same => apart ?_
  exact event.about_same other id same (own event member)

theorem told_count (notice : Notice) (id : Uuid) (log : List Event) :
    log.countP (Event.tells notice id) = (told id log).countP (Event.tells notice id) := by
  rw [told, List.countP_filter]
  refine List.countP_congr fun event _ => ?_
  rw [Bool.and_eq_true]
  exact ⟨fun tells => ⟨tells, event.about_of_tells notice id tells⟩, fun both => both.1⟩

theorem story_ordered (task : Task) (said : List Event) (story : task.Story said) :
    said.Pairwise fun _ later => later.tells .ready task.id = false := by
  cases story <;> simp [Event.tells]

theorem log_ordered (task : Task) (log : List Event) (story : task.Story (told task.id log)) :
    log.Pairwise fun earlier later =>
      earlier.tells .completed task.id = true ∨ earlier.tells .skipped task.id = true →
        later.tells .ready task.id = false := by
  refine (List.pairwise_filter.mp (story_ordered task _ story)).imp fun {earlier later} apart settled => ?_
  by_contra again
  have announces : later.tells .ready task.id = true := by simpa using again
  have own := settled.elim (earlier.about_of_tells _ _) (earlier.about_of_tells _ _)
  rw [apart own (later.about_of_tells _ _ announces)] at announces
  cases announces

theorem story_accounted (task : Task) (log : List Event) (story : task.Story (told task.id log)) :
    task.Accounted log := by
  refine ⟨?_, ?_, ?_, ?_, ?_, log_ordered task log story⟩
  all_goals rw [told_count]
  all_goals
    generalize told task.id log = said at story
    cases story <;> simp [Event.tells, *]

theorem told_announced (tasks : List Task) (chosen : Task → Bool) (task : Task)
    (distinct : (tasks.map Task.id).Nodup) (member : task ∈ tasks) :
    told task.id ((tasks.filter chosen).map .ready) = if chosen task then [.ready task] else [] := by
  have own : tasks.filter (fun other => (Event.ready other).about task.id) = [task] := by
    rw [← filter_key Task.id tasks task distinct member]
    exact List.filter_congr fun other _ => by simp [Event.about]
  rw [told, List.filter_map, List.filter_comm]
  simp only [Function.comp_def, own]
  cases chosen : chosen task <;> simp [chosen]

section Changes

variable (task : Task) (now : Instant) (said : List Event)

theorem begun_story (ready : task.status = .ready) (story : task.Story said) :
    (task.begun now).Story said := by
  cases story with
  | ready => exact .begun rfl
  | waiting status => cases ready.symm.trans status
  | begun status => cases ready.symm.trans status
  | done status => cases ready.symm.trans status
  | passed status => cases ready.symm.trans status
  | dropped status => cases ready.symm.trans status

theorem done_story (going : task.status = .ready ∨ task.status = .inProgress)
    (story : task.Story said) : (task.done now).Story (said ++ [task.doneEvent now]) := by
  cases story with
  | ready => exact .done rfl now
  | begun => exact .done rfl now
  | waiting status => simp [status] at going
  | done status => simp [status] at going
  | passed status => simp [status] at going
  | dropped status => simp [status] at going

theorem passed_story (reason : Option String) (unfinished : task.status.terminal = false)
    (story : task.Story said) : (task.passed now).Story (said ++ [task.passedEvent reason]) := by
  cases story with
  | waiting => exact .passed rfl reason
  | ready => exact .dropped rfl reason
  | begun => exact .dropped rfl reason
  | done status => simp [status, TaskStatus.terminal] at unfinished
  | passed status => simp [status, TaskStatus.terminal] at unfinished
  | dropped status => simp [status, TaskStatus.terminal] at unfinished

end Changes

end Workflow
