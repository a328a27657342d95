import Mathlib.Algebra.GroupWithZero.Nat
import Workflow.Proofs.Process.Settling

set_option autoImplicit false

namespace Workflow

-- To begin and to end; a task may also end without having begun.
def TaskStatus.steps : TaskStatus → Nat
  | .inProgress => 1
  | .completed => 0
  | .skipped => 0
  | _ => 2

def Task.Fixed {β : Type} (field : Task → β) : Prop :=
  ∀ (task : Task) (status : TaskStatus) (actualStartAt actualEndAt : Option Instant),
    field { task with status, actualStartAt, actualEndAt } = field task

namespace Run

def remaining (run : Run) : Nat := (run.tasks.map (·.status.steps)).sum

theorem makes_templates (run : Run) (now : Instant) (move : Move) (result : Run × List Event)
    (made : run.Makes now move result) : result.1.templates = run.templates := by
  cases made with
  | start => rfl
  | complete => exact settled_templates ..
  | skip => exact settled_templates ..
  | stop => rfl
  | resume => rfl

theorem after_templates (run : Run) (moves : List (Instant × Move)) :
    (run.after moves).1.templates = run.templates :=
  after_keeps (fun other => other.templates = run.templates)
    (fun other now move result same made => (makes_templates other now move result made).trans same)
    run moves rfl

theorem freed_field {β : Type} (field : Task → β) (fixed : Task.Fixed field) (run : Run)
    (ids : List String) (task : Task) : field (run.freed ids task) = field task := by
  rcases run.freed_cases ids task with ⟨_, _, _, same⟩ | ⟨_, same⟩
  · rw [same]
    exact fixed task .ready task.actualStartAt task.actualEndAt
  · rw [same]

theorem freed_steps (run : Run) (ids : List String) (task : Task) :
    (run.freed ids task).status.steps = task.status.steps := by
  rcases run.freed_cases ids task with ⟨_, _, held, same⟩ | ⟨_, same⟩
  · rw [same]
    rcases (held_iff _).mp held with is | is <;> exact (congrArg TaskStatus.steps is).symm
  · rw [same]

theorem put_task_field {β : Type} (field : Task → β) (run : Run) (id : Uuid) (old new : Task)
    (found : run.task? id = some old) (same : field new = field old) :
    (run.putTask id new).tasks.map field = run.tasks.map field := by
  obtain ⟨before, after, split, put, _⟩ := run.put_task_split id old new found
  rw [split, put]
  simp [same]

theorem put_task_remaining (run : Run) (id : Uuid) (old new : Task)
    (found : run.task? id = some old) (fewer : new.status.steps < old.status.steps) :
    (run.putTask id new).remaining < run.remaining := by
  obtain ⟨before, after, split, put, _⟩ := run.put_task_split id old new found
  unfold remaining
  rw [split, put]
  simp only [List.map_append, List.map_cons, List.sum_append, List.sum_cons]
  omega

theorem settled_field {β : Type} (field : Task → β) (fixed : Task.Fixed field) (run : Run) (id : Uuid)
    (old new : Task) (event : Event) (now : Instant) (found : run.task? id = some old)
    (sameId : new.id = id) (same : field new = field old) :
    (run.settled new event now).1.tasks.map field = run.tasks.map field := by
  subst sameId
  rw [settled_tasks, List.map_map, ← run.put_task_field field new.id old new found same]
  exact List.map_congr_left fun task _ => freed_field field fixed _ _ task

theorem settled_remaining (run : Run) (id : Uuid) (old new : Task) (event : Event) (now : Instant)
    (found : run.task? id = some old) (same : new.id = id)
    (fewer : new.status.steps < old.status.steps) :
    (run.settled new event now).1.remaining < run.remaining := by
  subst same
  have released : (run.settled new event now).1.remaining = (run.putTask new.id new).remaining := by
    unfold remaining
    rw [settled_tasks, List.map_map]
    exact congrArg List.sum (List.map_congr_left fun task _ => freed_steps _ _ task)
  rw [released]
  exact run.put_task_remaining new.id old new found fewer

theorem makes_field {β : Type} (field : Task → β) (fixed : Task.Fixed field) (run : Run)
    (now : Instant) (move : Move) (result : Run × List Event) (made : run.Makes now move result) :
    result.1.tasks.map field = run.tasks.map field := by
  cases made with
  | start id task _ found _ =>
      exact run.put_task_field field id task _ found (fixed task .inProgress (some now) task.actualEndAt)
  | complete id task _ found _ =>
      exact run.settled_field field fixed id task _ _ now found (run.task_mem id task found).2
        (fixed task .completed (some (task.actualStartAt.getD now)) (some now))
  | skip id _ task _ found _ =>
      exact run.settled_field field fixed id task _ _ now found (run.task_mem id task found).2
        (fixed task .skipped task.actualStartAt (some now))
  | stop => rfl
  | resume => rfl

theorem after_field {β : Type} (field : Task → β) (fixed : Task.Fixed field) (run : Run)
    (moves : List (Instant × Move)) : (run.after moves).1.tasks.map field = run.tasks.map field :=
  after_keeps (fun other => other.tasks.map field = run.tasks.map field)
    (fun other now move result same made =>
      (makes_field field fixed other now move result made).trans same)
    run moves rfl

theorem makes_ids (run : Run) (now : Instant) (move : Move) (result : Run × List Event)
    (made : run.Makes now move result) : result.1.tasks.map Task.id = run.tasks.map Task.id :=
  run.makes_field Task.id (fun _ _ _ _ => rfl) now move result made

theorem after_ids (run : Run) (moves : List (Instant × Move)) :
    (run.after moves).1.tasks.map Task.id = run.tasks.map Task.id :=
  run.after_field Task.id (fun _ _ _ _ => rfl) moves

end Run

end Workflow
