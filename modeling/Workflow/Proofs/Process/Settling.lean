import Workflow.Proofs.Process.Moves
import Workflow.Proofs.Process.Release

set_option autoImplicit false

namespace Workflow.Run

theorem put_first_split (id : Uuid) (tasks : List Task) (old new : Task)
    (found : tasks.find? (·.id = id) = some old) :
    ∃ before after, tasks = before ++ old :: after ∧
      putFirst id new tasks = before ++ new :: after ∧ ∀ task ∈ before, task.id ≠ id := by
  induction tasks with
  | nil => simp at found
  | cons first rest ih =>
      rw [putFirst]
      by_cases same : first.id = id
      · have here : first = old := by simpa [same] using found
        exact ⟨[], rest, by simp [here], by simp [same], by simp⟩
      · have later : rest.find? (·.id = id) = some old := by simpa [same] using found
        obtain ⟨before, after, split, put, apart⟩ := ih later
        refine ⟨first :: before, after, by simp [split], by simp [same, put], ?_⟩
        exact List.forall_mem_cons.mpr ⟨same, apart⟩

theorem put_task_split (run : Run) (id : Uuid) (old new : Task) (found : run.task? id = some old) :
    ∃ before after, run.tasks = before ++ old :: after ∧
      (run.putTask id new).tasks = before ++ new :: after ∧ ∀ task ∈ before, task.id ≠ id :=
  put_first_split id run.tasks old new found

theorem task_mem (run : Run) (id : Uuid) (task : Task) (found : run.task? id = some task) :
    task ∈ run.tasks ∧ task.id = id :=
  ⟨List.mem_of_find?_eq_some found, found_key found⟩

theorem put_task_pointwise (related : Task → Task → Prop) (run : Run) (id : Uuid) (old new : Task)
    (found : run.task? id = some old) (reflexive : ∀ task, related task task)
    (changed : related old new) : List.Forall₂ related run.tasks (run.putTask id new).tasks := by
  obtain ⟨before, after, split, put, _⟩ := run.put_task_split id old new found
  rw [split, put]
  exact pointwise_put before after old new reflexive changed

theorem mem_put_task (run : Run) (id : Uuid) (old new task : Task) (found : run.task? id = some old)
    (member : task ∈ (run.putTask id new).tasks) : task = new ∨ task ∈ run.tasks := by
  obtain ⟨before, after, split, put, _⟩ := run.put_task_split id old new found
  rw [put] at member
  rw [split]
  simp only [List.mem_append, List.mem_cons] at member ⊢
  tauto

theorem keeps_unfinished (predecessor : String) (old new : Task) (same : new.templateId = old.templateId)
    (unfinished : old.status.terminal = false) : Task.Keeps predecessor old new := by
  refine ⟨same, fun _ => ⟨?_, ?_⟩⟩ <;> intro was <;> simp [was, TaskStatus.terminal] at unfinished

section

variable (run : Run) (slot : Uuid) (old new : Task) (found : run.task? slot = some old)
  (same : new.templateId = old.templateId)

include found same

theorem put_free_keeps (unfinished : old.status.terminal = false) (id : String)
    (free : run.free id = true) : (run.putTask slot new).free id = true := by
  refine run.free_keeps _ id (fun predecessor => ?_) free
  exact run.put_task_pointwise _ slot old new found (fun task => ⟨rfl, by simp⟩)
    (keeps_unfinished predecessor old new same unfinished)

theorem put_free_open (unfinished : old.status.terminal = false) (still : new.status.terminal = false)
    (id : String) : (run.putTask slot new).free id = run.free id := by
  refine run.free_alike _ id fun _ _ predecessor _ => ?_
  refine run.put_task_pointwise _ slot old new found (fun task => ⟨⟨rfl, by simp⟩, rfl, by simp⟩) ?_
  exact ⟨keeps_unfinished predecessor old new same unfinished,
    keeps_unfinished predecessor new old same.symm still⟩

theorem put_free_elsewhere (id : String) (unlisted : id ∉ run.dependents new.templateId) :
    (run.putTask slot new).free id = run.free id := by
  refine run.free_elsewhere _ new.templateId id unlisted fun predecessor other => ?_
  refine run.put_task_pointwise _ slot old new found (fun task => ⟨⟨rfl, by simp⟩, rfl, by simp⟩) ?_
  exact ⟨⟨same, fun own => absurd (same.trans own).symm other⟩,
    same.symm, fun own => absurd own.symm other⟩

end

theorem finish_tasks (run : Run) (now : Instant) :
    (run.finish now).1.tasks = run.tasks ∧ (run.finish now).1.templates = run.templates := by
  unfold finish
  split <;> exact ⟨rfl, rfl⟩

theorem finish_process (run : Run) (now : Instant) :
    (run.finish now).1.process =
      if run.process.status = .active ∧ run.allTerminal = true then
        { run.process with
          status := .completed
          endAt := some now
          history := run.process.history ++ [{ time := now, action := .completed }] }
      else run.process := by
  unfold finish
  by_cases ending : run.process.status = .active ∧ run.allTerminal = true
  · simp [ending]
  · have shut : ¬ (decide (run.process.status = .active) && run.allTerminal) = true := by
      simpa using ending
    rw [if_neg shut, if_neg ending]

theorem finish_free (run : Run) (now : Instant) (id : String) :
    (run.finish now).1.free id = run.free id := by
  unfold finish
  split <;> rfl

theorem settled_run (run : Run) (task : Task) (event : Event) (now : Instant) :
    (run.settled task event now).1 =
      ({ run.putTask task.id task with
          tasks := (run.putTask task.id task).tasks.map
            ((run.putTask task.id task).freed (run.dependents task.templateId)) }.finish now).1 := by
  change ((((run.putTask task.id task).releaseDependents task.templateId).1).finish now).1 = _
  rw [releaseDependents, release_all_run]
  rfl

theorem settled_tasks (run : Run) (task : Task) (event : Event) (now : Instant) :
    (run.settled task event now).1.tasks = (run.putTask task.id task).tasks.map
      ((run.putTask task.id task).freed (run.dependents task.templateId)) := by
  rw [settled_run, (finish_tasks _ now).1]

theorem settled_templates (run : Run) (task : Task) (event : Event) (now : Instant) :
    (run.settled task event now).1.templates = run.templates := by
  rw [settled_run, (finish_tasks _ now).2]
  rfl

theorem settled_free (run : Run) (task : Task) (event : Event) (now : Instant) (id : String) :
    (run.settled task event now).1.free id = (run.putTask task.id task).free id := by
  rw [settled_run, finish_free]
  exact free_freed (run.putTask task.id task) (run.dependents task.templateId) id

theorem mem_settled (run : Run) (id : Uuid) (old new : Task) (event : Event) (now : Instant)
    (found : run.task? id = some old) (sameId : new.id = id) (done : new.status.terminal = true)
    (task : Task) (member : task ∈ (run.settled new event now).1.tasks) :
    task = new ∨
    (∃ before ∈ run.tasks, before.templateId ∈ run.dependents new.templateId ∧
      (run.settled new event now).1.free before.templateId = true ∧ before.status.held = true ∧
      task = { before with status := .ready }) ∨
    (task ∈ run.tasks ∧ ¬ (task.templateId ∈ run.dependents new.templateId ∧
      (run.settled new event now).1.free task.templateId = true ∧ task.status.held = true)) := by
  subst sameId
  rw [settled_tasks] at member
  obtain ⟨put, among, rfl⟩ := List.mem_map.mp member
  simp only [settled_free]
  have outcomes := freed_cases (run.putTask new.id new) (run.dependents new.templateId) put
  rcases run.mem_put_task new.id old new put found among with rfl | before
  · exact .inl (freed_done _ _ done)
  · right
    rcases outcomes with ⟨listed, free, held, same⟩ | ⟨kept, same⟩
    · exact .inl ⟨put, before, listed, free, held, same⟩
    · rw [same]
      exact .inr ⟨before, kept⟩

end Workflow.Run
