import Mathlib.Data.List.Nodup
import Workflow.Process.Transition
import Workflow.Proofs.Basic
import Workflow.Proofs.Task.WellFormed

set_option autoImplicit false

namespace Workflow

def Satisfied (tasks : List Task) (mode : PredecessorMode) (predecessor : String) : Prop :=
  match mode with
  | .all => ∀ task ∈ tasks, task.templateId = predecessor →
      task.status = .completed ∨ task.status = .skipped
  | .any => (∃ task ∈ tasks, task.templateId = predecessor ∧ task.status = .completed) ∨
      ∀ task ∈ tasks, task.templateId = predecessor → task.status = .skipped

theorem terminal_iff (status : TaskStatus) :
    status.terminal = true ↔ status = .completed ∨ status = .skipped := by
  cases status <;> simp [TaskStatus.terminal]

theorem held_iff (status : TaskStatus) :
    status.held = true ↔ status = .notStarted ∨ status = .waiting := by
  cases status <;> simp [TaskStatus.held]

theorem held_open {status : TaskStatus} (held : status.held = true) : status.terminal = false := by
  rcases (held_iff status).mp held with rfl | rfl <;> rfl

theorem satisfied_iff (run : Run) (mode : PredecessorMode) (predecessor : String) :
    satisfied mode (run.instancesOf predecessor) = true ↔ Satisfied run.tasks mode predecessor := by
  cases mode with
  | all =>
      simp only [satisfied, Satisfied, Run.instancesOf, List.all_eq_true, List.mem_filter,
        decide_eq_true_eq, terminal_iff, and_imp]
  | any =>
      simp only [satisfied, Satisfied, Run.instancesOf, Bool.or_eq_true, List.any_eq_true,
        List.all_eq_true, List.mem_filter, decide_eq_true_eq, and_imp, and_assoc]

namespace Task

def Keeps (predecessor : String) (old new : Task) : Prop :=
  new.templateId = old.templateId ∧ (old.templateId = predecessor →
    (old.status = .completed → new.status = .completed) ∧
      (old.status = .skipped → new.status = .skipped))

def Alike (predecessor : String) (old new : Task) : Prop :=
  Keeps predecessor old new ∧ Keeps predecessor new old

end Task

theorem satisfied_keeps (old new : List Task) (mode : PredecessorMode) (predecessor : String)
    (keeps : List.Forall₂ (Task.Keeps predecessor) old new)
    (holds : Satisfied old mode predecessor) : Satisfied new mode predecessor := by
  cases mode with
  | all =>
      intro task member template
      obtain ⟨before, found, same, kept⟩ := pointwise_back keeps task member
      have own : before.templateId = predecessor := same ▸ template
      exact (holds before found own).imp (kept own).1 (kept own).2
  | any =>
      rcases holds with ⟨task, member, own, completed⟩ | skipped
      · obtain ⟨after, found, same, kept⟩ := pointwise_forth keeps task member
        exact .inl ⟨after, found, same ▸ own, (kept own).1 completed⟩
      · refine .inr fun task member template => ?_
        obtain ⟨before, found, same, kept⟩ := pointwise_back keeps task member
        have own : before.templateId = predecessor := same ▸ template
        exact (kept own).2 (skipped before found own)

theorem satisfied_alike (old new : List Task) (mode : PredecessorMode) (predecessor : String)
    (alike : List.Forall₂ (Task.Alike predecessor) old new) :
    Satisfied new mode predecessor ↔ Satisfied old mode predecessor := by
  constructor
  · exact satisfied_keeps new old mode predecessor (alike.imp fun _ _ pair => pair.2).flip
  · exact satisfied_keeps old new mode predecessor (alike.imp fun _ _ pair => pair.1)

namespace Run

def free (run : Run) (id : String) : Bool :=
  match run.template? id with
  | some template => run.unblocked template
  | none => false

theorem unblocked_iff (run : Run) (template : TaskTemplate) :
    run.unblocked template = true ↔ ∀ predecessor ∈ template.predecessorIds,
      Satisfied run.tasks template.predecessorMode predecessor := by
  simp only [unblocked, List.all_eq_true, satisfied_iff]

theorem free_iff (run : Run) (id : String) :
    run.free id = true ↔ ∃ template, run.template? id = some template ∧
      ∀ predecessor ∈ template.predecessorIds,
        Satisfied run.tasks template.predecessorMode predecessor := by
  unfold free
  cases found : run.template? id with
  | none => simp
  | some template => simp [unblocked_iff]

theorem template_mem (run : Run) (id : String) (template : TaskTemplate)
    (found : run.template? id = some template) : template ∈ run.templates ∧ template.id = id := by
  refine ⟨List.mem_reverse.mp (List.mem_of_find?_eq_some found), ?_⟩
  simpa using List.find?_some found

theorem template_of_mem (run : Run) (template : TaskTemplate)
    (distinct : (run.templates.map TaskTemplate.id).Nodup) (member : template ∈ run.templates) :
    run.template? template.id = some template := by
  have reversed : (run.templates.reverse.map TaskTemplate.id).Nodup := by
    rw [List.map_reverse]
    exact List.nodup_reverse.mpr distinct
  exact find_key TaskTemplate.id run.templates.reverse template reversed (List.mem_reverse.mpr member)

theorem free_keeps (run : Run) (tasks : List Task) (id : String)
    (keeps : ∀ predecessor, List.Forall₂ (Task.Keeps predecessor) run.tasks tasks)
    (holds : run.free id = true) : ({ run with tasks } : Run).free id = true := by
  obtain ⟨template, found, satisfied⟩ := (run.free_iff id).mp holds
  refine (free_iff _ id).mpr ⟨template, found, fun predecessor listed => ?_⟩
  exact satisfied_keeps _ _ _ predecessor (keeps predecessor) (satisfied predecessor listed)

theorem free_alike (run : Run) (tasks : List Task) (id : String)
    (alike : ∀ template, run.template? id = some template → ∀ predecessor ∈ template.predecessorIds,
      List.Forall₂ (Task.Alike predecessor) run.tasks tasks) :
    ({ run with tasks } : Run).free id = run.free id := by
  rw [Bool.eq_iff_iff, free_iff, free_iff]
  refine exists_congr fun template => and_congr_right fun found => ?_
  refine forall₂_congr fun predecessor listed => ?_
  exact satisfied_alike _ _ _ predecessor (alike template found predecessor listed)

theorem mem_dependents (run : Run) (predecessor id : String) :
    id ∈ run.dependents predecessor ↔
      ∃ template ∈ run.templates, template.id = id ∧ predecessor ∈ template.predecessorIds := by
  rw [dependents, mem_successors, mem_predecessor_arcs]

theorem free_elsewhere (run : Run) (tasks : List Task) (changed id : String)
    (apart : id ∉ run.dependents changed)
    (alike : ∀ predecessor, predecessor ≠ changed →
      List.Forall₂ (Task.Alike predecessor) run.tasks tasks) :
    ({ run with tasks } : Run).free id = run.free id := by
  refine run.free_alike tasks id fun template found predecessor listed => alike predecessor ?_
  rintro rfl
  obtain ⟨member, same⟩ := template_mem run id template found
  exact apart ((run.mem_dependents _ id).mpr ⟨template, member, same, listed⟩)

def freed (run : Run) (ids : List String) (task : Task) : Task :=
  if task.templateId ∈ ids ∧ run.free task.templateId = true ∧ task.status.held = true then
    { task with status := .ready }
  else task

theorem freed_cases (run : Run) (ids : List String) (task : Task) :
    (task.templateId ∈ ids ∧ run.free task.templateId = true ∧ task.status.held = true ∧
      run.freed ids task = { task with status := .ready }) ∨
    (¬ (task.templateId ∈ ids ∧ run.free task.templateId = true ∧ task.status.held = true) ∧
      run.freed ids task = task) := by
  unfold freed
  split
  · rename_i released
    exact .inl ⟨released.1, released.2.1, released.2.2, rfl⟩
  · rename_i kept
    exact .inr ⟨kept, rfl⟩

theorem freed_done (run : Run) (ids : List String) {task : Task} (done : task.status.terminal = true) :
    run.freed ids task = task := by
  rcases run.freed_cases ids task with ⟨_, _, held, _⟩ | ⟨_, same⟩
  · rw [held_open held] at done
    cases done
  · exact same

theorem freed_alike (run : Run) (ids : List String) (predecessor : String) (task : Task) :
    Task.Alike predecessor task (run.freed ids task) := by
  rcases run.freed_cases ids task with ⟨_, _, held, same⟩ | ⟨_, same⟩
  · rw [same]
    constructor
    · refine ⟨rfl, fun _ => ⟨?_, ?_⟩⟩ <;> intro done <;> simp [done, TaskStatus.held] at held
    · exact ⟨rfl, fun _ => ⟨by simp, by simp⟩⟩
  · rw [same]
    exact ⟨⟨rfl, fun _ => ⟨fun done => done, fun done => done⟩⟩,
      ⟨rfl, fun _ => ⟨fun done => done, fun done => done⟩⟩⟩

theorem free_judged (run judge : Run) (ids : List String) (id : String) :
    ({ run with tasks := run.tasks.map (judge.freed ids) } : Run).free id = run.free id := by
  refine run.free_alike _ id fun _ _ predecessor _ => ?_
  exact List.forall₂_map_right_iff.mpr (List.forall₂_same.mpr fun task _ =>
    judge.freed_alike ids predecessor task)

theorem free_freed (run : Run) (ids : List String) (id : String) :
    ({ run with tasks := run.tasks.map (run.freed ids) } : Run).free id = run.free id :=
  run.free_judged run ids id

theorem release_run (run : Run) (id : String) :
    (run.release id).1 = { run with tasks := run.tasks.map (run.freed [id]) } := by
  have unchanged (shut : run.free id = false) : run.tasks.map (run.freed [id]) = run.tasks := by
    refine (List.map_congr_left fun task _ => ?_).trans run.tasks.map_id
    rcases run.freed_cases [id] task with ⟨own, clear, _⟩ | ⟨_, same⟩
    · rw [List.mem_singleton.mp own, shut] at clear
      cases clear
    · exact same
  unfold release
  cases found : run.template? id with
  | none => rw [unchanged (by simp [free, found])]
  | some template =>
      by_cases clear : run.unblocked template = true
      · simp only [if_pos clear]
        congr 1
        refine List.map_congr_left fun task _ => ?_
        have released : run.free id = true := by simpa [free, found] using clear
        unfold releaseTask freed
        by_cases own : task.templateId = id
        · simp [own, released]
        · simp [own]
      · simp only [if_neg clear]
        rw [unchanged (by simpa [free, found] using clear)]

-- No release frees a template for the ones after it, so they all judge by the run they start from.
theorem release_all_run (run : Run) (ids : List String) :
    (run.releaseAll ids).1 = { run with tasks := run.tasks.map (run.freed ids) } := by
  induction ids generalizing run with
  | nil =>
      have unchanged : run.tasks.map (run.freed []) = run.tasks :=
        (List.map_congr_left fun task _ => by simp [freed]).trans run.tasks.map_id
      rw [unchanged]
      rfl
  | cons id rest ih =>
      change (((run.release id).1).releaseAll rest).1 = _
      rw [ih, release_run]
      simp only [List.map_map]
      congr 1
      refine List.map_congr_left fun task _ => ?_
      rw [Function.comp_apply]
      rcases run.freed_cases [id] task with ⟨own, clear, held, same⟩ | ⟨kept, same⟩
      · have listed : task.templateId ∈ id :: rest := by simp [List.mem_singleton.mp own]
        rw [same, freed, if_neg (by simp [TaskStatus.held]), freed, if_pos ⟨listed, clear, held⟩]
      · rw [same, freed, freed, run.free_freed [id]]
        by_cases own : task.templateId = id
        · have shut : ¬ (run.free task.templateId = true ∧ task.status.held = true) :=
            fun both => kept ⟨by simp [own], both⟩
          rw [if_neg fun all => shut all.2, if_neg fun all => shut all.2]
        · simp [own]

end Run

end Workflow
