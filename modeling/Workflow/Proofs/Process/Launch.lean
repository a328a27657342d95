import Workflow.Process.Launch
import Workflow.Proofs.Basic

set_option autoImplicit false

namespace Workflow

theorem plant_all_pointwise (process : Process) (ids : Nat → Uuid) (number : Nat)
    (plantings : List (TaskTemplate × Seed)) (tasks : List Task)
    (planted : plantAll process ids number plantings = .ok tasks) :
    List.Forall₂ (fun planting task => ∃ id, plant process id planting.1 planting.2 = .ok task)
      plantings tasks := by
  induction plantings generalizing number tasks with
  | nil =>
      cases planted
      exact .nil
  | cons planting rest ih =>
      simp only [plantAll, bind_ok_iff] at planted
      obtain ⟨task, first, later, others, same⟩ := planted
      cases same
      exact .cons ⟨ids number, first⟩ (ih (number + 1) later others)

theorem plant_template (process : Process) (id : Uuid) (template : TaskTemplate) (seed : Seed)
    (task : Task) (planted : plant process id template seed = .ok task) :
    task.templateId = template.id := by
  simp only [plant, bind_ok_iff] at planted
  obtain ⟨_, _, same⟩ := planted
  cases same
  rfl

theorem plant_process (process : Process) (id : Uuid) (template : TaskTemplate) (seed : Seed)
    (task : Task) (planted : plant process id template seed = .ok task) :
    task.processId = process.id := by
  simp only [plant, bind_ok_iff] at planted
  obtain ⟨_, _, same⟩ := planted
  cases same
  rfl

theorem plant_undated (process : Process) (id : Uuid) (template : TaskTemplate) (seed : Seed)
    (task : Task) (planted : plant process id template seed = .ok task) :
    task.actualStartAt = none ∧ task.actualEndAt = none := by
  simp only [plant, bind_ok_iff] at planted
  obtain ⟨_, _, same⟩ := planted
  cases same
  exact ⟨rfl, rfl⟩

theorem planting_iff (templates : List TaskTemplate) (seeds : List Seed) (template : TaskTemplate)
    (seed : Seed) : (template, seed) ∈ plantings templates seeds ↔
      template ∈ templates ∧ seed ∈ seedsOf seeds template := by
  simp only [plantings, List.mem_flatMap, List.mem_map, Prod.mk.injEq]
  constructor
  · rintro ⟨_, member, _, own, rfl, rfl⟩
    exact ⟨member, own⟩
  · rintro ⟨member, own⟩
    exact ⟨template, member, seed, own, rfl, rfl⟩

theorem mem_plantings (templates : List TaskTemplate) (seeds : List Seed) (template : TaskTemplate) :
    (∃ seed, (template, seed) ∈ plantings templates seeds) ↔ template ∈ templates := by
  have staffed : seedsOf seeds template ≠ [] := by
    unfold seedsOf
    split <;> simp_all
  simp only [planting_iff]
  constructor
  · intro ⟨_, member, _⟩
    exact member
  · intro member
    obtain ⟨seed, own⟩ := List.exists_mem_of_ne_nil _ staffed
    exact ⟨seed, member, own⟩

namespace Run

variable {process : Process} {templates : List TaskTemplate} {seeds : List Seed} {ids : Nat → Uuid}
  {run : Run} {events : List Event}

theorem launch_planted (launched : launch process templates seeds ids = .ok (run, events)) :
    ∃ tasks, plantAll process ids 0 (plantings templates seeds) = .ok tasks ∧
      opened { process := { process with status := .active }, tasks, templates } = (run, events) := by
  simp only [launch, bind_ok_iff] at launched
  obtain ⟨tasks, planted, same⟩ := launched
  cases same
  exact ⟨tasks, planted, rfl⟩

theorem launch_templates (launched : launch process templates seeds ids = .ok (run, events)) :
    run.templates = templates ∧ run.process = { process with status := .active } := by
  obtain ⟨tasks, _, same⟩ := launch_planted launched
  cases same
  exact ⟨rfl, rfl⟩

theorem launch_pointwise (launched : launch process templates seeds ids = .ok (run, events)) :
    List.Forall₂ (fun planting task => task.templateId = planting.1.id)
      (plantings templates seeds) run.tasks := by
  obtain ⟨tasks, planted, same⟩ := launch_planted launched
  cases same
  rw [List.forall₂_map_right_iff]
  refine (plant_all_pointwise process ids 0 _ tasks planted).imp fun planting task found => ?_
  obtain ⟨id, found⟩ := found
  exact plant_template process id planting.1 planting.2 task found

theorem launch_grown (launched : launch process templates seeds ids = .ok (run, events))
    (task : Task) (member : task ∈ run.tasks) :
    ∃ template seed id before status, plant process id template seed = .ok before ∧
      task = { before with status } := by
  obtain ⟨tasks, planted, same⟩ := launch_planted launched
  cases same
  obtain ⟨before, among, rfl⟩ := List.mem_map.mp member
  obtain ⟨planting, _, id, found⟩ :=
    pointwise_back (plant_all_pointwise process ids 0 _ tasks planted) before among
  exact ⟨planting.1, planting.2, id, before, _, found, rfl⟩

theorem launch_owned (launched : launch process templates seeds ids = .ok (run, events))
    (task : Task) (member : task ∈ run.tasks) : task.processId = process.id := by
  obtain ⟨template, seed, id, before, status, planted, rfl⟩ := launch_grown launched task member
  exact plant_process process id template seed before planted

theorem launch_undated (launched : launch process templates seeds ids = .ok (run, events))
    (task : Task) (member : task ∈ run.tasks) :
    task.actualStartAt = none ∧ task.actualEndAt = none := by
  obtain ⟨template, seed, id, before, status, planted, rfl⟩ := launch_grown launched task member
  exact plant_undated process id template seed before planted

theorem launch_placed (launched : launch process templates seeds ids = .ok (run, events))
    (task : Task) (member : task ∈ run.tasks) :
    ∃ template ∈ templates, template.id = task.templateId := by
  obtain ⟨⟨template, seed⟩, planting, same⟩ := pointwise_back (launch_pointwise launched) task member
  exact ⟨template, (mem_plantings templates seeds template).mp ⟨seed, planting⟩, same.symm⟩

theorem launch_staffed (launched : launch process templates seeds ids = .ok (run, events))
    (template : TaskTemplate) (member : template ∈ templates) :
    ∃ task ∈ run.tasks, task.templateId = template.id := by
  obtain ⟨seed, planting⟩ := (mem_plantings templates seeds template).mpr member
  exact pointwise_forth (launch_pointwise launched) (template, seed) planting

theorem launch_status (launched : launch process templates seeds ids = .ok (run, events))
    (task : Task) (member : task ∈ run.tasks) :
    task.status = if run.waits task then .waiting else .ready := by
  obtain ⟨tasks, _, same⟩ := launch_planted launched
  cases same
  obtain ⟨before, _, rfl⟩ := List.mem_map.mp member
  rfl

end Run

end Workflow
