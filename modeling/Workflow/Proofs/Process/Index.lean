import Mathlib.Data.List.Induction
import Workflow.Process.Basic
import Workflow.Proofs.Process.Frame

set_option autoImplicit false

namespace Workflow

namespace Index

theorem templates_snoc (templates : List TaskTemplate) (last : TaskTemplate) :
    ofTemplates (templates ++ [last]) = (ofTemplates templates).addTemplate (last, templates.length) := by
  simp [ofTemplates, List.zipIdx_append]

theorem build_snoc (templates : List TaskTemplate) (tasks : List Task) (last : Task) :
    build templates (tasks ++ [last]) = (build templates tasks).addTask (last, tasks.length) := by
  simp [build, List.zipIdx_append]

theorem place_below (templates : List TaskTemplate) (id : String) (place : Nat)
    (found : (ofTemplates templates).place? id = some place) : place < templates.length := by
  induction templates using List.reverseRecOn with
  | nil => cases found
  | append_singleton templates last ih =>
      rw [List.length_append, List.length_singleton]
      by_cases same : id = last.id
      · simp [templates_snoc, addTemplate, same] at found
        omega
      · simp only [templates_snoc, addTemplate, same, if_false] at found
        exact Nat.lt_succ_of_lt (ih found)

theorem place_of_templates (templates : List TaskTemplate) (id : String) :
    templates.reverse.find? (·.id = id) =
      ((ofTemplates templates).place? id).bind (templates[·]?) := by
  induction templates using List.reverseRecOn with
  | nil => rfl
  | append_singleton templates last ih =>
      by_cases same : id = last.id
      · simp [templates_snoc, addTemplate, same]
      · simp only [templates_snoc, addTemplate, same, if_false, List.reverse_append,
          List.reverse_singleton, List.singleton_append, List.find?_cons, Ne.symm same, decide_false, ih]
        cases found : (ofTemplates templates).place? id with
        | none => rfl
        | some place =>
            have below := place_below templates id place found
            exact (List.getElem?_append_left below).symm

theorem push_dependents (ids : List String) (own id : String) (table : String → List String) :
    ids.foldl (fun table predecessor => push table predecessor own) table id =
      table id ++ successors (ids.map fun predecessor => (predecessor, own)) id := by
  induction ids generalizing table with
  | nil => simp [successors]
  | cons first rest ih =>
      rw [List.foldl_cons, ih]
      by_cases same : id = first
      · simp [push, successors, same]
      · simp [push, successors, same, Ne.symm same]

theorem dependents_of_templates (templates : List TaskTemplate) (id : String) :
    successors (predecessorArcs templates) id = (ofTemplates templates).dependents id := by
  induction templates using List.reverseRecOn with
  | nil => rfl
  | append_singleton templates last ih =>
      have arcs : predecessorArcs (templates ++ [last]) =
          predecessorArcs templates ++ last.arcs := by
        simp [predecessorArcs]
      rw [templates_snoc, addTemplate, arcs, successors, List.filter_append, List.map_append]
      simp only [push_dependents, ← ih]
      rfl

theorem tasks_apart (templates : List TaskTemplate) (tasks : List Task) :
    (build templates tasks).place? = (ofTemplates templates).place? ∧
      (build templates tasks).dependents = (ofTemplates templates).dependents := by
  induction tasks using List.reverseRecOn with
  | nil => exact ⟨rfl, rfl⟩
  | append_singleton tasks last ih => rwa [build_snoc]

theorem templates_alone (templates : List TaskTemplate) (id : String) :
    (build templates []).instances id = [] := by
  induction templates using List.reverseRecOn with
  | nil => rfl
  | append_singleton templates last ih =>
      change (ofTemplates _).instances id = []
      rw [templates_snoc]
      exact ih

theorem instance_below (templates : List TaskTemplate) (tasks : List Task) (id : String) :
    ∀ place ∈ (build templates tasks).instances id, place < tasks.length := by
  induction tasks using List.reverseRecOn with
  | nil => simp [templates_alone]
  | append_singleton tasks last ih =>
      intro place member
      rw [List.length_append, List.length_singleton]
      by_cases same : id = last.templateId
      · simp only [build_snoc, addTask, push, same, if_true, List.mem_append,
          List.mem_singleton] at member
        rcases member with earlier | here
        · exact Nat.lt_succ_of_lt (ih place (same ▸ earlier))
        · omega
      · simp only [build_snoc, addTask, push, same, if_false] at member
        exact Nat.lt_succ_of_lt (ih place member)

theorem instances_of_tasks (templates : List TaskTemplate) (tasks : List Task) (id : String) :
    tasks.filter (·.templateId = id) =
      ((build templates tasks).instances id).filterMap (tasks[·]?) := by
  induction tasks using List.reverseRecOn with
  | nil => simp
  | append_singleton tasks last ih =>
      have kept : ((build templates tasks).instances id).filterMap ((tasks ++ [last])[·]?) =
          tasks.filter (·.templateId = id) := by
        rw [ih]
        exact List.filterMap_congr fun place member =>
          List.getElem?_append_left (instance_below templates tasks id place member)
      by_cases same : id = last.templateId
      · subst same
        simp [build_snoc, addTask, push, List.filter_append, kept]
      · simp [build_snoc, addTask, push, same, List.filter_append, kept, Ne.symm same]

theorem build_congr (templates : List TaskTemplate) (tasks others : List Task)
    (same : tasks.map Task.templateId = others.map Task.templateId) :
    build templates tasks = build templates others := by
  have byTemplate (tasks : List Task) : build templates tasks =
      (tasks.map Task.templateId).zipIdx.foldl
        (fun index entry => { index with instances := push index.instances entry.1 entry.2 })
        (ofTemplates templates) := by
    rw [build, List.zipIdx_map, List.foldl_map]
    rfl
  rw [byTemplate, byTemplate, same]

end Index

namespace Run

theorem template_indexed (run : Run) (id : String) :
    run.template? id = (run.index.place? id).bind (run.templates[·]?) := by
  rw [index, (Index.tasks_apart run.templates run.tasks).1]
  exact Index.place_of_templates run.templates id

theorem instances_indexed (run : Run) (id : String) :
    run.instancesOf id = (run.index.instances id).filterMap (run.tasks[·]?) :=
  Index.instances_of_tasks run.templates run.tasks id

theorem dependents_indexed (run : Run) (id : String) :
    run.dependents id = run.index.dependents id := by
  rw [index, (Index.tasks_apart run.templates run.tasks).2]
  exact Index.dependents_of_templates run.templates id

theorem after_index (run : Run) (moves : List (Instant × Move)) :
    (run.after moves).1.index = run.index := by
  rw [index, after_templates]
  exact Index.build_congr _ _ _ (run.after_field Task.templateId (fun _ _ _ _ => rfl) moves)

end Run

end Workflow
