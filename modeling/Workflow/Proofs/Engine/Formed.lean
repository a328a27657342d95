import Workflow.Proofs.Engine.Writes
import Workflow.Proofs.Task.Edited

set_option autoImplicit false

namespace Workflow

open Engine (Setting Answer Call)

structure Template.Formed (template : Template) : Prop where
  trimmed : Text.trim template.title = template.title
  titled : Text.blank template.title = false
  accepted : check template.tasks = .ok ()
  -- Without a diagram the template was stored as a task list.
  drawn : template.graph = {} ∨ template.graph.Valid ∧
    (template.tasks.map TaskTemplate.id).Perm (template.graph.tasks.map Node.id)

structure Run.Formed (run : Run) : Prop where
  tasked : run.templates ≠ []
  accepted : check run.templates = .ok ()
  staffed : ∀ template ∈ run.templates, ∃ task ∈ run.tasks, task.templateId = template.id
  placed : ∀ task ∈ run.tasks, ∃ template ∈ run.templates, template.id = task.templateId
  owned : ∀ task ∈ run.tasks, task.processId = run.id

theorem compile_task_ids {graph : Graph} {tasks : List TaskTemplate}
    (compiled : graph.compile = .ok tasks) :
    graph.Valid ∧ (tasks.map TaskTemplate.id).Perm (graph.tasks.map Node.id) := by
  obtain ⟨valid, same⟩ := (graph.compile_ok_iff tasks).mp compiled
  have drawn := (valid_iff graph).mp valid
  refine ⟨valid, ?_⟩
  have listed : (graph.tasks.map Node.id).Nodup :=
    drawn.distinctNodes.sublist (List.filter_sublist.map Node.id)
  have formed := (Graph.compile_well_formed drawn).distinct
  rw [same]
  refine (List.perm_ext_iff_of_nodup formed listed).mpr fun id => ?_
  rw [Graph.mem_compile_ids drawn]
  simp [Graph.OfKind, Graph.tasks, Graph.ofKind, and_comm, and_assoc]

theorem content_graph {draft : Draft} {config : Config} {graph : Graph} {tasks : List TaskTemplate}
    (made : draft.content config = .ok (graph, tasks)) :
    graph = {} ∨ graph.Valid ∧ (tasks.map TaskTemplate.id).Perm (graph.tasks.map Node.id) := by
  unfold Draft.content at made
  split at made
  · obtain ⟨compiled, done, same⟩ := (bind_ok_iff _ _ _).mp made
    cases same
    exact .inr (compile_task_ids (Graph.compile_with_own done))
  · obtain ⟨compiled, done, edited⟩ := (bind_ok_iff _ _ _).mp made
    obtain ⟨_, changed, same⟩ := (bind_ok_iff _ _ _).mp edited
    cases same
    obtain ⟨valid, ids⟩ := compile_task_ids (Graph.compile_with_own done)
    exact .inr ⟨valid, apply_edits_ids changed ▸ ids⟩
  · cases made
    exact .inl rfl
  · cases made

theorem checked_titled {draft : Draft} {config : Config} {content : Graph × List TaskTemplate}
    (accepted : draft.checked config = .ok content) : Text.trim draft.title ≠ "" := by
  intro blank
  rw [Draft.checked, if_pos blank] at accepted
  cases accepted

theorem draft_formed {draft : Draft} {config : Config} {graph : Graph} {tasks : List TaskTemplate}
    (accepted : draft.checked config = .ok (graph, tasks)) (id : Uuid)
    (createdAt updatedAt : Instant) :
    (draft.template graph tasks id createdAt updatedAt).Formed := by
  obtain ⟨made, sound⟩ := checked_ok accepted
  exact ⟨Text.trim_idempotent _, Text.trim_not_blank (checked_titled accepted), sound,
    content_graph made⟩

theorem request_tasked {request : StartRequest} {template : Template} {limit : Nat}
    (accepted : request.check template limit = .ok ()) : template.tasks ≠ [] := by
  intro none
  rw [StartRequest.check, none, List.isEmpty_nil, if_pos rfl] at accepted
  cases accepted

namespace Run

theorem launch_formed {request : StartRequest} {template : Template} {seeds : List Seed}
    {now : Instant} {ids : Nat → Uuid} {run : Run} {events : List Event}
    (launched : request.launch template seeds now ids = .ok (run, events))
    (tasked : template.tasks ≠ []) (accepted : check template.tasks = .ok ()) : run.Formed := by
  obtain ⟨_, _, rest⟩ := (bind_ok_iff _ _ _).mp launched
  obtain ⟨templates, process⟩ := launch_templates rest
  rw [← templates] at tasked accepted
  refine ⟨tasked, accepted, ?_, ?_, fun task member => ?_⟩
  · rw [templates]
    exact launch_staffed rest
  · rw [templates]
    exact launch_placed rest
  · rw [Run.id, process]
    exact launch_owned rest task member

-- Of its tasks only what no move writes is asked for.
theorem move_formed {run next : Run} {now : Instant} {move : Move} {events : List Event}
    (moved : run.apply now move = .ok (next, events)) (formed : run.Formed) : next.Formed := by
  have made := (run.apply_ok_iff now move _).mp moved
  have templates : next.templates = run.templates := run.makes_templates now move _ made
  have tasks : next.tasks.map (fun task => (task.templateId, task.processId)) =
      run.tasks.map fun task => (task.templateId, task.processId) :=
    run.makes_field _ (fun _ _ _ _ => rfl) now move _ made
  have back (task : Task) (member : task ∈ next.tasks) :
      ∃ old ∈ run.tasks, old.templateId = task.templateId ∧ old.processId = task.processId := by
    obtain ⟨old, among, same⟩ := List.mem_map.mp (tasks ▸ List.mem_map_of_mem member)
    exact ⟨old, among, Prod.mk.inj same⟩
  refine ⟨templates ▸ formed.tasked, templates ▸ formed.accepted, fun template member => ?_,
    fun task member => ?_, fun task member => ?_⟩
  · obtain ⟨old, among, same⟩ := formed.staffed template (templates ▸ member)
    obtain ⟨task, member, pair⟩ := List.mem_map.mp (tasks.symm ▸ List.mem_map_of_mem among)
    exact ⟨task, member, (Prod.mk.inj pair).1.trans same⟩
  · obtain ⟨old, among, same, -⟩ := back task member
    rw [templates, ← same]
    exact formed.placed old among
  · obtain ⟨old, among, -, same⟩ := back task member
    rw [← same, move_own moved]
    exact formed.owned old among

end Run

end Workflow
