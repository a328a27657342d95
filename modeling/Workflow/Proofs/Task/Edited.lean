import Workflow.Proofs.Basic
import Workflow.Task.Check

set_option autoImplicit false

namespace Workflow

def lastEdit? (edits : List TaskTemplate) (id : String) : Option TaskTemplate :=
  edits.reverse.find? fun edit => edit.id = id

def TaskTemplate.overridden (template : TaskTemplate) (edits : List TaskTemplate) : TaskTemplate :=
  match lastEdit? edits template.id with
  | some edit =>
    { template with
      predecessorIds := edit.predecessorIds
      predecessorMode := edit.predecessorMode }
  | none => template

theorem apply_edit_ids {edit : TaskTemplate} {templates edited : List TaskTemplate}
    (done : applyEdit edit templates = some edited) :
    edited.map TaskTemplate.id = templates.map TaskTemplate.id := by
  induction templates generalizing edited with
  | nil => cases done
  | cons first rest ih =>
      rw [applyEdit] at done
      split at done
      · cases done
        rfl
      · obtain ⟨others, later, same⟩ := Option.map_eq_some_iff.mp done
        cases same
        exact congrArg (first.id :: ·) (ih later)

theorem apply_edits_ids {templates edits edited : List TaskTemplate}
    (done : applyEdits templates edits = .ok edited) :
    edited.map TaskTemplate.id = templates.map TaskTemplate.id := by
  induction edits generalizing templates with
  | nil =>
      cases done
      rfl
  | cons edit rest ih =>
      rw [applyEdits] at done
      split at done
      · next changed first => exact (ih done).trans (apply_edit_ids first)
      · cases done

theorem last_edit_cons (edit : TaskTemplate) (edits : List TaskTemplate) (id : String) :
    lastEdit? (edit :: edits) id =
      (lastEdit? edits id).or (if edit.id = id then some edit else none) := by
  rw [lastEdit?, List.reverse_cons, List.find?_append, List.find?_singleton]
  by_cases same : edit.id = id
  · simp [lastEdit?, same]
  · simp [lastEdit?, same]

theorem overridden_id (template : TaskTemplate) (edits : List TaskTemplate) :
    (template.overridden edits).id = template.id := by
  rw [TaskTemplate.overridden]
  cases lastEdit? edits template.id <;> rfl

theorem overridden_ids (templates edits : List TaskTemplate) :
    (templates.map (·.overridden edits)).map TaskTemplate.id = templates.map TaskTemplate.id := by
  rw [List.map_map]
  exact List.map_congr_left fun template _ => overridden_id template edits

theorem overridden_own {template edit : TaskTemplate} (own : template.id = edit.id) :
    template.overridden [edit] = template.edited edit := by
  rw [TaskTemplate.overridden, last_edit_cons, if_pos own.symm]
  rfl

theorem overridden_other {template edit : TaskTemplate} (other : template.id ≠ edit.id) :
    template.overridden [edit] = template := by
  rw [TaskTemplate.overridden, last_edit_cons, if_neg (Ne.symm other)]
  rfl

theorem overridden_twice (template edit : TaskTemplate) (edits : List TaskTemplate) :
    (template.overridden [edit]).overridden edits = template.overridden (edit :: edits) := by
  by_cases own : template.id = edit.id
  · rw [overridden_own own, TaskTemplate.overridden, TaskTemplate.overridden, last_edit_cons,
      if_pos own.symm]
    dsimp only [TaskTemplate.edited]
    cases lastEdit? edits template.id <;> rfl
  · rw [overridden_other own, TaskTemplate.overridden, TaskTemplate.overridden, last_edit_cons,
      if_neg (Ne.symm own), Option.or_none]

theorem apply_edit_run (edit : TaskTemplate) (templates : List TaskTemplate)
    (distinct : (templates.map TaskTemplate.id).Nodup) :
    applyEdit edit templates =
      if edit.id ∈ templates.map TaskTemplate.id then
        some (templates.map (·.overridden [edit])) else none := by
  induction templates with
  | nil => rfl
  | cons first rest ih =>
      rw [List.map_cons, List.nodup_cons] at distinct
      by_cases own : first.id = edit.id
      · have others : rest.map (·.overridden [edit]) = rest := by
          rw [List.map_congr_left fun template member => overridden_other fun same => ?_, List.map_id']
          exact distinct.1 (own ▸ same ▸ List.mem_map_of_mem member)
        rw [applyEdit, if_pos own, if_pos (List.mem_map.mpr ⟨first, List.mem_cons_self, own⟩),
          List.map_cons, overridden_own own, others]
      · have here : edit.id ∈ (first :: rest).map TaskTemplate.id ↔
            edit.id ∈ rest.map TaskTemplate.id := by
          rw [List.map_cons, List.mem_cons, or_iff_right (Ne.symm own)]
        have whole : (first :: rest).map (·.overridden [edit]) =
            first :: rest.map (·.overridden [edit]) := by
          rw [List.map_cons, overridden_other own]
        rw [applyEdit, if_neg own, ih distinct.2, whole]
        by_cases known : edit.id ∈ rest.map TaskTemplate.id
        · rw [if_pos known, if_pos (here.mpr known)]
          rfl
        · rw [if_neg known, if_neg (known ∘ here.mp)]
          rfl

theorem apply_edits_ok_iff (templates edits edited : List TaskTemplate)
    (distinct : (templates.map TaskTemplate.id).Nodup) :
    applyEdits templates edits = .ok edited ↔
      (∀ edit ∈ edits, edit.id ∈ templates.map TaskTemplate.id) ∧
        edited = templates.map (·.overridden edits) := by
  induction edits generalizing templates with
  | nil =>
      have kept : templates.map (·.overridden []) = templates := List.map_id templates
      rw [applyEdits, kept]
      simp [eq_comm]
  | cons edit rest ih =>
      rw [applyEdits, apply_edit_run edit templates distinct]
      by_cases known : edit.id ∈ templates.map TaskTemplate.id
      · have twice : (templates.map (·.overridden [edit])).map (·.overridden rest) =
            templates.map (·.overridden (edit :: rest)) := by
          rw [List.map_map]
          exact List.map_congr_left fun template _ => overridden_twice template edit rest
        have still := overridden_ids templates [edit]
        rw [if_pos known, List.forall_mem_cons, and_iff_right known]
        dsimp only
        rw [ih _ (still ▸ distinct), still, twice]
      · rw [if_neg known, List.forall_mem_cons]
        simp [known]

theorem overridden_again (templates edits : List TaskTemplate)
    (distinct : (templates.map TaskTemplate.id).Nodup) :
    templates.map (·.overridden (templates.map (·.overridden edits))) =
      templates.map (·.overridden edits) := by
  refine List.map_congr_left fun template member => ?_
  have apart : ((templates.map (·.overridden edits)).reverse.map TaskTemplate.id).Nodup := by
    rw [List.map_reverse, List.nodup_reverse, overridden_ids]
    exact distinct
  have listed : template.overridden edits ∈ (templates.map (·.overridden edits)).reverse :=
    List.mem_reverse.mpr (List.mem_map_of_mem member)
  have last : lastEdit? (templates.map (·.overridden edits)) template.id =
      some (template.overridden edits) := by
    rw [lastEdit?, ← overridden_id template edits]
    exact find_key TaskTemplate.id _ _ apart listed
  rw [TaskTemplate.overridden, last, TaskTemplate.overridden]
  cases lastEdit? edits template.id <;> rfl

end Workflow
