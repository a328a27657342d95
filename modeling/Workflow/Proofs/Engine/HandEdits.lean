import Workflow.Proofs.Engine.Preview
import Workflow.Proofs.Task.Edited

set_option autoImplicit false

namespace Workflow

open Engine (Setting)

theorem compiled_distinct {graph : Graph} {config : Config} {compiled : Compiled}
    (done : graph.compileWith config = .ok compiled) :
    (compiled.tasks.map TaskTemplate.id).Nodup :=
  (compile_checked (Graph.compile_with_own done)).2.distinct

section Edits

variable {draft : Draft} {graph : Graph} {edits : List TaskTemplate}

theorem edited_content_iff (config : Config) (drawn : draft.graph = some graph)
    (edited : draft.tasks = some edits) (content : Graph × List TaskTemplate) :
    draft.content config = .ok content ↔
      ∃ compiled, graph.compileWith config = .ok compiled ∧
        (∀ edit ∈ edits, edit.id ∈ compiled.tasks.map TaskTemplate.id) ∧
          content = (compiled.graph, compiled.tasks.map (·.overridden edits)) := by
  rw [Draft.content, drawn, edited]
  dsimp only
  rw [bind_ok_iff]
  refine exists_congr fun compiled => and_congr_right fun done => ?_
  have applied := fun tasks => apply_edits_ok_iff compiled.tasks edits tasks (compiled_distinct done)
  rw [bind_ok_iff]
  simp only [applied, and_assoc, exists_and_left, exists_eq_left]
  exact and_congr_right fun _ => ⟨fun same => (Except.ok.inj same).symm, fun same => congrArg _ same.symm⟩

theorem edited_checked_iff (config : Config) (drawn : draft.graph = some graph)
    (edited : draft.tasks = some edits) (content : Graph × List TaskTemplate) :
    draft.checked config = .ok content ↔
      Text.trim draft.title ≠ "" ∧
        ∃ compiled, graph.compileWith config = .ok compiled ∧
          (∀ edit ∈ edits, edit.id ∈ compiled.tasks.map TaskTemplate.id) ∧
            check (compiled.tasks.map (·.overridden edits)) = .ok () ∧
              content = (compiled.graph, compiled.tasks.map (·.overridden edits)) := by
  rw [Draft.checked]
  by_cases titled : Text.trim draft.title = ""
  · simp [titled]
  · rw [if_neg titled, and_iff_right titled, bind_ok_iff]
    refine ⟨fun accepted => ?_, fun accepted => ?_⟩
    · obtain ⟨_, made, rest⟩ := accepted
      obtain ⟨compiled, done, known, rfl⟩ := (edited_content_iff config drawn edited _).mp made
      obtain ⟨_, passed, same⟩ := (bind_ok_iff _ _ _).mp rest
      exact ⟨compiled, done, known, passed, (Except.ok.inj same).symm⟩
    · obtain ⟨compiled, done, known, passed, same⟩ := accepted
      have made := (edited_content_iff config drawn edited _).mpr ⟨compiled, done, known, rfl⟩
      exact ⟨_, made, (bind_ok_iff _ _ _).mpr ⟨(), passed, congrArg Except.ok same.symm⟩⟩

end Edits

theorem hand_edits_exact (setting : Setting) (world : World Shelf) (draft : Draft) (graph : Graph)
    (edits : List TaskTemplate) (unnamed : draft.id = none) (drawn : draft.graph = some graph)
    (edited : draft.tasks = some edits) :
    let (answer, later) := setting.shelved.perform (.saveTemplate draft) world
    ((∃ saved, answer = .ok (.template saved)) ↔
        Text.trim draft.title ≠ "" ∧
          ∃ compiled, graph.compileWith setting.config = .ok compiled ∧
            (∀ edit ∈ edits, edit.id ∈ compiled.tasks.map TaskTemplate.id) ∧
              check (compiled.tasks.map (·.overridden edits)) = .ok ()) ∧
      (∀ saved, answer = .ok (.template saved) →
        ∃ compiled, graph.compileWith setting.config = .ok compiled ∧
          saved.tasks = compiled.tasks.map (·.overridden edits) ∧ saved.graph = compiled.graph ∧
            later.store.template? saved.id = some saved) ∧
      ∀ error, answer = .error error → later = world := by
  have accepted := edited_checked_iff setting.config drawn edited
  rw [save_unnamed_run setting world unnamed]
  cases checked : draft.checked setting.config with
  | error error =>
      refine ⟨⟨fun ⟨_, given⟩ => ?_, fun ⟨titled, compiled, done, known, passed⟩ => ?_⟩,
        fun _ given => ?_, fun _ _ => rfl⟩
      · cases given
      · have fine := (accepted _).mpr ⟨titled, compiled, done, known, passed, rfl⟩
        cases checked.symm.trans fine
      · cases given
  | ok content =>
      obtain ⟨titled, compiled, done, known, passed, rfl⟩ := (accepted content).mp checked
      refine ⟨⟨fun _ => ⟨titled, compiled, done, known, passed⟩, fun _ => ⟨_, rfl⟩⟩,
        fun _ given => ?_, fun _ given => ?_⟩
      · cases given
        exact ⟨compiled, done, rfl, rfl, put_found Template.id _ world.store.templates⟩
      · cases given

def reorderEdits : List TaskTemplate :=
  [{ id := "c", name := "other", predecessorIds := ["ghost"] },
    { id := "a", name := "other", predecessorIds := ["c"] }, { id := "c", name := "other" }]

def reorderDraft : Draft := { chainDraft "a" with tasks := some reorderEdits }

theorem hand_edits_exact_reorder :
    reorderDraft.id = none ∧ reorderDraft.graph = some (chainGraph "a") ∧
      reorderDraft.tasks = some reorderEdits ∧
        ∃ saved, (numbered.shelved.perform (.saveTemplate reorderDraft) (Engine.outset {})).1 =
            .ok (.template saved) ∧
          saved.tasks = [{ id := "a", name := "a", predecessorIds := ["c"] },
            { id := "c", name := "c", orderHint := 1 }] ∧ saved.graph = chainGraph "a" := by
  have compiled : (chainGraph "a").compileWith numbered.config =
      .ok ⟨chainGraph "a", chainTasks "a" ["a"], false⟩ := by cbv
  have known : ∀ edit ∈ reorderEdits, edit.id ∈ (chainTasks "a" ["a"]).map TaskTemplate.id := by decide
  have passed : check ((chainTasks "a" ["a"]).map (·.overridden reorderEdits)) = .ok () := by cbv
  obtain ⟨saves, stored, _⟩ := hand_edits_exact numbered (Engine.outset {}) reorderDraft (chainGraph "a")
    reorderEdits rfl rfl rfl
  obtain ⟨saved, answered⟩ := saves.mpr ⟨by decide, _, compiled, known, passed⟩
  obtain ⟨again, done, tasks, graph, _⟩ := stored saved answered
  cases compiled.symm.trans done
  exact ⟨rfl, rfl, rfl, saved, answered, tasks.trans (by decide), graph⟩

end Workflow
