import Workflow.Proofs.Engine.Outcome
import Workflow.Proofs.Engine.Sessions

set_option autoImplicit false

namespace Workflow

open Engine (Setting Answer)

theorem compile_checked {graph : Graph} {tasks : List TaskTemplate}
    (compiled : graph.compile = .ok tasks) : check tasks = .ok () ∧ WellFormed tasks := by
  obtain ⟨valid, same⟩ := (graph.compile_ok_iff tasks).mp compiled
  have formed : WellFormed tasks := same ▸ Graph.compile_well_formed ((valid_iff graph).mp valid)
  exact ⟨(check_ok_iff tasks).mpr formed, formed⟩

theorem drawn_checked {draft : Draft} {graph : Graph} (config : Config)
    (titled : Text.trim draft.title ≠ "") (drawn : draft.graph = some graph)
    (unedited : draft.tasks = none) :
    draft.checked config =
      (graph.compileWith config).map fun compiled => (compiled.graph, compiled.tasks) := by
  rw [Draft.checked, if_neg titled, Draft.content, drawn, unedited]
  dsimp only
  cases done : graph.compileWith config with
  | error error => rfl
  | ok compiled =>
      have accepted := (compile_checked (Graph.compile_with_own done)).1
      change (check compiled.tasks >>= fun _ => Except.ok (compiled.graph, compiled.tasks)) = _
      rw [accepted]
      rfl

section Drafts

variable (setting : Setting) (world : World Shelf)

theorem preview_run (graph : Graph) :
    setting.shelved.perform (.preview graph) world =
      ((graph.compileWith setting.config).map .compiled, world) := by
  change (Answer.compiled <$> setting.shelved.preview graph).run world = _
  have looked := except_run (graph.compileWith setting.config) world
  rw [Lockstep.act_map_run, Engine.preview]
  exact congrArg (fun ended => (ended.1.map Answer.compiled, ended.2)) looked

theorem save_unnamed_run {draft : Draft} (unnamed : draft.id = none) :
    setting.shelved.perform (.saveTemplate draft) world =
      match draft.checked setting.config with
      | .ok (graph, tasks) =>
        let saved := draft.template graph tasks (setting.ids world.drawn) world.clock world.clock
        (.ok (.template saved),
          { world with store := world.store.putTemplate saved, drawn := world.drawn + 1 })
      | .error error => (.error error, world) := by
  have same : setting.shelved.config = setting.config := rfl
  change (Answer.template <$> setting.shelved.saveTemplate draft).run world = _
  rw [Lockstep.act_map_run, Engine.saveTemplate, unnamed, same]
  cases draft.checked setting.config with
  | ok content => rfl
  | error error => rfl

theorem save_new_run {draft : Draft} {graph : Graph} (unnamed : draft.id = none)
    (titled : Text.trim draft.title ≠ "") (drawn : draft.graph = some graph)
    (unedited : draft.tasks = none) :
    setting.shelved.perform (.saveTemplate draft) world =
      match graph.compileWith setting.config with
      | .ok compiled =>
        let saved := draft.template compiled.graph compiled.tasks (setting.ids world.drawn)
          world.clock world.clock
        (.ok (.template saved),
          { world with store := world.store.putTemplate saved, drawn := world.drawn + 1 })
      | .error error => (.error error, world) := by
  rw [save_unnamed_run setting world unnamed, drawn_checked setting.config titled drawn unedited]
  cases graph.compileWith setting.config with
  | ok compiled => rfl
  | error error => rfl

end Drafts

theorem preview_exact (graph : Graph) :
    (∀ tasks, graph.compile = .ok tasks → check tasks = .ok () ∧ WellFormed tasks) ∧
    ∀ (setting : Setting) (world : World Shelf) (draft : Draft), draft.id = none →
      Text.trim draft.title ≠ "" → draft.graph = some graph → draft.tasks = none →
        let previewed := (setting.shelved.perform (.preview graph) world).1
        let (answer, later) := setting.shelved.perform (.saveTemplate draft) world
        ((∃ saved, answer = .ok (.template saved)) ↔ ∃ compiled, previewed = .ok (.compiled compiled)) ∧
          (∀ saved compiled, answer = .ok (.template saved) → previewed = .ok (.compiled compiled) →
            saved.tasks = compiled.tasks ∧ saved.graph = compiled.graph ∧
              later.store.template? saved.id = some saved) ∧
          ∀ error, previewed = .error error → answer = .error error ∧ later = world := by
  refine ⟨fun tasks compiled => compile_checked compiled, ?_⟩
  intro setting world draft unnamed titled drawn unedited
  rw [preview_run, save_new_run setting world unnamed titled drawn unedited]
  cases graph.compileWith setting.config with
  | error error =>
      refine ⟨by simp [Except.map], fun _ _ given => ?_, fun _ given => ?_⟩
      · cases given
      · cases given
        exact ⟨rfl, rfl⟩
  | ok compiled =>
      refine ⟨⟨fun _ => ⟨compiled, rfl⟩, fun _ => ⟨_, rfl⟩⟩, fun _ _ given shown => ?_,
        fun _ given => ?_⟩
      · cases given
        cases shown
        exact ⟨rfl, rfl, put_found Template.id _ world.store.templates⟩
      · cases given

theorem preview_exact_release :
    (chainGraph "a").compile = .ok (chainTasks "a" ["a"]) ∧ check (chainTasks "a" ["a"]) = .ok () ∧
      (chainDraft "a").id = none ∧ Text.trim (chainDraft "a").title ≠ "" ∧
        (chainDraft "a").graph = some (chainGraph "a") ∧ (chainDraft "a").tasks = none ∧
          ∃ saved, (numbered.shelved.perform (.saveTemplate (chainDraft "a")) (Engine.outset {})).1 =
              .ok (.template saved) ∧
            saved.tasks = chainTasks "a" ["a"] ∧ saved.graph = chainGraph "a" := by
  have compiled : (chainGraph "a").compile = .ok (chainTasks "a" ["a"]) := by cbv
  have titled : Text.trim (chainDraft "a").title ≠ "" := by decide
  have previewed : (numbered.shelved.perform (.preview (chainGraph "a")) (Engine.outset {})).1 =
    .ok (.compiled ⟨chainGraph "a", chainTasks "a" ["a"], false⟩) := by cbv
  obtain ⟨accepted, saves⟩ := preview_exact (chainGraph "a")
  obtain ⟨saves, stored, _⟩ := saves numbered (Engine.outset {}) (chainDraft "a") rfl titled rfl rfl
  obtain ⟨saved, answered⟩ := saves.mpr ⟨_, previewed⟩
  obtain ⟨tasks, graph, _⟩ := stored saved _ answered previewed
  exact ⟨compiled, (accepted _ compiled).1, rfl, titled, rfl, rfl, saved, answered, tasks, graph⟩

end Workflow
