import Workflow.Proofs.Process.Readiness
import Workflow.Proofs.Process.Released

/-!
Every state that the operations of a run lead to, a recheck of all templates among them. The recheck
finds nothing to release in such a state, so the moves alone lead to all of them. Of a run that was
never launched, whatever it holds, one recheck releases all that can be released.
-/

set_option autoImplicit false

namespace Workflow.Run

inductive Reached (start : Run) : Run → Prop where
  | here : Reached start start
  | moved {run : Run} (earlier : Reached start run) (now : Instant) (move : Move) :
      Reached start (run.next now move).1
  | rechecked {run : Run} (earlier : Reached start run) : Reached start run.recompute.1

theorem recompute_in_step (run : Run) (inStep : run.InStep) : run.recompute = (run, []) := by
  apply release_all_idle
  intro task member
  rw [← Bool.not_eq_true, due_iff]
  intro due
  obtain ⟨_, free, held⟩ := due
  rcases (held_iff _).mp held with unopened | waiting
  · exact inStep.opened task member unopened
  · rw [inStep.held task member waiting] at free
    cases free

theorem after_append (run : Run) (moves more : List (Instant × Move)) :
    (run.after (moves ++ more)).1 = ((run.after moves).1.after more).1 := by
  induction moves generalizing run with
  | nil => rfl
  | cons head rest ih => exact ih (run.next head.1 head.2).1

theorem reached_after (start run : Run) (inStep : start.InStep) (reached : Reached start run) :
    ∃ moves, run = (start.after moves).1 := by
  induction reached with
  | here => exact ⟨[], rfl⟩
  | moved _ now move ih =>
      obtain ⟨moves, same⟩ := ih
      refine ⟨moves ++ [(now, move)], ?_⟩
      rw [after_append, ← same]
      rfl
  | rechecked _ ih =>
      obtain ⟨moves, same⟩ := ih
      refine ⟨moves, ?_⟩
      rw [recompute_in_step, same]
      exact same ▸ after_keeps InStep makes_in_step start moves inStep

def changed (before after : Run) : List Task :=
  ((before.tasks.zip after.tasks).filter fun pair => pair.1 ≠ pair.2).map (·.2)

theorem release_all_changed (run : Run) (ids : List String) :
    run.changed (run.releaseAll ids).1 = (run.tasks.filter (run.due ids)).map (run.freed ids) := by
  have moved (task : Task) : decide (task ≠ run.freed ids task) = run.due ids task := by
    rw [freed_eq]
    cases due : run.due ids task with
    | false => simp
    | true =>
        have held := ((run.due_iff ids task).mp due).2.2
        refine decide_eq_true fun same => ?_
        rw [same] at held
        cases held
  rw [changed, release_all_run]
  dsimp only
  rw [← List.map_prod_left_eq_zip, List.filter_map, List.map_map]
  exact congrArg (List.map (run.freed ids)) (List.filter_congr fun task _ => moved task)

theorem release_all_moves (run : Run) (ids : List String) :
    List.Forall₂ (fun before after : Task => after = before ∨
        (before.status = .notStarted ∨ before.status = .waiting) ∧
          after = { before with status := .ready })
      run.tasks (run.releaseAll ids).1.tasks := by
  rw [release_all_run, List.forall₂_map_right_iff]
  refine List.forall₂_same.mpr fun task _ => ?_
  rw [freed_eq]
  cases due : run.due ids task with
  | false => exact .inl rfl
  | true =>
      exact .inr ⟨(held_iff _).mp ((run.due_iff ids task).mp due).2.2, rfl⟩

theorem recompute_templates (run : Run) : run.recompute.1.templates = run.templates := by
  rw [recompute, release_all_run]

theorem recompute_leaves (run : Run) {task : Task} {template : TaskTemplate}
    (member : task ∈ run.recompute.1.tasks)
    (held : task.status = .notStarted ∨ task.status = .waiting)
    (found : run.recompute.1.template? task.templateId = some template) :
    ∃ predecessor ∈ template.predecessorIds,
      ¬ Satisfied run.recompute.1.tasks template.predecessorMode predecessor := by
  obtain ⟨known, own⟩ := template_mem _ _ template found
  have listed : task.templateId ∈ run.templates.map TaskTemplate.id :=
    own ▸ List.mem_map_of_mem (run.recompute_templates ▸ known)
  by_contra none
  have clear : ∀ predecessor ∈ template.predecessorIds,
      Satisfied run.recompute.1.tasks template.predecessorMode predecessor :=
    fun predecessor waits => by_contra fun shut => none ⟨predecessor, waits, shut⟩
  have free := (free_iff _ _).mpr ⟨template, found, clear⟩
  have due := (due_iff _ _ task).mpr ⟨listed, free, (held_iff _).mpr held⟩
  have left := run.release_all_left _ task member
  rw [recompute] at due
  rw [due] at left
  cases left

end Workflow.Run

namespace Workflow

theorem recheck_exact :
    (∀ (process : Process) (templates : List TaskTemplate) (seeds : List Seed) (ids : Nat → Uuid)
      (start run : Run) (events : List Event), check templates = .ok () →
        Run.launch process templates seeds ids = .ok (start, events) → Run.Reached start run →
          run.recompute = (run, [])) ∧
    ∀ run : Run,
      let again := run.recompute.1
      again.process = run.process ∧ again.templates = run.templates ∧
        List.Forall₂ (fun before after : Task => after = before ∨
            (before.status = .notStarted ∨ before.status = .waiting) ∧
              after = { before with status := .ready })
          run.tasks again.tasks ∧
        run.recompute.2.Perm ((run.changed again).map .ready) ∧ again.recompute = (again, []) ∧
        ∀ task ∈ again.tasks, task.status = .notStarted ∨ task.status = .waiting →
          ∀ template, again.template? task.templateId = some template →
            ∃ predecessor ∈ template.predecessorIds,
              ¬ Satisfied again.tasks template.predecessorMode predecessor := by
  refine ⟨fun process templates seeds ids start run events accepted launched reached => ?_,
    fun run => ?_⟩
  · have begun := Run.launch_in_step ((check_ok_iff templates).mp accepted) launched
    obtain ⟨moves, same⟩ := Run.reached_after start run begun reached
    rw [same]
    exact Run.recompute_in_step _ (Run.after_keeps Run.InStep Run.makes_in_step start moves begun)
  · have announced := run.release_all_events (run.templates.map TaskTemplate.id)
    refine ⟨by rw [Run.recompute, Run.release_all_run], run.recompute_templates,
      run.release_all_moves _, ?_, ?_, ?_⟩
    · have same (ids : List String) : Event.ready ∘ run.freed ids = Event.ready :=
        funext (run.ready_freed ids)
      rwa [Run.recompute, Run.release_all_changed, List.map_map, same]
    · rw [Run.recompute, run.recompute_templates]
      exact run.release_all_again _
    · exact fun task member held template found => run.recompute_leaves member held found

theorem recheck_exact_one_draft :
    check signing = .ok () ∧ ∃ events,
      Run.launch signingProcess signing signingSeeds signingIds = .ok (signingRun, events) ∧
        let run := (signingRun.next Instant.epoch (.complete (signingIds 0))).1
        Run.Reached signingRun run ∧ run ≠ signingRun ∧ run.recompute = (run, []) := by
  have accepted : check signing = .ok () := by cbv
  have reached : Run.Reached signingRun (signingRun.next _ _).1 :=
    .moved .here Instant.epoch (.complete (signingIds 0))
  exact ⟨accepted, _, rfl, reached, by decide,
    recheck_exact.1 signingProcess signing signingSeeds signingIds signingRun _ _ accepted rfl reached⟩

end Workflow
