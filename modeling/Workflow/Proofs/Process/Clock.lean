import Workflow.Proofs.Process.Completion
import Workflow.Proofs.Process.Stamps

set_option autoImplicit false

namespace Workflow

namespace Run

-- Operations one after the other under a clock that never goes back, with all the states that were
-- seen on the way, the last one first.
inductive Driven (start : Run) : List Run → Instant → Run → Prop where
  | here (now : Instant) : Driven start [] now start
  | moved {seen : List Run} {time : Instant} {run : Run} (earlier : Driven start seen time run)
      (now : Instant) (later : time ≤ now) (move : Move) :
      Driven start (run :: seen) now (run.next now move).1
  | rechecked {seen : List Run} {time : Instant} {run : Run} (earlier : Driven start seen time run) :
      Driven start (run :: seen) time run.recompute.1

structure Advances (run : Run) (now : Instant) (after : Run) : Prop where
  templates : after.templates = run.templates
  tasks : List.Forall₂ (Task.Steps now) run.tasks after.tasks
  inStep : after.InStep
  ending : after.process.status = .completed → after = run ∨ after.process.endAt = some now

theorem settled_ending (run : Run) (task : Task) (event : Event) (now : Instant)
    (active : run.process.status = .active)
    (completed : (run.settled task event now).1.process.status = .completed) :
    (run.settled task event now).1.process.endAt = some now := by
  rw [settled_run, finish_process] at completed ⊢
  split at completed
  · rename_i ending
    rw [if_pos ending]
  · exact absurd (active.symm.trans completed) (by simp)

theorem makes_advances (run : Run) (now : Instant) (move : Move) (result : Run × List Event)
    (inStep : run.InStep) (made : run.Makes now move result) : run.Advances now result.1 where
  templates := makes_templates run now move result made
  tasks := makes_steps run now move result inStep made
  inStep := makes_in_step run now move result inStep made
  ending completed := by
    cases made with
    | start _ _ active => exact absurd (active.symm.trans completed) (by simp)
    | complete _ _ active => exact .inr (run.settled_ending _ _ now active completed)
    | skip _ _ _ active => exact .inr (run.settled_ending _ _ now active completed)
    | stop request _ _ allowed =>
        exact absurd completed (stop_rule_open request.stopType run.process.status allowed).2
    | resume => exact absurd completed (by simp [Process.resumed])

theorem idle_advances (run : Run) (now : Instant) (inStep : run.InStep) : run.Advances now run :=
  ⟨rfl, List.forall₂_same.mpr fun _ _ => .inl (.inl rfl), inStep, fun _ => .inl rfl⟩

theorem next_advances (run : Run) (now : Instant) (move : Move) (inStep : run.InStep) :
    run.Advances now (run.next now move).1 := by
  unfold next
  cases applied : run.apply now move with
  | ok result => exact run.makes_advances now move result inStep ((run.apply_ok_iff now move result).mp applied)
  | error _ => exact run.idle_advances now inStep

theorem recompute_advances (run : Run) (now : Instant) (inStep : run.InStep) :
    run.Advances now run.recompute.1 := by
  rw [recompute_in_step run inStep]
  exact run.idle_advances now inStep

structure Clocked (seen : List Run) (now : Instant) (run : Run) : Prop where
  inStep : run.InStep
  dated : ∀ task ∈ run.tasks, task.Dated now
  earned : ∀ task ∈ run.tasks, ∀ time, task.actualStartAt = some time →
    ∀ template, run.template? task.templateId = some template →
      ∀ predecessor ∈ template.predecessorIds,
        SatisfiedBy run.tasks template.predecessorMode predecessor time
  closed : run.process.status = .completed → ∃ last, run.process.endAt = some last ∧
    ∀ task ∈ run.tasks, task.actualEndAt ≠ none → task.EndedBy last
  worked : ∀ earlier ∈ seen, List.Forall₂
    (fun before after : Task => before.status = .inProgress → after.actualStartAt ≠ none)
    earlier.tasks run.tasks
  recalled : ∀ (place : Nat) (task : Task), run.tasks[place]? = some task → task.status = .skipped →
    task.actualStartAt ≠ none → ∃ earlier ∈ seen, ∃ before,
      earlier.tasks[place]? = some before ∧ before.status = .inProgress

section

variable {seen : List Run} {time now : Instant} {run after : Run}

theorem advances_stays (dated : ∀ task ∈ run.tasks, task.Dated time) (advances : run.Advances now after) :
    List.Forall₂ (fun before after : Task => after.templateId = before.templateId ∧
      (before.actualEndAt ≠ none → after = before)) run.tasks after.tasks := by
  have both := (List.forall₂_and_left _ _).mpr ⟨dated, advances.tasks⟩
  refine both.imp fun before after pair => ⟨Task.steps_template pair.2, fun ended => ?_⟩
  obtain ⟨last, ending⟩ := Option.ne_none_iff_exists'.mp ended
  exact Task.steps_settled now before after pair.2 (Task.dated_ended pair.1 last ending).1

theorem advances_earned (clocked : Clocked seen time run) (dated : ∀ task ∈ after.tasks, task.Dated now)
    (advances : run.Advances now after) (task : Task) (member : task ∈ after.tasks) (first : Instant)
    (start : task.actualStartAt = some first) (template : TaskTemplate)
    (named : after.template? task.templateId = some template) (predecessor : String)
    (listed : predecessor ∈ template.predecessorIds) :
    SatisfiedBy after.tasks template.predecessorMode predecessor first := by
  obtain ⟨before, found, steps⟩ := pointwise_back advances.tasks task member
  rcases Task.steps_start steps with same | ⟨begun, status⟩
  · have known : run.template? before.templateId = some template := by
      rw [← Task.steps_template steps, template?, ← advances.templates]
      exact named
    have satisfied := clocked.earned before found first (same.symm.trans start) template known
      predecessor listed
    exact satisfied_by_stays _ _ _ predecessor first (advances_stays clocked.dated advances) satisfied
  · -- A task that begins now is of a free template, and all that is satisfied is so by now.
    cases begun.symm.trans start
    have free := advances.inStep.going task member (.inr status)
    obtain ⟨other, again, satisfied⟩ := (after.free_iff task.templateId).mp free
    cases again.symm.trans named
    exact satisfied_by_now _ _ predecessor now dated (satisfied predecessor listed)

theorem advances_dated (dated : ∀ task ∈ run.tasks, task.Dated time) (later : time ≤ now)
    (advances : run.Advances now after) (task : Task) (member : task ∈ after.tasks) : task.Dated now := by
  obtain ⟨before, found, steps⟩ := pointwise_back advances.tasks task member
  exact Task.steps_dated (Task.dated_later (dated before found) later) steps

theorem advances_closed (clocked : Clocked seen time run) (dated : ∀ task ∈ after.tasks, task.Dated now)
    (advances : run.Advances now after) (completed : after.process.status = .completed) :
    ∃ last, after.process.endAt = some last ∧
      ∀ task ∈ after.tasks, task.actualEndAt ≠ none → task.EndedBy last := by
  rcases advances.ending completed with same | ending
  · subst same
    exact clocked.closed completed
  · refine ⟨now, ending, fun task member ended => ?_⟩
    obtain ⟨last, known⟩ := Option.ne_none_iff_exists'.mp ended
    exact ⟨last, known, (Task.dated_ended (dated task member) last known).2⟩

theorem advances_worked (clocked : Clocked seen time run) (advances : run.Advances now after)
    (earlier : Run) (among : earlier ∈ run :: seen) : List.Forall₂
      (fun before after : Task => before.status = .inProgress → after.actualStartAt ≠ none)
      earlier.tasks after.tasks := by
  rcases List.mem_cons.mp among with same | before
  · subst same
    have both := (List.forall₂_and_left _ _).mpr ⟨clocked.dated, advances.tasks⟩
    exact both.imp fun before after pair going => Task.steps_begun pair.2 (Task.dated_going pair.1 going)
  · exact pointwise_trans (fun _ _ _ began steps going => Task.steps_begun steps (began going))
      (clocked.worked earlier before) advances.tasks

theorem advances_recalled (clocked : Clocked seen time run) (advances : run.Advances now after)
    (place : Nat) (task : Task) (found : after.tasks[place]? = some task)
    (skipped : task.status = .skipped) (began : task.actualStartAt ≠ none) :
    ∃ earlier ∈ run :: seen, ∃ before,
      earlier.tasks[place]? = some before ∧ before.status = .inProgress := by
  obtain ⟨before, known, steps⟩ := pointwise_at advances.tasks place task found
  have dated := clocked.dated before (List.mem_of_getElem? known)
  rcases Task.steps_skipped dated steps skipped began with same | going
  · subst same
    obtain ⟨earlier, among, other⟩ := clocked.recalled place task known skipped began
    exact ⟨earlier, List.mem_cons_of_mem run among, other⟩
  · exact ⟨run, List.mem_cons_self, before, known, going⟩

theorem advances_clocked (clocked : Clocked seen time run) (later : time ≤ now)
    (advances : run.Advances now after) : Clocked (run :: seen) now after :=
  have dated := advances_dated clocked.dated later advances
  { inStep := advances.inStep
    dated
    earned := advances_earned clocked dated advances
    closed := advances_closed clocked dated advances
    worked := advances_worked clocked advances
    recalled := advances_recalled clocked advances }

theorem driven_templates {start : Run} (driven : Driven start seen now run) :
    run.templates = start.templates := by
  induction driven with
  | here => rfl
  | @moved _ _ run _ now _ move ih => exact (run.after_templates [(now, move)]).trans ih
  | @rechecked _ _ run _ ih =>
      rw [recompute, release_all_run]
      exact ih

theorem driven_clocked {start : Run} (clocked : ∀ now, Clocked [] now start)
    (driven : Driven start seen now run) : Clocked seen now run := by
  induction driven with
  | here now => exact clocked now
  | moved _ now later move ih =>
      exact advances_clocked ih later (next_advances _ now move ih.inStep)
  | rechecked _ ih =>
      exact advances_clocked ih (Instant.le_refl _) (recompute_advances _ _ ih.inStep)

end

variable {process : Process} {templates : List TaskTemplate} {seeds : List Seed} {ids : Nat → Uuid}
  {start : Run} {events : List Event}

theorem launch_clocked (formed : WellFormed templates)
    (launched : launch process templates seeds ids = .ok (start, events)) (now : Instant) :
    Clocked [] now start where
  inStep := launch_in_step formed launched
  dated task member := by
    obtain ⟨start, ending⟩ := launch_undated launched task member
    exact .unbegun (launch_open launched task member) start ending
  earned task member first begun := by
    rw [(launch_undated launched task member).1] at begun
    cases begun
  closed completed := by
    rw [(launch_templates launched).2] at completed
    cases completed
  worked := List.forall_mem_nil _
  recalled place task found _ began :=
    absurd (launch_undated launched task (List.mem_of_getElem? found)).1 began

structure Timely (seen : List Run) (now : Instant) (run : Run) : Prop where
  dated : ∀ task ∈ run.tasks, task.Dated now
  ordered : ∀ task ∈ run.tasks, ∀ first last, task.actualStartAt = some first →
    task.actualEndAt = some last → first ≤ last
  skipped : ∀ (place : Nat) (task : Task), run.tasks[place]? = some task → task.status = .skipped →
    (task.actualStartAt ≠ none ↔ ∃ earlier ∈ seen, ∃ before,
      earlier.tasks[place]? = some before ∧ before.status = .inProgress)
  earned : ∀ task ∈ run.tasks, ∀ template ∈ run.templates, template.id = task.templateId →
    ∀ time, task.actualStartAt = some time → ∀ predecessor ∈ template.predecessorIds,
      SatisfiedBy run.tasks template.predecessorMode predecessor time
  closed : run.process.status = .completed → ∃ last, run.process.endAt = some last ∧
    ∀ task ∈ run.tasks, task.actualEndAt ≠ none → task.EndedBy last

theorem clocked_timely {seen : List Run} {now : Instant} {run : Run}
    (distinct : (run.templates.map TaskTemplate.id).Nodup) (clocked : Clocked seen now run) :
    Timely seen now run where
  dated := clocked.dated
  ordered task member := Task.dated_ordered (clocked.dated task member)
  skipped place task found skipped := by
    constructor
    · exact clocked.recalled place task found skipped
    · intro seenGoing
      obtain ⟨earlier, among, before, known, going⟩ := seenGoing
      obtain ⟨after, same, began⟩ := pointwise_at (clocked.worked earlier among).flip place before known
      cases same.symm.trans found
      exact began going
  earned task member template among own first start :=
    clocked.earned task member first start template (own ▸ run.template_of_mem template distinct among)
  closed := clocked.closed

end Run

theorem stamps_exact (process : Process) (templates : List TaskTemplate) (seeds : List Seed)
    (ids : Nat → Uuid) (start run : Run) (events : List Event) (seen : List Run) (now : Instant)
    (accepted : check templates = .ok ())
    (launched : Run.launch process templates seeds ids = .ok (start, events))
    (driven : Run.Driven start seen now run) :
    run.templates = templates ∧ Run.Timely seen now run := by
  have formed := (check_ok_iff templates).mp accepted
  have clocked := Run.driven_clocked (Run.launch_clocked formed launched) driven
  have same : run.templates = templates :=
    (Run.driven_templates driven).trans (Run.launch_templates launched).1
  exact ⟨same, Run.clocked_timely (same ▸ formed.distinct) clocked⟩

def signingSecond : Instant := ⟨1, 0, by decide⟩

def signingThird : Instant := ⟨2, 0, by decide⟩

def signingHours : List (Instant × Move) :=
  [(Instant.epoch, .start (signingIds 0)), (Instant.epoch, .complete (signingIds 1)),
    (signingSecond, .skip (signingIds 0) none), (signingThird, .complete (signingIds 2))]

theorem stamps_exact_signing :
    check signing = .ok () ∧ ∃ events seen,
      Run.launch signingProcess signing signingSeeds signingIds = .ok (signingRun, events) ∧
        let last := (signingRun.after signingHours).1
        Run.Driven signingRun seen signingThird last ∧ last.process.status = .completed ∧
          last.templates = signing ∧ Run.Timely seen signingThird last := by
  have accepted : check signing = .ok () := by cbv
  have started : Run.Driven signingRun _ _ _ :=
    .moved (.here Instant.epoch) Instant.epoch (by decide) (.start (signingIds 0))
  have made := started.moved Instant.epoch (by decide) (.complete (signingIds 1))
  have dropped := made.moved signingSecond (by decide) (.skip (signingIds 0) none)
  have signed := dropped.moved signingThird (by decide) (.complete (signingIds 2))
  exact ⟨accepted, _, _, rfl, signed, by cbv, stamps_exact signingProcess signing signingSeeds
    signingIds signingRun _ _ _ signingThird accepted rfl signed⟩

end Workflow
