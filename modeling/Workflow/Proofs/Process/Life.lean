import Workflow.Proofs.Process.Turns

set_option autoImplicit false

namespace Workflow

namespace Task

-- All of a task but its status and the times of its work.
def terms (task : Task) : Task :=
  { task with status := .notStarted, actualStartAt := none, actualEndAt := none }

theorem settled_trans (before between after : Task) (first : before.Settled between)
    (second : between.Settled after) : before.Settled after := by
  intro done
  have same := first done
  subst same
  exact second done

end Task

def Process.terms (process : Process) : Process :=
  { process with
    status := .active
    endAt := none
    stopType := none
    stopReason := none
    stoppedById := none
    stoppedAt := none
    history := [] }

namespace Run

theorem makes_terms (run : Run) (now : Instant) (move : Move) (result : Run × List Event)
    (made : run.Makes now move result) : result.1.process.terms = run.process.terms := by
  have settled (task : Task) (event : Event) :
      (run.settled task event now).1.process.terms = run.process.terms := by
    rw [settled_run, finish_process]
    split <;> rfl
  cases made with
  | start => rfl
  | complete => exact settled ..
  | skip => exact settled ..
  | stop => rfl
  | resume => rfl

structure Lasts (before after : Run) : Prop where
  templates : after.templates = before.templates
  process : after.process.terms = before.process.terms
  tasks : after.tasks.map Task.terms = before.tasks.map Task.terms
  settled : List.Forall₂ Task.Settled before.tasks after.tasks

theorem makes_lasts (run : Run) (now : Instant) (move : Move) (result : Run × List Event)
    (inStep : run.InStep) (made : run.Makes now move result) : run.Lasts result.1 where
  templates := makes_templates run now move result made
  process := makes_terms run now move result made
  tasks := makes_field Task.terms (fun _ _ _ _ => rfl) run now move result made
  settled := (makes_steps run now move result inStep made).imp fun _ _ => Task.steps_settled now _ _

theorem lasts_refl (run : Run) : run.Lasts run :=
  ⟨rfl, rfl, rfl, List.forall₂_same.mpr fun _ _ _ => rfl⟩

theorem lasts_trans {first second third : Run} (one : first.Lasts second) (other : second.Lasts third) :
    first.Lasts third where
  templates := other.templates.trans one.templates
  process := other.process.trans one.process
  tasks := other.tasks.trans one.tasks
  settled := pointwise_trans Task.settled_trans one.settled other.settled

theorem after_lasts (run : Run) (moves : List (Instant × Move)) (inStep : run.InStep) :
    run.Lasts (run.after moves).1 := by
  have both := after_keeps (fun other => other.InStep ∧ run.Lasts other)
    (fun other now move result both made => ⟨makes_in_step other now move result both.1 made,
      lasts_trans both.2 (makes_lasts other now move result both.1 made)⟩)
    run moves ⟨inStep, run.lasts_refl⟩
  exact both.2

def accepted (run : Run) : List (Instant × Move) → Nat
  | [] => 0
  | (now, move) :: rest =>
    match run.apply now move with
    | .ok (next, _) => (if move.task?.isSome then 1 else 0) + next.accepted rest
    | .error _ => run.accepted rest

theorem makes_remaining (run : Run) (now : Instant) (move : Move) (result : Run × List Event)
    (made : run.Makes now move result) :
    (if move.task?.isSome then 1 else 0) + result.1.remaining ≤ run.remaining := by
  cases made with
  | start id task _ found ready =>
      have fewer := run.put_task_remaining id task (task.begun now) found
        (by simp [ready, Task.begun, TaskStatus.steps])
      simp only [Move.task?, Option.isSome_some, if_true]
      omega
  | complete id task _ found may =>
      have going : (task.done now).status.steps < task.status.steps := by
        rcases may_complete_going task may with is | is <;> simp [is, Task.done, TaskStatus.steps]
      have fewer := run.settled_remaining id task (task.done now) (task.doneEvent now) now found
        (run.task_mem id task found).2 going
      simp only [Move.task?, Option.isSome_some, if_true]
      omega
  | skip id reason task _ found unfinished =>
      have going : (task.passed now).status.steps < task.status.steps := by
        cases is : task.status <;> simp [is, Task.passed, TaskStatus.steps, TaskStatus.terminal] at unfinished ⊢
      have fewer := run.settled_remaining id task (task.passed now) (task.passedEvent reason) now found
        (run.task_mem id task found).2 going
      simp only [Move.task?, Option.isSome_some, if_true]
      omega
  | stop => simp [Move.task?, remaining]
  | resume => simp [Move.task?, remaining]

theorem accepted_remaining (run : Run) (moves : List (Instant × Move)) :
    run.accepted moves ≤ run.remaining := by
  induction moves generalizing run with
  | nil => exact Nat.zero_le _
  | cons head rest ih =>
      rw [accepted]
      cases applied : run.apply head.1 head.2 with
      | error error => exact ih run
      | ok result =>
          have used := run.makes_remaining head.1 head.2 result ((run.apply_ok_iff _ _ _).mp applied)
          have later := ih result.1
          dsimp only
          omega

theorem remaining_le (run : Run) : run.remaining ≤ 2 * run.tasks.length := by
  unfold remaining
  induction run.tasks with
  | nil => exact Nat.zero_le _
  | cons task rest ih =>
      have most : task.status.steps ≤ 2 := by cases task.status <;> simp [TaskStatus.steps]
      rw [List.map_cons, List.sum_cons, List.length_cons]
      omega

structure Orderly (start run : Run) : Prop where
  moved (now : Instant) (move : Move) (result : Run × List Event) :
    run.apply now move = .ok result → Moved now move run.tasks result.1.tasks
  accepts (now : Instant) (move : Move) (id : Uuid) : move.task? = some id →
    ((∃ result, run.apply now move = .ok result) ↔ run.process.status = .active ∧
      ∃ task after, run.task? id = some task ∧ task.Turns now move after)
  rechecked : run.recompute = (run, [])
  lasts : start.Lasts run
  settled (later : Run) : Reached run later → List.Forall₂ Task.Settled run.tasks later.tasks
  closed : run.process.status = .completed ∨ run.process.status = .aborted →
    ∀ now move, ∃ error, run.apply now move = .error error

theorem closed_refuses (run : Run) (now : Instant) (move : Move)
    (closed : run.process.status = .completed ∨ run.process.status = .aborted) :
    ∃ error, run.apply now move = .error error := by
  cases applied : run.apply now move with
  | error error => exact ⟨error, rfl⟩
  | ok result =>
      have going := makes_open ((run.apply_ok_iff now move result).mp applied)
      rcases closed with is | is <;> simp [is, ProcessStatus.terminal] at going

theorem after_reached {start run : Run} (reached : Reached start run) (moves : List (Instant × Move)) :
    Reached start (run.after moves).1 := by
  induction moves generalizing run with
  | nil => exact reached
  | cons head rest ih => exact ih (reached.moved head.1 head.2)

theorem reached_lasts {start run : Run} (inStep : start.InStep) (reached : Reached start run) :
    start.Lasts run := by
  obtain ⟨moves, same⟩ := reached_after start run inStep reached
  exact same ▸ start.after_lasts moves inStep

theorem reached_orderly {start run : Run} (inStep : start.InStep) (reached : Reached start run) :
    Orderly start run where
  moved now move result applied :=
    run.makes_moved now move result (reached_in_step inStep reached)
      ((run.apply_ok_iff now move result).mp applied)
  accepts := run.accepts_iff
  rechecked := run.recompute_in_step (reached_in_step inStep reached)
  lasts := reached_lasts inStep reached
  settled _ later := (reached_lasts (reached_in_step inStep reached) later).settled
  closed closed now move := run.closed_refuses now move closed

end Run

theorem transitions_exact (process : Process) (templates : List TaskTemplate) (seeds : List Seed)
    (ids : Nat → Uuid) (start : Run) (events : List Event) (accepted : check templates = .ok ())
    (launched : Run.launch process templates seeds ids = .ok (start, events)) :
    (∀ run, Run.Reached start run → Run.Orderly start run) ∧
      ∀ moves, start.accepted moves ≤ 2 * start.tasks.length := by
  have inStep := Run.launch_in_step ((check_ok_iff templates).mp accepted) launched
  refine ⟨fun run reached => Run.reached_orderly inStep reached, fun moves => ?_⟩
  exact (start.accepted_remaining moves).trans start.remaining_le

def signingWhole : List (Instant × Move) :=
  [0, 1, 2].flatMap fun number =>
    [(Instant.epoch, .start (signingIds number)), (Instant.epoch, .complete (signingIds number)),
      (Instant.epoch, .skip (signingIds number) none)]

theorem transitions_exact_signing :
    check signing = .ok () ∧ ∃ events,
      Run.launch signingProcess signing signingSeeds signingIds = .ok (signingRun, events) ∧
        let last := (signingRun.after signingWhole).1
        Run.Orderly signingRun last ∧ last.process.status = .completed ∧
          signingRun.accepted signingWhole = 6 ∧ 6 ≤ 2 * signingRun.tasks.length := by
  have accepted : check signing = .ok () := by cbv
  obtain ⟨orderly, bound⟩ := transitions_exact signingProcess signing signingSeeds signingIds
    signingRun _ accepted rfl
  have count : signingRun.accepted signingWhole = 6 := by cbv
  exact ⟨accepted, _, rfl, orderly _ (Run.after_reached .here signingWhole), by cbv, count,
    count ▸ bound signingWhole⟩

end Workflow
