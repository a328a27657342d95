import Workflow.Proofs.Process.Recheck

set_option autoImplicit false

namespace Workflow

def Move.task? : Move → Option Uuid
  | .start task => some task
  | .complete task => some task
  | .skip task _ => some task
  | _ => none

namespace Task

inductive Turns (now : Instant) (task : Task) : Move → Task → Prop where
  | start (ready : task.status = .ready) : Turns now task (.start task.id) (task.begun now)
  | complete (going : task.status = .inProgress ∨ task.status = .ready ∧ task.taskType = .plain) :
      Turns now task (.complete task.id) (task.done now)
  | skip (reason : Option String) (unfinished : task.status ≠ .completed ∧ task.status ≠ .skipped) :
      Turns now task (.skip task.id reason) (task.passed now)

def Spared (before after : Task) : Prop :=
  after = before ∨ before.status = .waiting ∧ after = { before with status := .ready }

def Steps (now : Instant) (before after : Task) : Prop :=
  before.Spared after ∨ ∃ move, before.Turns now move after

def Settled (before after : Task) : Prop :=
  before.status = .completed ∨ before.status = .skipped → after = before

theorem turns_done (now : Instant) (move : Move) (task after : Task) (turns : task.Turns now move after) :
    task.status ≠ .completed ∧ task.status ≠ .skipped := by
  cases turns with
  | start ready => simp [ready]
  | complete going => rcases going with is | is <;> simp [is]
  | skip _ unfinished => exact unfinished

theorem steps_settled (now : Instant) (before after : Task) (steps : before.Steps now after) :
    before.Settled after := by
  intro done
  rcases steps with (same | ⟨waiting, _⟩) | ⟨move, turns⟩
  · exact same
  · simp [waiting] at done
  · have unfinished := turns_done now move before after turns
    exact absurd done (not_or.mpr unfinished)

end Task

inductive Turned (now : Instant) (move : Move) : List Task → List Task → Prop where
  | here {task after : Task} {rest later : List Task} (turns : task.Turns now move after)
      (others : List.Forall₂ Task.Spared rest later) :
      Turned now move (task :: rest) (after :: later)
  | next {task after : Task} {rest later : List Task} (other : move.task? ≠ some task.id)
      (spared : task.Spared after) (turned : Turned now move rest later) :
      Turned now move (task :: rest) (after :: later)

def Moved (now : Instant) (move : Move) (before after : List Task) : Prop :=
  match move with
  | .stop _ => after = before
  | .resume _ => after = before
  | _ => Turned now move before after

theorem may_complete_iff (task : Task) : Run.mayComplete task = true ↔
    task.status = .inProgress ∨ task.status = .ready ∧ task.taskType = .plain := by
  unfold Run.mayComplete
  cases task.status <;> cases task.taskType <;> simp [TaskType.direct]

theorem not_terminal_iff (status : TaskStatus) :
    status.terminal = false ↔ status ≠ .completed ∧ status ≠ .skipped := by
  cases status <;> simp [TaskStatus.terminal]

section Lists

variable {now : Instant} {move : Move} {before after : List Task}

theorem turned_split {earlier later : List Task} {old new : Task}
    (apart : ∀ task ∈ before, move.task? ≠ some task.id) (first : List.Forall₂ Task.Spared before earlier)
    (turns : old.Turns now move new) (last : List.Forall₂ Task.Spared after later) :
    Turned now move (before ++ old :: after) (earlier ++ new :: later) := by
  induction first with
  | nil => exact .here turns last
  | cons spared _ ih =>
      have others := List.forall_mem_cons.mp apart
      exact .next others.1 spared (ih others.2)

theorem turned_steps (turned : Turned now move before after) :
    List.Forall₂ (Task.Steps now) before after := by
  induction turned with
  | here turns others => exact .cons (.inr ⟨move, turns⟩) (others.imp fun _ _ spared => .inl spared)
  | next _ spared _ ih => exact .cons (.inl spared) ih

theorem moved_steps (moved : Moved now move before after) :
    List.Forall₂ (Task.Steps now) before after := by
  have same (unchanged : after = before) : List.Forall₂ (Task.Steps now) before after :=
    unchanged ▸ List.forall₂_same.mpr fun task _ => .inl (.inl rfl)
  cases move with
  | start => exact turned_steps moved
  | complete => exact turned_steps moved
  | skip => exact turned_steps moved
  | stop => exact same moved
  | resume => exact same moved

end Lists

namespace Run

theorem freed_spared (run : Run) (ids : List String) (task : Task) (opened : task.status ≠ .notStarted) :
    task.Spared (run.freed ids task) := by
  rcases run.freed_cases ids task with ⟨_, _, held, same⟩ | ⟨_, same⟩
  · exact .inr ⟨((held_iff _).mp held).resolve_left opened, same⟩
  · exact .inl same

theorem put_turned (run : Run) (now : Instant) (move : Move) (id : Uuid) (old new : Task)
    (found : run.task? id = some old) (named : move.task? = some id) (turns : old.Turns now move new) :
    Turned now move run.tasks (run.putTask id new).tasks := by
  obtain ⟨before, after, split, put, apart⟩ := run.put_task_split id old new found
  have same (tasks : List Task) : List.Forall₂ Task.Spared tasks tasks :=
    List.forall₂_same.mpr fun task _ => .inl rfl
  rw [split, put]
  refine turned_split (fun task member is => ?_) (same before) turns (same after)
  exact apart task member (Option.some.inj (is.symm.trans named))

theorem settled_turned (run : Run) (now : Instant) (move : Move) (id : Uuid) (old new : Task)
    (event : Event) (opened : ∀ task ∈ run.tasks, task.status ≠ .notStarted)
    (found : run.task? id = some old) (sameId : new.id = id) (named : move.task? = some id)
    (done : new.status.terminal = true) (turns : old.Turns now move new) :
    Turned now move run.tasks (run.settled new event now).1.tasks := by
  subst sameId
  obtain ⟨before, after, split, put, apart⟩ := run.put_task_split new.id old new found
  have kept (ids : List String) : (run.putTask new.id new).freed ids new = new :=
    freed_done _ ids done
  have spared (tasks : List Task) (among : ∀ task ∈ tasks, task ∈ run.tasks) (ids : List String) :
      List.Forall₂ Task.Spared tasks (tasks.map ((run.putTask new.id new).freed ids)) :=
    List.forall₂_map_right_iff.mpr (List.forall₂_same.mpr fun task member =>
      freed_spared _ ids task (opened task (among task member)))
  have first := spared before (fun task member => by simp [split, member]) (run.dependents new.templateId)
  have last := spared after (fun task member => by simp [split, member]) (run.dependents new.templateId)
  rw [settled_tasks, put, split, List.map_append, List.map_cons, kept]
  refine turned_split (fun task member is => ?_) first turns last
  exact apart task member (Option.some.inj (is.symm.trans named))

theorem makes_moved (run : Run) (now : Instant) (move : Move) (result : Run × List Event)
    (inStep : run.InStep) (made : run.Makes now move result) :
    Moved now move run.tasks result.1.tasks := by
  cases made with
  | start id task active found ready =>
      obtain ⟨_, same⟩ := run.task_mem id task found
      subst same
      exact run.put_turned now _ task.id task _ found rfl (.start ready)
  | complete id task active found may =>
      obtain ⟨_, same⟩ := run.task_mem id task found
      subst same
      exact run.settled_turned now _ task.id task _ _ inStep.opened found rfl rfl rfl
        (.complete ((may_complete_iff task).mp may))
  | skip id reason task active found unfinished =>
      obtain ⟨_, same⟩ := run.task_mem id task found
      subst same
      exact run.settled_turned now _ task.id task _ _ inStep.opened found rfl rfl rfl
        (.skip reason ((not_terminal_iff _).mp unfinished))
  | stop => rfl
  | resume => rfl

theorem makes_steps (run : Run) (now : Instant) (move : Move) (result : Run × List Event)
    (inStep : run.InStep) (made : run.Makes now move result) :
    List.Forall₂ (Task.Steps now) run.tasks result.1.tasks :=
  moved_steps (run.makes_moved now move result inStep made)

theorem accepts_iff (run : Run) (now : Instant) (move : Move) (id : Uuid) (named : move.task? = some id) :
    (∃ result, run.apply now move = .ok result) ↔ run.process.status = .active ∧
      ∃ task after, run.task? id = some task ∧ task.Turns now move after := by
  constructor
  · intro accepted
    obtain ⟨result, applied⟩ := accepted
    have made := (run.apply_ok_iff now move result).mp applied
    cases made with
    | start other task active found ready =>
        cases named
        obtain ⟨_, rfl⟩ := run.task_mem _ task found
        exact ⟨active, task, _, found, .start ready⟩
    | complete other task active found may =>
        cases named
        obtain ⟨_, rfl⟩ := run.task_mem _ task found
        exact ⟨active, task, _, found, .complete ((may_complete_iff task).mp may)⟩
    | skip other reason task active found unfinished =>
        cases named
        obtain ⟨_, rfl⟩ := run.task_mem _ task found
        exact ⟨active, task, _, found, .skip reason ((not_terminal_iff _).mp unfinished)⟩
    | stop => cases named
    | resume => cases named
  · intro both
    obtain ⟨active, task, after, found, turns⟩ := both
    cases turns with
    | start ready =>
        cases named
        exact ⟨_, (run.apply_ok_iff now _ _).mpr (.start _ task active found ready)⟩
    | complete going =>
        cases named
        have may := (may_complete_iff task).mpr going
        exact ⟨_, (run.apply_ok_iff now _ _).mpr (.complete _ task active found may)⟩
    | skip reason unfinished =>
        cases named
        have still := (not_terminal_iff _).mpr unfinished
        exact ⟨_, (run.apply_ok_iff now _ _).mpr (.skip _ reason task active found still)⟩

theorem reached_in_step {start run : Run} (inStep : start.InStep) (reached : Reached start run) :
    run.InStep := by
  obtain ⟨moves, same⟩ := reached_after start run inStep reached
  exact same ▸ after_keeps InStep makes_in_step start moves inStep

end Run

end Workflow
