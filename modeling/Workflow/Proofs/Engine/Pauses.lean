import Workflow.Proofs.Engine.Lifecycle
import Workflow.Proofs.Process.Life
import Workflow.Proofs.Process.Recalled

set_option autoImplicit false

namespace Workflow

structure Pause where
  suspendedAt : Instant
  actorId : String
  reason : String
  tried : List (Instant × Move)
  resumedAt : Instant
  resumption : ResumeRequest
  signed : Text.trim actorId ≠ ""
  worded : Text.trim reason ≠ ""
  ofTasks : ∀ attempt ∈ tried, attempt.2.task?.isSome = true

namespace Pause

def request (pause : Pause) : StopRequest :=
  { actorId := pause.actorId, stopType := .suspended, reason := pause.reason }

def moves (pause : Pause) : List (Instant × Move) :=
  (pause.suspendedAt, .stop pause.request) :: pause.tried ++
    [(pause.resumedAt, .resume pause.resumption)]

def answers (pause : Pause) (id : Uuid) : List (Except Error (List Event)) :=
  .ok [.stopped id pause.actorId StopType.suspended.lower (Text.trim pause.reason)] ::
    pause.tried.map (fun _ => .error (.process .advance id .suspended)) ++
    [.ok [.resumed id pause.resumption.actorId]]

def entries (pause : Pause) : List HistoryEntry :=
  [{ time := pause.suspendedAt
     action := .suspended
     actorId := some pause.actorId
     reason := some (Text.trim pause.reason) },
    { time := pause.resumedAt
      action := .resumed
      actorId := some pause.resumption.actorId
      reason := pause.resumption.reason.filter fun reason => Text.trim reason ≠ "" }]

end Pause

inductive Turn where
  | work (now : Instant) (move : Move) (ofTask : move.task?.isSome = true)
  | pause (pause : Pause)

namespace Turn

def worked : Turn → Bool
  | work .. => true
  | pause _ => false

def moves : Turn → List (Instant × Move)
  | work now move _ => [(now, move)]
  | pause taken => taken.moves

def entries : Turn → List HistoryEntry
  | work .. => []
  | pause taken => taken.entries

end Turn

theorem paused_process (process : Process) (pause : Pause) (active : process.status = .active)
    (silent : process.history = []) (unstopped : process.Unstopped) :
    (process.stopped pause.request pause.suspendedAt).resumed pause.resumption pause.resumedAt =
      { process with history := pause.entries ++ process.history } := by
  obtain ⟨type, reason, actor, time⟩ := unstopped
  cases process
  cases active
  cases silent
  cases type
  cases reason
  cases actor
  cases time
  rfl

namespace Run

def told (run : Run) : List Turn → List (Turn × List (Except Error (List Event)))
  | [] => []
  | turn :: rest => (turn, run.answers turn.moves) :: (run.after turn.moves).1.told rest

-- Were there no pauses, the process would be active wherever there is one.
def Pausable (run : Run) : List Turn → Prop
  | [] => True
  | .work now move _ :: rest => (run.next now move).1.Pausable rest
  | .pause _ :: rest => run.process.status = .active ∧ run.Pausable rest

section Pauses

variable (run : Run)

theorem task_refused (now : Instant) (move : Move) (ofTask : move.task?.isSome = true)
    (resting : run.process.status ≠ .active) :
    run.apply now move = .error (.process .advance run.id run.process.status) := by
  have refused : run.ensureActive = .error (.process .advance run.id run.process.status) :=
    if_neg resting
  cases move with
  | start id => rw [apply, startTask, refused]; rfl
  | complete id => rw [apply, completeTask, refused]; rfl
  | skip id reason => rw [apply, skipTask, refused]; rfl
  | stop => cases ofTask
  | resume => cases ofTask

theorem tried_refused (tried : List (Instant × Move))
    (ofTasks : ∀ attempt ∈ tried, attempt.2.task?.isSome = true)
    (suspended : run.process.status = .suspended) :
    run.answers tried = tried.map (fun _ => .error (.process .advance run.id .suspended)) ∧
      (run.after tried).1 = run := by
  induction tried with
  | nil => exact ⟨rfl, rfl⟩
  | cons head rest ih =>
      obtain ⟨now, move⟩ := head
      rw [List.forall_mem_cons] at ofTasks
      have refused := run.task_refused now move ofTasks.1 (by rw [suspended]; nofun)
      rw [suspended] at refused
      have stays : (run.next now move).1 = run := by rw [next, refused]
      obtain ⟨answered, left⟩ := ih ofTasks.2
      constructor
      · rw [answers, refused, stays, answered]
        rfl
      · rw [after_cons, stays, left]

def Fresh : Prop :=
  run.process.status = .active → run.process.history = [] ∧ run.process.Unstopped

theorem pause_told (pause : Pause) (active : run.process.status = .active) (fresh : run.Fresh) :
    run.answers pause.moves = pause.answers run.id ∧
      (run.after pause.moves).1 = run.recalling pause.entries := by
  let stopped : Run := { run with process := run.process.stopped pause.request pause.suspendedAt }
  have suspended : stopped.process.status = .suspended := rfl
  have allowed : run.process.status ∈ (stopRule pause.request.stopType).2.1 := by
    rw [active]
    exact List.mem_singleton_self _
  have stop := (run.apply_ok_iff pause.suspendedAt _ _).mpr
    (.stop pause.request pause.worded pause.signed allowed)
  have resume := (stopped.apply_ok_iff pause.resumedAt _ _).mpr (.resume pause.resumption suspended)
  obtain ⟨answered, left⟩ := stopped.tried_refused pause.tried pause.ofTasks suspended
  have first : (run.next pause.suspendedAt (.stop pause.request)).1 = stopped := by rw [next, stop]
  constructor
  · rw [Pause.moves, List.cons_append, answers, first, answers_append, answered, left, stop, answers,
      resume]
    rfl
  · rw [Pause.moves, List.cons_append, after_cons, first, after_append, left, after_cons, next, resume]
    obtain ⟨silent, unstopped⟩ := fresh active
    exact congrArg (fun process => { run with process })
      (paused_process run.process pause active silent unstopped)

theorem task_makes_process {now : Instant} {move : Move} {result : Run × List Event}
    (ofTask : move.task?.isSome = true) (made : run.Makes now move result)
    (going : result.1.process.status = .active) : result.1.process = run.process := by
  have settled (task : Task) (event : Event)
      (going : (run.settled task event now).1.process.status = .active) :
      (run.settled task event now).1.process = run.process := by
    rw [settled_run, finish_process] at going ⊢
    split
    · rename_i ended
      rw [if_pos ended] at going
      cases going
    · rfl
  cases made with
  | start => rfl
  | complete => exact settled _ _ going
  | skip => exact settled _ _ going
  | stop => cases ofTask
  | resume => cases ofTask

theorem work_fresh (now : Instant) (move : Move) (ofTask : move.task?.isSome = true)
    (fresh : run.Fresh) : (run.next now move).1.Fresh := by
  intro going
  unfold next at going ⊢
  cases applied : run.apply now move with
  | error _ =>
      rw [applied] at going
      exact fresh going
  | ok result =>
      rw [applied] at going
      have same := run.task_makes_process ofTask ((run.apply_ok_iff now move result).mp applied) going
      exact same ▸ fresh (same ▸ going)

theorem next_id (now : Instant) (move : Move) : (run.next now move).1.id = run.id :=
  next_keeps (fun other => other.id = run.id)
    (fun other now move result same made =>
      (congrArg Process.id (makes_terms other now move result made)).trans same) run now move rfl

end Pauses

section Recalled

variable (earlier : List HistoryEntry) (run : Run) (turns : List Turn)

theorem recalling_told : (run.recalling earlier).told turns = run.told turns := by
  induction turns generalizing run with
  | nil => rfl
  | cons turn rest ih => rw [told, told, recalling_answers, recalling_after, ih]

theorem recalling_pausable : (run.recalling earlier).Pausable turns ↔ run.Pausable turns := by
  induction turns generalizing run with
  | nil => exact .rfl
  | cons turn rest ih =>
      cases turn with
      | work now move _ =>
          rw [Pausable, Pausable, recalling_next]
          exact ih _
      | pause => exact and_congr_right fun _ => ih run

end Recalled

section Turns

variable (run : Run) (turns : List Turn) (fresh : run.Fresh) (pausable : run.Pausable turns)

include fresh pausable

theorem told_worked :
    (run.told turns).filter (fun entry => entry.1.worked) = run.told (turns.filter Turn.worked) := by
  induction turns generalizing run with
  | nil => rfl
  | cons turn rest ih =>
      cases turn with
      | work now move ofTask =>
          exact congrArg (_ :: ·) (ih _ (run.work_fresh now move ofTask fresh) pausable)
      | pause pause =>
          have left := (run.pause_told pause pausable.1 fresh).2
          change ((run.after pause.moves).1.told rest).filter (fun entry => entry.1.worked) = _
          rw [left, recalling_told]
          exact ih run fresh pausable.2

theorem told_pauses (pause : Pause) (answers : List (Except Error (List Event)))
    (member : (.pause pause, answers) ∈ run.told turns) : answers = pause.answers run.id := by
  induction turns generalizing run with
  | nil => cases member
  | cons turn rest ih =>
      rcases List.mem_cons.mp member with here | later
      · cases turn with
        | work => cases here
        | pause =>
            cases here
            exact (run.pause_told pause pausable.1 fresh).1
      · cases turn with
        | work now move ofTask =>
            have same := ih _ (run.work_fresh now move ofTask fresh) pausable later
            exact same.trans (congrArg pause.answers (run.next_id now move))
        | pause taken =>
            have left := (run.pause_told taken pausable.1 fresh).2
            change _ ∈ (run.after taken.moves).1.told rest at later
            rw [left, recalling_told] at later
            exact ih run fresh pausable.2 later

theorem after_turns :
    (run.after (turns.flatMap Turn.moves)).1 =
      (run.after ((turns.filter Turn.worked).flatMap Turn.moves)).1.recalling
        (turns.flatMap Turn.entries) := by
  induction turns generalizing run with
  | nil => rfl
  | cons turn rest ih =>
      cases turn with
      | work now move ofTask => exact ih _ (run.work_fresh now move ofTask fresh) pausable
      | pause pause =>
          have left := (run.pause_told pause pausable.1 fresh).2
          change (run.after (pause.moves ++ rest.flatMap Turn.moves)).1 = recalling
            (pause.entries ++ rest.flatMap Turn.entries) _
          rw [after_append, left, recalling_after, ih run fresh pausable.2, ← recalling_append]
          rfl

end Turns

end Run

theorem launch_fresh {request : StartRequest} {template : Template} {seeds : List Seed} {now : Instant}
    {ids : Nat → Uuid} {run : Run} {events : List Event}
    (launched : request.launch template seeds now ids = .ok (run, events)) :
    { run with process := { run.process with history := [] } : Run }.Fresh := by
  intro active
  have going : run.process.status = .active := active
  have before := (launch_consistent launched).unstopped (by rw [going]; rfl)
  exact ⟨rfl, before.type, before.reason, before.actor, before.time⟩

theorem pauses_transparent {σ : Type} (engine : Engine σ) (request : StartRequest)
    (world later : World σ) (started : Started) (turns : List Turn)
    (begun : engine.perform (.start request) world = (.ok (.started started), later))
    (pausable : started.run.Pausable turns) :
    let start := started.run
    let worked := turns.filter Turn.worked
    let plain := (start.after (worked.flatMap Turn.moves)).1
    let whole := (start.after (turns.flatMap Turn.moves)).1
    (start.told turns).filter (fun entry => entry.1.worked) = start.told worked ∧
      (∀ pause answers, (.pause pause, answers) ∈ start.told turns →
        answers = pause.answers start.id) ∧
      ∃ ended, plain.process.history = start.process.history ++ ended ∧
        whole = { plain with
          process := { plain.process with
            history := start.process.history ++ turns.flatMap Turn.entries ++ ended } } := by
  intro start worked plain whole
  obtain ⟨_, done, same⟩ := map_done begun
  cases same
  obtain ⟨_, _, _, _, _, launched⟩ := start_launched done
  -- What happened before the turns is left out of the history and put back in the end.
  let silent : Run := { start with process := { start.process with history := [] } }
  have fresh : silent.Fresh := launch_fresh launched
  have recalled : start = silent.recalling start.process.history := by
    rw [Run.recalling, List.append_nil]
  have told (turns : List Turn) : start.told turns = silent.told turns :=
    (congrArg (fun run => run.told turns) recalled).trans (Run.recalling_told _ _ turns)
  have after (moves : List (Instant × Move)) :
      (start.after moves).1 = (silent.after moves).1.recalling start.process.history :=
    (congrArg (fun run => (run.after moves).1) recalled).trans (Run.recalling_after _ _ moves)
  have pausable : silent.Pausable turns :=
    (Run.recalling_pausable start.process.history silent turns).mp (recalled ▸ pausable)
  refine ⟨?_, fun pause answers member => ?_, (silent.after (worked.flatMap Turn.moves)).1.process.history,
    ?_, ?_⟩
  · rw [told, told]
    exact silent.told_worked turns fresh pausable
  · rw [told] at member
    exact silent.told_pauses turns fresh pausable pause answers member
  · exact congrArg (·.process.history) (after _)
  · rw [show whole = _ from after _, show plain = _ from after _,
      silent.after_turns turns fresh pausable, List.append_assoc]
    rfl

def audit : Pause where
  suspendedAt := .epoch
  actorId := "kim"
  reason := " audit "
  tried := [(.epoch, .complete ⟨2⟩), (.epoch, .skip ⟨9⟩ none)]
  resumedAt := .epoch
  resumption := { actorId := "kim" }
  signed := by decide
  worded := by decide
  ofTasks := by decide

def auditedTurns : List Turn :=
  [.pause audit, .work .epoch (.complete ⟨2⟩) rfl, .work .epoch (.complete ⟨2⟩) rfl, .pause audit,
    .work .epoch (.complete ⟨3⟩) rfl]

theorem pauses_transparent_release :
    ∃ later, numbered.shelved.perform (.start releaseRequest) releaseSaved =
        (.ok (.started ⟨releaseStart, []⟩), later) ∧
      releaseStart.Pausable auditedTurns ∧
      (releaseStart.told auditedTurns).filter (fun entry => entry.1.worked) =
        releaseStart.told (auditedTurns.filter Turn.worked) ∧
      (releaseStart.after (auditedTurns.flatMap Turn.moves)).1.process.status = .completed := by
  have begun : (numbered.shelved.perform (.start releaseRequest) releaseSaved).1 =
    .ok (.started ⟨releaseStart, []⟩) := by cbv
  have pausable : releaseStart.Pausable auditedTurns := ⟨rfl, by cbv, trivial⟩
  obtain ⟨answered, -, -⟩ := pauses_transparent numbered.shelved releaseRequest releaseSaved _ _
    auditedTurns (Prod.ext begun rfl) pausable
  exact ⟨_, Prod.ext begun rfl, pausable, answered, by cbv⟩

end Workflow
