import Workflow.Proofs.Engine.Outcome
import Workflow.Proofs.Engine.Sessions
import Workflow.Proofs.Engine.Start
import Workflow.Proofs.Process.Recheck

set_option autoImplicit false

namespace Workflow

namespace LifecycleAction

def next? : ProcessStatus → LifecycleAction → Option ProcessStatus
  | .active, .suspended => some .suspended
  | .active, .aborted => some .aborted
  | .active, .completed => some .completed
  | .suspended, .resumed => some .active
  | .suspended, .aborted => some .aborted
  | _, _ => none

def replay : List LifecycleAction → Option ProcessStatus
  | .started :: later => later.foldlM next? .active
  | _ => none

def pauses (count : Nat) : List LifecycleAction :=
  (List.replicate count [.suspended, .resumed]).flatten

-- What may follow the pauses that are over, and the status in which it leaves the process.
inductive Ending : List LifecycleAction → ProcessStatus → Prop where
  | going : Ending [] .active
  | paused : Ending [.suspended] .suspended
  | aborted : Ending [.aborted] .aborted
  | abortedInPause : Ending [.suspended, .aborted] .aborted
  | completed : Ending [.completed] .completed

theorem replay_snoc (actions : List LifecycleAction) (action : LifecycleAction)
    (begun : actions ≠ []) :
    replay (actions ++ [action]) = (replay actions).bind fun status => next? status action := by
  cases actions with
  | nil => exact absurd rfl begun
  | cons first later =>
      cases first with
      | started =>
          change (later ++ [action]).foldlM next? .active = (later.foldlM next? .active).bind _
          simp only [List.foldlM_append, List.foldlM_cons, List.foldlM_nil, bind_pure]
          rfl
      | _ => rfl

theorem pauses_succ (count : Nat) : pauses (count + 1) = pauses count ++ [.suspended, .resumed] := by
  rw [pauses, List.replicate_succ', List.flatten_append]
  rfl

theorem replay_pauses (count : Nat) (later : List LifecycleAction) :
    (pauses count ++ later).foldlM next? .active = later.foldlM next? .active := by
  induction count with
  | zero => rfl
  | succ count ih => exact ih

theorem replay_iff (actions : List LifecycleAction) (status : ProcessStatus) :
    replay actions = some status ↔
      ∃ count ending, Ending ending status ∧ actions = .started :: (pauses count ++ ending) := by
  constructor
  · induction actions using List.reverseRecOn generalizing status with
    | nil => exact nofun
    | append_singleton actions action ih =>
        intro replayed
        cases actions with
        | nil =>
            cases action <;> cases replayed
            exact ⟨0, [], .going, rfl⟩
        | cons first later =>
            rw [replay_snoc _ _ (List.cons_ne_nil first later)] at replayed
            obtain ⟨before, known, taken⟩ := Option.bind_eq_some_iff.mp replayed
            obtain ⟨count, ending, ends, same⟩ := ih before known
            rw [same, List.cons_append, List.append_assoc]
            cases ends with
            | going =>
                cases action <;> cases taken
                · exact ⟨count, _, .paused, rfl⟩
                · exact ⟨count, _, .aborted, rfl⟩
                · exact ⟨count, _, .completed, rfl⟩
            | paused =>
                cases action <;> cases taken
                · exact ⟨count, _, .abortedInPause, rfl⟩
                · refine ⟨count + 1, [], .going, ?_⟩
                  rw [pauses_succ, List.append_nil]
                  rfl
            | aborted => cases action <;> cases taken
            | abortedInPause => cases action <;> cases taken
            | completed => cases action <;> cases taken
  · rintro ⟨count, ending, ends, rfl⟩
    rw [replay, replay_pauses]
    cases ends <;> rfl

end LifecycleAction

def StopType.action : StopType → LifecycleAction
  | .suspended => .suspended
  | .aborted => .aborted

def ProcessStatus.stopped : ProcessStatus → Bool
  | .suspended => true
  | .aborted => true
  | _ => false

namespace Process

def actions (process : Process) : List LifecycleAction := process.history.map HistoryEntry.action

inductive Stopped (process : Process) : Prop where
  | of (type : StopType) (reason actor : String) (time : Instant)
      (last : process.history.getLast? = some
        { time, action := type.action, actorId := some actor, reason := some reason })
      (typed : process.stopType = some type)
      (reasoned : process.stopReason = some reason) (signed : process.stoppedById = some actor)
      (timed : process.stoppedAt = some time)
      (worded : Text.blank reason = false) (trimmed : Text.trim reason = reason)

structure Unstopped (process : Process) : Prop where
  type : process.stopType = none
  reason : process.stopReason = none
  actor : process.stoppedById = none
  time : process.stoppedAt = none

structure Consistent (process : Process) : Prop where
  replayed : LifecycleAction.replay process.actions = some process.status
  ended : process.endAt =
    if process.status.terminal then process.history.getLast?.map HistoryEntry.time else none
  stopped : process.status.stopped = true → process.Stopped
  unstopped : process.status.stopped = false → process.Unstopped

theorem replay_entry {process later : Process} {entry : HistoryEntry}
    (replayed : LifecycleAction.replay process.actions = some process.status)
    (told : later.history = process.history ++ [entry]) :
    LifecycleAction.replay later.actions = LifecycleAction.next? process.status entry.action := by
  have begun : process.actions ≠ [] := fun none => by
    rw [none] at replayed
    cases replayed
  have actions : later.actions = process.actions ++ [entry.action] := by
    rw [Process.actions, told, List.map_append]
    rfl
  rw [actions, LifecycleAction.replay_snoc _ _ begun, replayed]
  rfl

theorem stop_rule_leads (type : StopType) (status : ProcessStatus)
    (allowed : status ∈ (Run.stopRule type).2.1) :
    LifecycleAction.next? status (Run.stopRule type).2.2.2 = some (Run.stopRule type).2.2.1 := by
  cases type <;> cases status <;> first | rfl | simp [Run.stopRule] at allowed

section Entries

variable {process : Process} (consistent : process.Consistent) (now : Instant)

include consistent

theorem completed_consistent (active : process.status = .active) :
    { process with
      status := .completed
      endAt := some now
      history := process.history ++ [{ time := now, action := .completed }] : Process }.Consistent where
  replayed := by
    rw [replay_entry consistent.replayed rfl, active]
    rfl
  ended := by simp [ProcessStatus.terminal]
  stopped := nofun
  unstopped _ :=
    have before := consistent.unstopped (by rw [active]; rfl)
    ⟨before.type, before.reason, before.actor, before.time⟩

theorem stopped_consistent (request : StopRequest) (reason : Text.trim request.reason ≠ "")
    (allowed : process.status ∈ (Run.stopRule request.stopType).2.1) :
    (process.stopped request now).Consistent where
  replayed := by
    have told : (process.stopped request now).history = process.history ++ [_] := rfl
    rw [replay_entry consistent.replayed told]
    exact stop_rule_leads request.stopType process.status allowed
  ended := by
    have before := consistent.ended
    have last : (process.stopped request now).history.getLast?.map HistoryEntry.time = some now := by
      simp [Process.stopped]
    rw [last]
    cases type : request.stopType with
    | aborted => simp [Process.stopped, Run.stopRule, type, ProcessStatus.terminal]
    | suspended =>
        have active : process.status = .active := by simpa [Run.stopRule, type] using allowed
        rw [active] at before
        simpa [Process.stopped, Run.stopRule, type, ProcessStatus.terminal] using before
  stopped _ := by
    refine .of request.stopType (Text.trim request.reason) request.actorId now ?_ rfl rfl rfl rfl
      (Text.trim_not_blank reason) (Text.trim_idempotent _)
    cases type : request.stopType <;> simp [Process.stopped, Run.stopRule, StopType.action, type]
  unstopped going := by
    cases type : request.stopType <;>
      simp [Process.stopped, Run.stopRule, ProcessStatus.stopped, type] at going

theorem resumed_consistent (request : ResumeRequest) (suspended : process.status = .suspended) :
    (process.resumed request now).Consistent where
  replayed := by
    have told : (process.resumed request now).history = process.history ++ [_] := rfl
    rw [replay_entry consistent.replayed told, suspended]
    rfl
  ended := by
    have before := consistent.ended
    rw [suspended] at before
    exact before
  stopped := nofun
  unstopped _ := ⟨rfl, rfl, rfl, rfl⟩

end Entries

end Process

namespace Run

theorem settled_consistent (run : Run) (task : Task) (event : Event) (now : Instant)
    (consistent : run.process.Consistent) (active : run.process.status = .active) :
    (run.settled task event now).1.process.Consistent := by
  rw [settled_run, finish_process]
  split
  · exact Process.completed_consistent consistent now active
  · exact consistent

theorem makes_consistent (run : Run) (now : Instant) (move : Move) (result : Run × List Event)
    (consistent : run.process.Consistent) (made : run.Makes now move result) :
    result.1.process.Consistent := by
  cases made with
  | start => exact consistent
  | complete _ task active => exact run.settled_consistent _ _ now consistent active
  | skip _ _ task active => exact run.settled_consistent _ _ now consistent active
  | stop request reason _ allowed =>
      exact Process.stopped_consistent consistent now request reason allowed
  | resume request suspended => exact Process.resumed_consistent consistent now request suspended

theorem reached_consistent {start run : Run} (reached : Reached start run)
    (begun : start.process.Consistent) : run.process.Consistent := by
  induction reached with
  | here => exact begun
  | moved _ now move ih =>
      exact next_keeps (fun run => run.process.Consistent) makes_consistent _ now move ih
  | @rechecked run _ ih =>
      rw [recompute, release_all_run]
      exact ih

end Run

theorem start_launched {σ : Type} {engine : Engine σ} {request : StartRequest} {world later : World σ}
    {started : Started} (done : (engine.start request).run world = (.ok started, later)) :
    ∃ template seeds now ids events,
      request.launch template seeds now ids = .ok (started.run, events) := by
  obtain ⟨template, _, _, begun⟩ := start_begun done
  obtain ⟨seeds, events, -, launched, -⟩ := begun.launched
  exact ⟨template, seeds, _, _, events, launched⟩

theorem launch_consistent {request : StartRequest} {template : Template} {seeds : List Seed}
    {now : Instant} {ids : Nat → Uuid} {run : Run} {events : List Event}
    (launched : request.launch template seeds now ids = .ok (run, events)) :
    run.process.Consistent := by
  obtain ⟨_, _, rest⟩ := (bind_ok_iff _ _ _).mp launched
  rw [(Run.launch_templates rest).2]
  exact ⟨rfl, rfl, nofun, fun _ => ⟨rfl, rfl, rfl, rfl⟩⟩

theorem lifecycle_consistent {σ : Type} (engine : Engine σ) (request : StartRequest)
    (world later : World σ) (started : Started) (run : Run)
    (begun : engine.perform (.start request) world = (.ok (.started started), later))
    (reached : Run.Reached started.run run) :
    (∃ count ending, LifecycleAction.Ending ending run.process.status ∧
      run.process.actions = .started :: (LifecycleAction.pauses count ++ ending)) ∧
      run.process.Consistent := by
  obtain ⟨_, done, same⟩ := map_done begun
  cases same
  obtain ⟨_, _, _, _, _, launched⟩ := start_launched done
  have consistent := Run.reached_consistent reached (launch_consistent launched)
  exact ⟨(LifecycleAction.replay_iff _ _).mp consistent.replayed, consistent⟩

def releaseSaved : World Shelf :=
  (numbered.shelved.session (Engine.outset {}) (releaseCalls.take 1)).2

def releaseRequest : StartRequest := { templateId := ⟨0⟩, title := "Run", startedById := "owner" }

def releaseStart : Run where
  process := releaseRun.process
  tasks := [{ id := ⟨2⟩, processId := ⟨1⟩, templateId := "a", name := "a", taskType := .plain
              status := .ready },
    { id := ⟨3⟩, processId := ⟨1⟩, templateId := "c", name := "c", taskType := .plain
      status := .waiting }]
  templates := releaseRun.templates

def halt (stopType : StopType) (reason : String) : Move := .stop { actorId := "kim", stopType, reason }

def releaseHalted : Run :=
  let paused := (releaseStart.next .epoch (halt .suspended "audit")).1
  let refused := (paused.next .epoch (.complete ⟨2⟩)).1
  (refused.next .epoch (halt .aborted " too late ")).1

theorem lifecycle_consistent_release :
    ∃ later, numbered.shelved.perform (.start releaseRequest) releaseSaved =
        (.ok (.started ⟨releaseStart, []⟩), later) ∧
      Run.Reached releaseStart releaseHalted ∧ releaseHalted.process.status = .aborted ∧
        releaseHalted.process.stopReason = some "too late" ∧ releaseHalted.process.Consistent := by
  have begun : (numbered.shelved.perform (.start releaseRequest) releaseSaved).1 =
    .ok (.started ⟨releaseStart, []⟩) := by cbv
  have reached : Run.Reached releaseStart releaseHalted := .moved (.moved (.moved .here _ _) _ _) _ _
  obtain ⟨-, consistent⟩ := lifecycle_consistent numbered.shelved releaseRequest releaseSaved _ _
    releaseHalted (Prod.ext begun rfl) reached
  exact ⟨_, Prod.ext begun rfl, reached, by cbv, by cbv, consistent⟩

end Workflow
