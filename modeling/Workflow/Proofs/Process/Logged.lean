import Workflow.Proofs.Process.Completion
import Workflow.Proofs.Process.Log
import Workflow.Proofs.Process.Recheck

set_option autoImplicit false

namespace Workflow

namespace Run

inductive Logged (start : Run) (opening : List Event) : Run → List Event → Prop where
  | here : Logged start opening start opening
  | moved {run : Run} {log : List Event} (earlier : Logged start opening run log) (now : Instant)
      (move : Move) : Logged start opening (run.next now move).1 (log ++ (run.next now move).2)
  | rechecked {run : Run} {log : List Event} (earlier : Logged start opening run log) :
      Logged start opening run.recompute.1 (log ++ run.recompute.2)

structure Recorded (run : Run) (log : List Event) : Prop where
  distinct : (run.tasks.map Task.id).Nodup
  stories : ∀ task ∈ run.tasks, task.Story (told task.id log)
  unended : run.process.status ≠ .completed → ∀ event ∈ log, event.ends = false
  ended : run.process.status = .completed → run.allTerminal = true ∧ ∃ before time,
    log = before ++ [.completed run.id time] ∧ ∀ event ∈ before, event.ends = false

theorem release_all_told (run : Run) (ids : List String) (task : Task)
    (distinct : (run.tasks.map Task.id).Nodup) (member : task ∈ run.tasks) :
    told task.id (run.releaseAll ids).2 = if run.due ids task then [.ready task] else [] := by
  have same := (run.release_all_events ids).filter (Event.about task.id)
  have announced := told_announced run.tasks (run.due ids) task distinct member
  rw [← told, ← told, announced] at same
  cases due : run.due ids task with
  | true => exact List.perm_singleton.mp (by simpa [due] using same)
  | false => exact (by simpa [due] using same : (told _ _).Perm []).eq_nil

theorem release_all_quiet (run : Run) (ids : List String) :
    ∀ event ∈ (run.releaseAll ids).2, event.ends = false := by
  intro event member
  obtain ⟨task, _, same⟩ := List.mem_map.mp ((run.release_all_events ids).mem_iff.mp member)
  rw [← same]
  rfl

theorem freed_story (run : Run) (ids : List String) (task : Task) (said : List Event)
    (story : task.Story said) :
    (run.freed ids task).Story (said ++ if run.due ids task then [.ready task] else []) := by
  rw [freed_eq]
  cases due : run.due ids task with
  | false => simpa using story
  | true =>
      have held := ((run.due_iff ids task).mp due).2.2
      cases story with
      | waiting => exact .ready rfl
      | ready status => simp [status, TaskStatus.held] at held
      | begun status => simp [status, TaskStatus.held] at held
      | done status => simp [status, TaskStatus.held] at held
      | passed status => simp [status, TaskStatus.held] at held
      | dropped status => simp [status, TaskStatus.held] at held

theorem terminal_not_due (run : Run) (ids : List String) (task : Task)
    (done : task.status.terminal = true) : run.due ids task = false := by
  rw [← Bool.not_eq_true, due_iff]
  rintro ⟨_, _, held⟩
  rw [held_open held] at done
  cases done

theorem release_all_recorded (run : Run) (log : List Event) (ids : List String)
    (recorded : run.Recorded log) :
    (run.releaseAll ids).1.Recorded (log ++ (run.releaseAll ids).2) := by
  by_cases completed : run.process.status = .completed
  · have finished := List.all_eq_true.mp (recorded.ended completed).1
    rw [run.release_all_idle ids fun task member => run.terminal_not_due ids task (finished task member),
      List.append_nil]
    exact recorded
  · have same := run.release_all_run ids
    have kept (task : Task) : (run.freed ids task).id = task.id :=
      run.freed_field Task.id (fun _ _ _ _ => rfl) ids task
    have unmoved : (run.releaseAll ids).1.process.status ≠ .completed := by rwa [same]
    refine ⟨?_, ?_, fun _ => ?_, fun is => absurd is unmoved⟩
    · have all : (run.releaseAll ids).1.tasks.map Task.id = run.tasks.map Task.id := by
        rw [same, List.map_map]
        exact List.map_congr_left fun task _ => kept task
      exact all ▸ recorded.distinct
    · intro task member
      rw [same] at member
      obtain ⟨before, listed, freed⟩ := List.mem_map.mp member
      rw [← freed, kept, told_append, run.release_all_told ids before recorded.distinct listed]
      exact run.freed_story ids before _ (recorded.stories before listed)
    · exact List.forall_mem_append.mpr ⟨recorded.unended completed, run.release_all_quiet ids⟩

theorem put_recorded (run : Run) (log said : List Event) (id : Uuid) (old new : Task)
    (recorded : run.Recorded log) (active : run.process.status = .active)
    (found : run.task? id = some old) (sameId : new.id = id)
    (own : ∀ event ∈ said, event.about id = true) (story : new.Story (told id log ++ said)) :
    (run.putTask id new).Recorded (log ++ said) := by
  obtain ⟨_, oldId⟩ := run.task_mem id old found
  obtain ⟨before, after, split, put, _⟩ := run.put_task_split id old new found
  have ids := run.put_task_field Task.id id old new found (sameId.trans oldId.symm)
  have distinct := recorded.distinct
  have going : run.process.status ≠ .completed := by simp [active]
  refine ⟨ids ▸ distinct, fun task member => ?_, fun _ => ?_, fun is => absurd is going⟩
  · rw [told_append]
    have others : task ∈ before ++ after → task.Story (told task.id log ++ told task.id said) := by
      intro other
      rw [split, List.map_append, List.map_cons, List.nodup_middle, List.nodup_cons,
        ← List.map_append, oldId] at distinct
      have apart : task.id ≠ id := fun same => distinct.1 (same ▸ List.mem_map_of_mem other)
      rw [told_elsewhere id task.id said own apart, List.append_nil]
      apply recorded.stories
      rw [split]
      exact List.mem_append.mpr ((List.mem_append.mp other).imp_right (List.mem_cons_of_mem old))
    rw [put, List.mem_append, List.mem_cons] at member
    rcases member with first | here | last
    · exact others (List.mem_append_left after first)
    · rw [here, sameId, told_all id said own]
      exact story
    · exact others (List.mem_append_right before last)
  · refine List.forall_mem_append.mpr ⟨recorded.unended going, fun event member => ?_⟩
    exact event.about_open id (own event member)

theorem finish_recorded (run : Run) (log : List Event) (now : Instant) (recorded : run.Recorded log) :
    (run.finish now).1.Recorded (log ++ (run.finish now).2) := by
  by_cases ending : (decide (run.process.status = .active) && run.allTerminal) = true
  · rw [finish, if_pos ending]
    rw [Bool.and_eq_true, decide_eq_true_eq] at ending
    have quiet := recorded.unended (by simp [ending.1])
    refine ⟨recorded.distinct, fun task member => ?_, fun is => absurd rfl is,
      fun _ => ⟨ending.2, log, now, rfl, quiet⟩⟩
    have nothing : told task.id [.completed run.id now] = [] := rfl
    rw [told_append, nothing, List.append_nil]
    exact recorded.stories task member
  · rw [finish, if_neg ending, List.append_nil]
    exact recorded

theorem settled_recorded (run : Run) (log : List Event) (id : Uuid) (old new : Task) (event : Event)
    (now : Instant) (recorded : run.Recorded log) (active : run.process.status = .active)
    (found : run.task? id = some old) (sameId : new.id = id) (own : event.about id = true)
    (story : new.Story (told id log ++ [event])) :
    (run.settled new event now).1.Recorded (log ++ (run.settled new event now).2) := by
  have put := run.put_recorded log [event] id old new recorded active found sameId
    (by simpa using own) story
  have released := release_all_recorded _ _ (run.dependents new.templateId) put
  have finished := finish_recorded _ _ now released
  rw [← sameId, List.append_assoc, List.append_assoc] at finished
  exact finished

theorem paused_recorded (run : Run) (log : List Event) (process : Process) (event : Event)
    (recorded : run.Recorded log) (before : run.process.status ≠ .completed)
    (after : process.status ≠ .completed) (general : event.notice? = none)
    (quiet : event.ends = false) : ({ run with process } : Run).Recorded (log ++ [event]) := by
  refine ⟨recorded.distinct, fun task member => ?_, fun _ => ?_, fun is => absurd is after⟩
  · have nothing : told task.id [event] = [] := by simp [told, Event.about, general]
    rw [told_append, nothing, List.append_nil]
    exact recorded.stories task member
  · exact List.forall_mem_append.mpr ⟨recorded.unended before, by simpa using quiet⟩

theorem makes_recorded (run : Run) (log : List Event) (now : Instant) (move : Move)
    (result : Run × List Event) (recorded : run.Recorded log) (made : run.Makes now move result) :
    result.1.Recorded (log ++ result.2) := by
  cases made with
  | start id task active found ready =>
      obtain ⟨member, same⟩ := run.task_mem id task found
      have story := begun_story task now _ ready (recorded.stories task member)
      refine run.put_recorded log [] id task (task.begun now) recorded active found same (by simp) ?_
      rwa [List.append_nil, ← same]
  | complete id task active found may =>
      obtain ⟨member, same⟩ := run.task_mem id task found
      have story := done_story task now _ (may_complete_going task may) (recorded.stories task member)
      rw [same] at story
      exact run.settled_recorded log id task (task.done now) _ now recorded active found same
        (by simp [Event.about, same]) story
  | skip id reason task active found unfinished =>
      obtain ⟨member, same⟩ := run.task_mem id task found
      have story := passed_story task now _ reason unfinished (recorded.stories task member)
      rw [same] at story
      exact run.settled_recorded log id task (task.passed now) _ now recorded active found same
        (by simp [Event.about, same]) story
  | stop request reason actor allowed =>
      obtain ⟨before, after⟩ := stop_rule_open request.stopType run.process.status allowed
      exact run.paused_recorded log _ _ recorded before after rfl rfl
  | resume request suspended =>
      exact run.paused_recorded log _ _ recorded (by simp [suspended]) (by simp [Process.resumed]) rfl rfl

theorem launch_recorded {process : Process} {templates : List TaskTemplate} {seeds : List Seed}
    {ids : Nat → Uuid} {start : Run} {events : List Event}
    (launched : launch process templates seeds ids = .ok (start, events))
    (distinct : (start.tasks.map Task.id).Nodup) : start.Recorded events := by
  have begins := launch_open launched
  have active : start.process.status = .active := by rw [(launch_templates launched).2]
  have announced : events = (start.tasks.filter (·.status = .ready)).map .ready := by
    obtain ⟨tasks, _, same⟩ := launch_planted launched
    cases same
    rfl
  refine ⟨distinct, fun task member => ?_, fun _ => ?_, fun is => by simp [active] at is⟩
  · rw [announced, told_announced start.tasks _ task distinct member]
    rcases begins task member with waiting | ready
    · simpa [waiting] using Task.Story.waiting waiting
    · simpa [ready] using Task.Story.ready ready
  · rw [announced]
    exact List.forall_mem_map.mpr fun task _ => rfl

theorem logged_recorded {start run : Run} {opening log : List Event}
    (logged : Logged start opening run log) (begun : start.Recorded opening) : run.Recorded log := by
  induction logged with
  | here => exact begun
  | @moved run log _ now move ih =>
      rw [next]
      cases applied : run.apply now move with
      | ok result =>
          exact makes_recorded run log now move result ih ((run.apply_ok_iff now move result).mp applied)
      | error _ => simpa using ih
  | rechecked _ ih => exact release_all_recorded _ _ _ ih

theorem moves_logged {start run : Run} {opening log : List Event}
    (logged : Logged start opening run log) (moves : List (Instant × Move)) :
    Logged start opening (run.after moves).1 (log ++ (run.after moves).2) := by
  induction moves generalizing run log with
  | nil =>
      rw [after, List.append_nil]
      exact logged
  | cons head rest ih =>
      have later := ih (logged.moved head.1 head.2)
      rw [List.append_assoc] at later
      exact later

theorem recorded_end (run : Run) (log : List Event) (recorded : run.Recorded log) :
    log.countP Event.ends = if run.process.status = .completed then 1 else 0 := by
  by_cases completed : run.process.status = .completed
  · obtain ⟨_, before, time, split, quiet⟩ := recorded.ended completed
    have none : before.countP Event.ends = 0 :=
      List.countP_eq_zero.mpr fun event member => by simp [quiet event member]
    rw [split, List.countP_append, none, if_pos completed]
    rfl
  · rw [if_neg completed]
    exact List.countP_eq_zero.mpr fun event member => by simp [recorded.unended completed event member]

end Run

theorem log_exact (process : Process) (templates : List TaskTemplate) (seeds : List Seed)
    (ids : Nat → Uuid) (start run : Run) (opening log : List Event)
    (launched : Run.launch process templates seeds ids = .ok (start, opening))
    (distinct : (start.tasks.map Task.id).Nodup) (logged : Run.Logged start opening run log) :
    (∀ task ∈ run.tasks, task.Accounted log) ∧
      (log.countP Event.ends = if run.process.status = .completed then 1 else 0) ∧
      (run.process.status = .completed → ∃ before time, log = before ++ [.completed run.id time]) := by
  have recorded := Run.logged_recorded logged (Run.launch_recorded launched distinct)
  refine ⟨fun task member => ?_, run.recorded_end log recorded, fun completed => ?_⟩
  · exact story_accounted task log (recorded.stories task member)
  · obtain ⟨_, before, time, split, _⟩ := recorded.ended completed
    exact ⟨before, time, split⟩

def signingOpening : List Event :=
  [.ready (signingTask 0 "draft" "Draft" .ready), .ready (signingTask 1 "draft" "Draft" .ready)]

def signingEnd : List (Instant × Move) :=
  [(Instant.epoch, .complete (signingIds 0)), (Instant.epoch, .skip (signingIds 1) none),
    (Instant.epoch, .complete (signingIds 2))]

theorem log_exact_signed :
    let run := (signingRun.after signingEnd).1
    let log := signingOpening ++ (signingRun.after signingEnd).2
    Run.launch signingProcess signing signingSeeds signingIds = .ok (signingRun, signingOpening) ∧
      (signingRun.tasks.map Task.id).Nodup ∧ Run.Logged signingRun signingOpening run log ∧
        run.process.status = .completed ∧ (∀ task ∈ run.tasks, task.Accounted log) ∧
          ∃ before time, log = before ++ [.completed run.id time] := by
  intro run log
  have launched : Run.launch signingProcess signing signingSeeds signingIds =
    .ok (signingRun, signingOpening) := rfl
  have distinct : (signingRun.tasks.map Task.id).Nodup := by decide
  have logged : Run.Logged signingRun signingOpening run log := Run.moves_logged .here signingEnd
  have completed : run.process.status = .completed := by cbv
  obtain ⟨tasks, _, ended⟩ := log_exact signingProcess signing signingSeeds signingIds signingRun run
    signingOpening log launched distinct logged
  exact ⟨launched, distinct, logged, completed, tasks, ended completed⟩

end Workflow
