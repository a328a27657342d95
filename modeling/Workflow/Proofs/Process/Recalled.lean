import Workflow.Proofs.Process.Recheck

set_option autoImplicit false

namespace Workflow.Run

def recalling (earlier : List HistoryEntry) (run : Run) : Run :=
  { run with process := { run.process with history := earlier ++ run.process.history } }

theorem recalling_append (earlier later : List HistoryEntry) (run : Run) :
    run.recalling (earlier ++ later) = (run.recalling later).recalling earlier := by
  rw [recalling, List.append_assoc]
  rfl

variable (earlier : List HistoryEntry) (run : Run)

def recalled (result : Run × List Event) : Run × List Event :=
  (result.1.recalling earlier, result.2)

theorem recalling_release (id : String) :
    (run.recalling earlier).release id = recalled earlier (run.release id) := by
  have same : (run.recalling earlier).template? id = run.template? id := rfl
  unfold release
  rw [same]
  cases run.template? id with
  | none => rfl
  | some template =>
      have blocked : (run.recalling earlier).unblocked template = run.unblocked template := rfl
      dsimp only
      rw [blocked]
      split <;> rfl

theorem recalling_release_all (ids : List String) :
    (run.recalling earlier).releaseAll ids = recalled earlier (run.releaseAll ids) := by
  induction ids generalizing run with
  | nil => rfl
  | cons id rest ih =>
      rw [releaseAll, recalling_release]
      dsimp only [recalled]
      rw [ih]
      rfl

theorem recalling_finish (now : Instant) :
    (run.recalling earlier).finish now = recalled earlier (run.finish now) := by
  unfold finish
  change (if run.process.status = .active && run.allTerminal then _ else _) = _
  split
  · simp only [recalled, recalling, List.append_assoc]
    rfl
  · rfl

theorem recalling_settled (task : Task) (event : Event) (now : Instant) :
    (run.recalling earlier).settled task event now = recalled earlier (run.settled task event now) := by
  let put := run.putTask task.id task
  let ids := run.dependents task.templateId
  change ((((put.recalling earlier).releaseAll ids).1.finish now).1, event ::
    ((put.recalling earlier).releaseAll ids).2 ++
      (((put.recalling earlier).releaseAll ids).1.finish now).2) = _
  simp only [recalling_release_all, recalled, recalling_finish]
  rfl

theorem recalling_found (id : Uuid) {act other : Task → Except Error (Run × List Event)}
    (same : ∀ task, other task = (act task).map (recalled earlier)) :
    (do (run.recalling earlier).ensureActive
        let task ← (run.recalling earlier).findTask id
        other task) =
      (do run.ensureActive; let task ← run.findTask id; act task).map (recalled earlier) := by
  change (do run.ensureActive; let task ← run.findTask id; other task) = _
  cases run.ensureActive with
  | error error => rfl
  | ok _ =>
      cases run.findTask id with
      | error error => rfl
      | ok task => exact same task

theorem recalling_stop (request : StopRequest) (now : Instant) :
    (run.recalling earlier).stop request now = (run.stop request now).map (recalled earlier) := by
  unfold stop
  dsimp only
  by_cases reason : Text.trim request.reason = ""
  · rw [if_pos reason, if_pos reason]
    rfl
  rw [if_neg reason, if_neg reason]
  by_cases actor : Text.trim request.actorId = ""
  · rw [if_pos actor, if_pos actor]
    rfl
  rw [if_neg actor, if_neg actor]
  by_cases allowed : run.process.status ∈ (stopRule request.stopType).2.1
  · have same : (run.recalling earlier).process.status ∈ (stopRule request.stopType).2.1 := allowed
    rw [if_pos allowed, if_pos same]
    simp only [Except.map, recalled, recalling, List.append_assoc]
    rfl
  · have same : (run.recalling earlier).process.status ∉ (stopRule request.stopType).2.1 := allowed
    rw [if_neg allowed, if_neg same]
    rfl

theorem recalling_resume (request : ResumeRequest) (now : Instant) :
    (run.recalling earlier).resume request now = (run.resume request now).map (recalled earlier) := by
  unfold resume
  dsimp only
  by_cases suspended : run.process.status = .suspended
  · have same : (run.recalling earlier).process.status = .suspended := suspended
    rw [if_pos suspended, if_pos same]
    simp only [Except.map, recalled, recalling, List.append_assoc]
    rfl
  · have same : (run.recalling earlier).process.status ≠ .suspended := suspended
    rw [if_neg suspended, if_neg same]
    rfl

theorem recalling_apply (now : Instant) (move : Move) :
    (run.recalling earlier).apply now move = (run.apply now move).map (recalled earlier) := by
  cases move with
  | start id =>
      refine recalling_found earlier run id fun task => ?_
      split <;> rfl
  | complete id =>
      refine recalling_found earlier run id fun task => ?_
      simp only [recalling_settled]
      split <;> rfl
  | skip id reason =>
      refine recalling_found earlier run id fun task => ?_
      simp only [recalling_settled]
      split <;> rfl
  | stop request => exact recalling_stop earlier run request now
  | resume request => exact recalling_resume earlier run request now

theorem recalling_next (now : Instant) (move : Move) :
    (run.recalling earlier).next now move = recalled earlier (run.next now move) := by
  unfold next
  rw [recalling_apply]
  cases run.apply now move <;> rfl

theorem after_cons (now : Instant) (move : Move) (rest : List (Instant × Move)) :
    (run.after ((now, move) :: rest)).1 = ((run.next now move).1.after rest).1 := rfl

theorem recalling_after (moves : List (Instant × Move)) :
    ((run.recalling earlier).after moves).1 = (run.after moves).1.recalling earlier := by
  induction moves generalizing run with
  | nil => rfl
  | cons head rest ih =>
      obtain ⟨now, move⟩ := head
      rw [after_cons, after_cons, recalling_next]
      exact ih _

def answers (run : Run) : List (Instant × Move) → List (Except Error (List Event))
  | [] => []
  | (now, move) :: rest =>
    (run.apply now move).map Prod.snd :: (run.next now move).1.answers rest

theorem answers_append (moves more : List (Instant × Move)) :
    run.answers (moves ++ more) = run.answers moves ++ (run.after moves).1.answers more := by
  induction moves generalizing run with
  | nil => rfl
  | cons head rest ih => exact congrArg (_ :: ·) (ih _)

theorem recalling_answers (moves : List (Instant × Move)) :
    (run.recalling earlier).answers moves = run.answers moves := by
  induction moves generalizing run with
  | nil => rfl
  | cons head rest ih =>
      obtain ⟨now, move⟩ := head
      rw [answers, answers, recalling_next, recalling_apply]
      dsimp only [recalled]
      rw [ih]
      cases run.apply now move <;> rfl

end Workflow.Run
