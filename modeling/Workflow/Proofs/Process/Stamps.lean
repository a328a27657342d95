import Workflow.Proofs.Process.Turns

set_option autoImplicit false

namespace Workflow

namespace Instant

theorem le_refl (time : Instant) : time ≤ time := by
  intro before
  rcases before with earlier | ⟨_, earlier⟩
  · exact Int.lt_irrefl _ earlier
  · exact Nat.lt_irrefl _ earlier

theorem le_iff (a b : Instant) :
    a ≤ b ↔ a.second < b.second ∨ a.second = b.second ∧ a.nano ≤ b.nano := by
  change ¬ (b.second < a.second ∨ b.second = a.second ∧ b.nano < a.nano) ↔ _
  omega

theorem le_trans {a b c : Instant} (first : a ≤ b) (second : b ≤ c) : a ≤ c := by
  rw [le_iff] at *
  omega

end Instant

namespace Task

inductive Dated (now : Instant) (task : Task) : Prop where
  | unbegun (status : task.status = .waiting ∨ task.status = .ready)
      (start : task.actualStartAt = none) (ending : task.actualEndAt = none) : Dated now task
  | going {first : Instant} (status : task.status = .inProgress)
      (start : task.actualStartAt = some first) (past : first ≤ now)
      (ending : task.actualEndAt = none) : Dated now task
  | completed {first last : Instant} (status : task.status = .completed)
      (start : task.actualStartAt = some first) (ordered : first ≤ last)
      (ending : task.actualEndAt = some last) (past : last ≤ now) : Dated now task
  | skipped {last : Instant} (status : task.status = .skipped)
      (ordered : ∀ first ∈ task.actualStartAt, first ≤ last)
      (ending : task.actualEndAt = some last) (past : last ≤ now) : Dated now task

def EndedBy (time : Instant) (task : Task) : Prop :=
  ∃ last, task.actualEndAt = some last ∧ last ≤ time

section

variable {time now : Instant} {task before after : Task}

theorem dated_later (dated : task.Dated time) (later : time ≤ now) : task.Dated now := by
  cases dated with
  | unbegun status start ending => exact .unbegun status start ending
  | going status start past ending => exact .going status start (Instant.le_trans past later) ending
  | completed status start ordered ending past =>
      exact .completed status start ordered ending (Instant.le_trans past later)
  | skipped status ordered ending past => exact .skipped status ordered ending (Instant.le_trans past later)

theorem dated_done (dated : task.Dated now) (done : task.status = .completed ∨ task.status = .skipped) :
    task.EndedBy now := by
  cases dated with
  | unbegun status => rcases status with is | is <;> simp [is] at done
  | going status => simp [status] at done
  | completed _ _ _ ending past => exact ⟨_, ending, past⟩
  | skipped _ _ ending past => exact ⟨_, ending, past⟩

theorem dated_ended (dated : task.Dated now) (last : Instant) (ending : task.actualEndAt = some last) :
    (task.status = .completed ∨ task.status = .skipped) ∧ last ≤ now := by
  cases dated with
  | unbegun _ _ none => simp [none] at ending
  | going _ _ _ none => simp [none] at ending
  | completed status _ _ same past =>
      cases same.symm.trans ending
      exact ⟨.inl status, past⟩
  | skipped status _ same past =>
      cases same.symm.trans ending
      exact ⟨.inr status, past⟩

theorem dated_ordered (dated : task.Dated now) (first last : Instant)
    (start : task.actualStartAt = some first) (ending : task.actualEndAt = some last) : first ≤ last := by
  cases dated with
  | unbegun _ none _ => simp [none] at start
  | going _ _ _ none => simp [none] at ending
  | completed _ began ordered ended _ =>
      cases began.symm.trans start
      cases ended.symm.trans ending
      exact ordered
  | skipped _ ordered ended _ =>
      cases ended.symm.trans ending
      exact ordered first start

theorem dated_start (dated : task.Dated now) (first : Instant) (start : task.actualStartAt = some first) :
    first ≤ now := by
  cases dated with
  | unbegun _ none _ => simp [none] at start
  | going _ began past _ =>
      cases began.symm.trans start
      exact past
  | completed _ began ordered _ past =>
      cases began.symm.trans start
      exact Instant.le_trans ordered past
  | skipped _ ordered _ past => exact Instant.le_trans (ordered first start) past

theorem turns_dated (move : Move) (dated : before.Dated now) (turns : before.Turns now move after) :
    after.Dated now := by
  cases turns with
  | start ready =>
      refine .going rfl rfl now.le_refl ?_
      cases dated with
      | unbegun _ _ ending => exact ending
      | going status => simp [ready] at status
      | completed status => simp [ready] at status
      | skipped status => simp [ready] at status
  | complete going =>
      refine .completed rfl rfl ?_ rfl now.le_refl
      cases start : before.actualStartAt with
      | none => exact now.le_refl
      | some first => exact dated_start dated first start
  | skip => exact .skipped rfl (fun first start => dated_start dated first start) rfl now.le_refl

theorem steps_dated (dated : before.Dated now) (steps : before.Steps now after) : after.Dated now := by
  rcases steps with (same | ⟨waiting, same⟩) | ⟨move, turns⟩
  · exact same ▸ dated
  · subst same
    cases dated with
    | unbegun _ start ending => exact .unbegun (.inr rfl) start ending
    | going status => simp [waiting] at status
    | completed status => simp [waiting] at status
    | skipped status => simp [waiting] at status
  · exact turns_dated move dated turns

theorem steps_start (steps : before.Steps now after) :
    after.actualStartAt = before.actualStartAt ∨
      after.actualStartAt = some now ∧ (after.status = .inProgress ∨ after.status = .completed) := by
  rcases steps with (same | ⟨_, same⟩) | ⟨move, turns⟩
  · exact .inl (same ▸ rfl)
  · exact .inl (same ▸ rfl)
  · cases turns with
    | start => exact .inr ⟨rfl, .inl rfl⟩
    | complete =>
        cases start : before.actualStartAt with
        | none => exact .inr ⟨by simp [done, start], .inr rfl⟩
        | some first => exact .inl (by simp [done, start])
    | skip => exact .inl rfl

theorem steps_skipped (dated : before.Dated time) (steps : before.Steps now after)
    (skipped : after.status = .skipped) (began : after.actualStartAt ≠ none) :
    after = before ∨ before.status = .inProgress := by
  rcases steps with (same | ⟨_, same⟩) | ⟨move, turns⟩
  · exact .inl same
  · simp [same] at skipped
  · cases turns with
    | start => simp [begun] at skipped
    | complete => simp [done] at skipped
    | skip _ unfinished =>
        cases dated with
        | unbegun _ start _ => exact absurd start began
        | going status => exact .inr status
        | completed status => exact absurd status unfinished.1
        | skipped status => exact absurd status unfinished.2

theorem steps_template (steps : before.Steps now after) : after.templateId = before.templateId := by
  rcases steps with (same | ⟨_, same⟩) | ⟨move, turns⟩
  · exact same ▸ rfl
  · exact same ▸ rfl
  · cases turns <;> rfl

theorem steps_begun (steps : before.Steps now after) (began : before.actualStartAt ≠ none) :
    after.actualStartAt ≠ none := by
  rcases steps_start steps with same | ⟨set, _⟩
  · exact same ▸ began
  · simp [set]

theorem dated_going (dated : task.Dated now) (going : task.status = .inProgress) :
    task.actualStartAt ≠ none := by
  cases dated with
  | unbegun status => rcases status with is | is <;> simp [going] at is
  | going _ start => simp [start]
  | completed status => simp [going] at status
  | skipped status => simp [going] at status

end

end Task

def SatisfiedBy (tasks : List Task) (mode : PredecessorMode) (predecessor : String)
    (time : Instant) : Prop :=
  match mode with
  | .all => ∀ task ∈ tasks, task.templateId = predecessor → task.EndedBy time
  | .any => (∃ task ∈ tasks, task.templateId = predecessor ∧ task.status = .completed ∧
        task.EndedBy time) ∨
      ∀ task ∈ tasks, task.templateId = predecessor → task.status = .skipped ∧ task.EndedBy time

theorem satisfied_by_now (tasks : List Task) (mode : PredecessorMode) (predecessor : String)
    (now : Instant) (dated : ∀ task ∈ tasks, task.Dated now)
    (satisfied : Satisfied tasks mode predecessor) : SatisfiedBy tasks mode predecessor now := by
  cases mode with
  | all => exact fun task member own => Task.dated_done (dated task member) (satisfied task member own)
  | any =>
      rcases satisfied with ⟨task, member, own, completed⟩ | skipped
      · exact .inl ⟨task, member, own, completed, Task.dated_done (dated task member) (.inl completed)⟩
      · refine .inr fun task member own => ?_
        have is := skipped task member own
        exact ⟨is, Task.dated_done (dated task member) (.inr is)⟩

-- What is over stays as it is, so an end that came in time stays so.
theorem satisfied_by_stays (old new : List Task) (mode : PredecessorMode) (predecessor : String)
    (time : Instant)
    (stays : List.Forall₂ (fun before after : Task => after.templateId = before.templateId ∧
      (before.actualEndAt ≠ none → after = before)) old new)
    (satisfied : SatisfiedBy old mode predecessor time) : SatisfiedBy new mode predecessor time := by
  have kept (before after : Task) (ended : before.EndedBy time)
      (pair : before.actualEndAt ≠ none → after = before) : after = before := by
    obtain ⟨last, ending, _⟩ := ended
    exact pair (by simp [ending])
  cases mode with
  | all =>
      intro task member own
      obtain ⟨before, found, same, pair⟩ := pointwise_back stays task member
      have ended := satisfied before found (same.symm.trans own)
      exact (kept before task ended pair).symm ▸ ended
  | any =>
      rcases satisfied with ⟨task, member, own, completed, ended⟩ | skipped
      · obtain ⟨after, found, _, pair⟩ := pointwise_forth stays task member
        have same := kept task after ended pair
        exact .inl ⟨after, found, same.symm ▸ ⟨own, completed, ended⟩⟩
      · refine .inr fun task member own => ?_
        obtain ⟨before, found, same, pair⟩ := pointwise_back stays task member
        have came := skipped before found (same.symm.trans own)
        exact (kept before task came.2 pair).symm ▸ came

end Workflow
