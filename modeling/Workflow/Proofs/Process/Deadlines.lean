import Workflow.Proofs.Process.Staffing
import Workflow.Proofs.Process.Stamps

set_option autoImplicit false

namespace Workflow

namespace Instant

-- Not a leap second.
def Ordinary (time : Instant) : Prop := time.nano < billion

def DaysLater (days : Nat) (anchor time : Instant) : Prop :=
  time.second = anchor.second + days * secondsPerDay ∧ time.nano = anchor.nano

def TooFar (days : Nat) (anchor : Instant) : Prop := lastSecond < anchor.second + days * secondsPerDay

instance (time : Instant) : Decidable time.Ordinary := inferInstanceAs (Decidable (_ < _))

instance (days : Nat) (anchor : Instant) : Decidable (TooFar days anchor) :=
  inferInstanceAs (Decidable (_ < _))

theorem make_ok_iff (second : Int) (nano : Nat) (time : Instant) :
    make? second nano = some time ↔ time.second = second ∧ time.nano = nano := by
  by_cases proper : Proper second nano
  · rw [make?, dif_pos proper, Option.some_inj]
    constructor
    · rintro rfl
      exact ⟨rfl, rfl⟩
    · rintro ⟨rfl, rfl⟩
      rfl
  · rw [make?, dif_neg proper]
    constructor
    · exact nofun
    · rintro ⟨rfl, rfl⟩
      exact absurd time.proper proper

section Days

variable {days : Nat} {anchor time : Instant}

theorem add_days_make (ordinary : anchor.Ordinary) :
    anchor.addDays? days = make? (anchor.second + days * secondsPerDay) anchor.nano := by
  by_cases same : (days : Int) * secondsPerDay = 0
  · rw [addDays?, shift?, if_pos same, same, Int.add_zero, make?, dif_pos anchor.proper]
  · have below : anchor.nano < billion := ordinary
    rw [addDays?, shift?, if_neg same, if_pos below]

theorem add_days_iff (ordinary : anchor.Ordinary) :
    anchor.addDays? days = some time ↔ DaysLater days anchor time := by
  rw [add_days_make ordinary, make_ok_iff, DaysLater]

theorem add_days_far (ordinary : anchor.Ordinary) :
    anchor.addDays? days = none ↔ TooFar days anchor := by
  have low := anchor.proper.1
  have proper : Proper (anchor.second + days * secondsPerDay) anchor.nano ↔ ¬ TooFar days anchor := by
    unfold Ordinary at ordinary
    unfold Proper TooFar secondsPerDay
    omega
  rw [add_days_make ordinary, make?]
  by_cases far : TooFar days anchor
  · rw [dif_neg (by rwa [proper, not_not])]
    exact ⟨fun _ => far, fun _ => rfl⟩
  · rw [dif_pos (proper.mpr far)]
    exact ⟨nofun, fun beyond => absurd beyond far⟩

theorem days_later_le {longer : Nat} {last : Instant} (within : days ≤ longer)
    (first : DaysLater days anchor time) (second : DaysLater longer anchor last) : time ≤ last := by
  unfold DaysLater secondsPerDay at *
  rw [le_iff]
  omega

end Days

end Instant

inductive Offset (anchor : Instant) : Option Nat → Option Instant → Prop where
  | never : Offset anchor none none
  | later {days : Nat} {time : Instant} (shifted : Instant.DaysLater days anchor time) :
      Offset anchor (some days) (some time)

theorem deadline_ok_iff {anchor : Instant} (ordinary : anchor.Ordinary) (offset : Option Nat)
    (due : Option Instant) : deadline anchor offset = .ok due ↔ Offset anchor offset due := by
  cases offset with
  | none =>
      constructor
      · intro made
        cases made
        exact .never
      · intro made
        cases made
        rfl
  | some days =>
      have made : deadline anchor (some days) = .ok due ↔
          ∃ time, anchor.addDays? days = some time ∧ some time = due := by
        rw [deadline]
        generalize anchor.addDays? days = shifted
        cases shifted <;> simp
      simp only [made, Instant.add_days_iff ordinary]
      constructor
      · rintro ⟨time, shifted, rfl⟩
        exact .later shifted
      · intro offset
        cases offset with
        | later shifted => exact ⟨_, shifted, rfl⟩

theorem deadline_error_iff {anchor : Instant} (ordinary : anchor.Ordinary) (offset : Option Nat)
    (error : Error) : deadline anchor offset = .error error ↔
      ∃ days ∈ offset, Instant.TooFar days anchor ∧ error = .request (.farDeadline days anchor) := by
  cases offset with
  | none => simp [deadline]
  | some days =>
      have failed : deadline anchor (some days) = .error error ↔
          anchor.addDays? days = none ∧ error = .request (.farDeadline days anchor) := by
        rw [deadline]
        generalize anchor.addDays? days = shifted
        cases shifted <;> simp [eq_comm]
      simp [failed, Instant.add_days_far ordinary]

def Longest (templates : List TaskTemplate) (days : Nat) : Prop :=
  (∃ template ∈ templates, template.deadlineOffsetDays = some days) ∧
    ∀ template ∈ templates, ∀ other ∈ template.deadlineOffsetDays, other ≤ days

inductive Promised (start : Instant) (templates : List TaskTemplate) : Option Instant → Prop where
  | never (none : ∀ template ∈ templates, template.deadlineOffsetDays = .none) :
      Promised start templates .none
  | longest {days : Nat} {time : Instant} (longest : Longest templates days)
      (shifted : Instant.DaysLater days start time) : Promised start templates (some time)

section Promises

variable {start : Instant} {templates : List TaskTemplate}

theorem longest_offset_iff (days : Nat) : longestOffset templates = some days ↔ Longest templates days := by
  rw [longestOffset, List.max?_eq_some_iff]
  simp only [List.mem_filterMap, Longest, forall_exists_index, and_imp]
  exact and_congr_right fun _ => ⟨fun below template member other given => below other template member given,
    fun below other template member given => below template member other given⟩

theorem longest_offset_none_iff :
    longestOffset templates = none ↔ ∀ template ∈ templates, template.deadlineOffsetDays = none := by
  rw [longestOffset, List.max?_eq_none_iff, List.filterMap_eq_nil_iff]

theorem expected_end_ok (ordinary : start.Ordinary) {expected : Option Instant}
    (made : expectedEnd start templates = .ok expected) : Promised start templates expected := by
  have offset := (deadline_ok_iff ordinary _ _).mp made
  cases longest : longestOffset templates with
  | none =>
      rw [longest] at offset
      cases offset
      exact .never (longest_offset_none_iff.mp longest)
  | some days =>
      rw [longest] at offset
      cases offset with
      | later shifted => exact .longest ((longest_offset_iff days).mp longest) shifted

theorem expected_end_error_iff (ordinary : start.Ordinary) (error : Error) :
    expectedEnd start templates = .error error ↔ ∃ days, Longest templates days ∧
      Instant.TooFar days start ∧ error = .request (.farDeadline days start) := by
  simp only [expectedEnd, deadline_error_iff ordinary, Option.mem_def, longest_offset_iff]

end Promises

namespace StartRequest

def explicit (request : StartRequest) (task : String) : Option Instant :=
  (request.plan? task).bind Plan.deadlineAt

def planned (request : StartRequest) (task : String) : Option Instant :=
  (request.plan? task).bind Plan.plannedStartAt

def anchor (request : StartRequest) (start : Instant) (task : String) : Instant :=
  (request.planned task).getD start

structure Ordinary (request : StartRequest) (start : Instant) : Prop where
  start : start.Ordinary
  planned : ∀ plan ∈ request.taskPlans, ∀ time ∈ plan.plannedStartAt, time.Ordinary

inductive Due (request : StartRequest) (start : Instant) (template : TaskTemplate) :
    Option Instant → Prop where
  | explicit {time : Instant} (given : request.explicit template.id = some time) :
      Due request start template (some time)
  | offset {due : Option Instant} (unset : request.explicit template.id = none)
      (offset : Offset (request.anchor start template.id) template.deadlineOffsetDays due) :
      Due request start template due

inductive Far (request : StartRequest) (start : Instant) (templates : List TaskTemplate) :
    Nat → Instant → Prop where
  | whole {days : Nat} (longest : Longest templates days) (far : Instant.TooFar days start) :
      Far request start templates days start
  | task {template : TaskTemplate} {days : Nat} (member : template ∈ templates)
      (unset : request.explicit template.id = none)
      (offset : template.deadlineOffsetDays = some days)
      (far : Instant.TooFar days (request.anchor start template.id)) :
      Far request start templates days (request.anchor start template.id)

section Seeds

variable {request : StartRequest} {start : Instant} (ordinary : request.Ordinary start)
include ordinary

theorem anchor_ordinary (task : String) : (request.anchor start task).Ordinary := by
  unfold anchor
  cases planned : request.planned task with
  | none => exact ordinary.start
  | some time =>
      obtain ⟨plan, found, given⟩ := Option.bind_eq_some_iff.mp planned
      exact ordinary.planned plan (List.mem_of_find?_eq_some found) time given

theorem seed_due {template : TaskTemplate} {assignee : Option User} {due : Option Instant}
    (made : seedDeadline start template (request.seed template.id assignee) = .ok due) :
    request.Due start template due := by
  unfold seedDeadline at made
  cases given : request.explicit template.id with
  | some time =>
      rw [show (request.seed template.id assignee).deadlineAt = some time from given] at made
      cases made
      exact .explicit given
  | none =>
      rw [show (request.seed template.id assignee).deadlineAt = none from given] at made
      exact .offset given ((deadline_ok_iff (anchor_ordinary ordinary template.id) _ _).mp made)

theorem seed_error_iff (template : TaskTemplate) (assignee : Option User) (error : Error) :
    seedDeadline start template (request.seed template.id assignee) = .error error ↔
      request.explicit template.id = none ∧ ∃ days ∈ template.deadlineOffsetDays,
        Instant.TooFar days (request.anchor start template.id) ∧
          error = .request (.farDeadline days (request.anchor start template.id)) := by
  rw [← deadline_error_iff (anchor_ordinary ordinary template.id), seedDeadline]
  cases given : request.explicit template.id with
  | some time =>
      rw [show (request.seed template.id assignee).deadlineAt = some time from given]
      simp
  | none =>
      rw [show (request.seed template.id assignee).deadlineAt = none from given]
      exact (and_iff_right rfl).symm

end Seeds

end StartRequest

section Launches

theorem plant_all_error {process : Process} {ids : Nat → Uuid} {number : Nat}
    {plantings : List (TaskTemplate × Seed)} {error : Error}
    (failed : plantAll process ids number plantings = .error error) :
    ∃ planting ∈ plantings, seedDeadline process.startAt planting.1 planting.2 = .error error := by
  induction plantings generalizing number with
  | nil => cases failed
  | cons first rest ih =>
      simp only [plantAll, bind_error_iff] at failed
      rcases failed with here | ⟨_, _, later | ⟨_, _, done⟩⟩
      · rcases (bind_error_iff _ _ _).mp here with far | ⟨_, _, done⟩
        · exact ⟨first, List.mem_cons_self, far⟩
        · cases done
      · obtain ⟨planting, member, far⟩ := ih later
        exact ⟨planting, List.mem_cons_of_mem first member, far⟩
      · cases done

theorem plant_all_near {process : Process} {ids : Nat → Uuid} {number : Nat}
    {plantings : List (TaskTemplate × Seed)} {tasks : List Task}
    (planted : plantAll process ids number plantings = .ok tasks) (planting : TaskTemplate × Seed)
    (member : planting ∈ plantings) :
    ∃ due, seedDeadline process.startAt planting.1 planting.2 = .ok due := by
  obtain ⟨_, _, _, found⟩ :=
    pointwise_forth (plant_all_pointwise process ids number plantings tasks planted) planting member
  obtain ⟨due, near, _⟩ := (bind_ok_iff _ _ _).mp found
  exact ⟨due, near⟩

structure StartRequest.Scheduled (request : StartRequest) (start : Instant)
    (templates : List TaskTemplate) (run : Run) : Prop where
  dated : ∃ groups, run.tasks = groups.flatten ∧
    List.Forall₂ (fun template group => group ≠ [] ∧ ∀ task ∈ group, task.templateId = template.id ∧
      task.plannedStartAt = request.planned template.id ∧ request.Due start template task.deadlineAt)
      templates groups
  promised : Promised start templates run.process.expectedEndAt
  within : ∀ task ∈ run.tasks, task.plannedStartAt = none → request.explicit task.templateId = none →
    ∀ due ∈ task.deadlineAt, ∃ last ∈ run.process.expectedEndAt, due ≤ last

theorem due_within {request : StartRequest} {start due : Instant} {template : TaskTemplate}
    {templates : List TaskTemplate} {expected : Option Instant} (member : template ∈ templates)
    (unplanned : request.planned template.id = none) (unset : request.explicit template.id = none)
    (dated : request.Due start template (some due)) (promised : Promised start templates expected) :
    ∃ last ∈ expected, due ≤ last := by
  have anchor : request.anchor start template.id = start := by rw [StartRequest.anchor, unplanned]; rfl
  cases dated with
  | explicit given => cases unset.symm.trans given
  | offset _ offset =>
      rw [anchor] at offset
      cases given : template.deadlineOffsetDays with
      | none =>
          rw [given] at offset
          cases offset
      | some days =>
          rw [given] at offset
          cases offset with
          | later shifted =>
              cases promised with
              | never none => cases (none template member).symm.trans given
              | longest longest last =>
                  exact ⟨_, rfl, Instant.days_later_le (longest.2 template member days given) shifted last⟩

section

variable {request : StartRequest} {template : Template} {directory : Directory} {start : Instant}
  {seeds : List Seed} {warnings : List Warning} {ids : Nat → Uuid}
  (ordinary : request.Ordinary start)
  (staffed : request.staff directory template.tasks = .ok (seeds, warnings))
include ordinary staffed

theorem launch_far {error : Error} (failed : request.launch template seeds start ids = .error error) :
    ∃ days anchor, request.Far start template.tasks days anchor ∧
      error = .request (.farDeadline days anchor) := by
  rcases (bind_error_iff _ _ _).mp failed with whole | ⟨expected, _, failed⟩
  · obtain ⟨days, longest, far, same⟩ := (expected_end_error_iff ordinary.start error).mp whole
    exact ⟨days, start, .whole longest far, same⟩
  · rcases (bind_error_iff _ _ _).mp failed with planted | ⟨_, _, done⟩
    · obtain ⟨⟨task, seed⟩, planting, far⟩ := plant_all_error planted
      obtain ⟨member, own⟩ := (planting_iff _ _ _ _).mp planting
      obtain ⟨assignee, rfl⟩ := (StartRequest.seeds_of_staffed staffed task member).2 seed own
      obtain ⟨unset, days, offset, beyond, same⟩ :=
        (StartRequest.seed_error_iff ordinary task assignee error).mp far
      exact ⟨days, _, .task member unset offset beyond, same⟩
    · cases done

theorem launch_near {result : Run × List Event} {days : Nat} {anchor : Instant}
    (launched : request.launch template seeds start ids = .ok result) :
    ¬ request.Far start template.tasks days anchor := by
  intro far
  obtain ⟨expected, promised, launched⟩ := (bind_ok_iff _ _ _).mp launched
  cases far with
  | whole longest far =>
      rw [(expected_end_error_iff ordinary.start _).mpr ⟨days, longest, far, rfl⟩] at promised
      cases promised
  | @task task _ member unset offset far =>
      obtain ⟨tasks, planted, -⟩ := (bind_ok_iff _ _ _).mp launched
      obtain ⟨some, made⟩ := StartRequest.seeds_of_staffed staffed task member
      obtain ⟨seed, own⟩ := List.exists_mem_of_ne_nil _ some
      obtain ⟨assignee, rfl⟩ := made seed own
      obtain ⟨due, near⟩ := plant_all_near planted _ ((planting_iff _ _ _ _).mpr ⟨member, own⟩)
      have beyond := (StartRequest.seed_error_iff ordinary task assignee _).mpr
        ⟨unset, days, offset, far, rfl⟩
      cases beyond.symm.trans near

theorem launch_scheduled {run : Run} {events : List Event}
    (launched : request.launch template seeds start ids = .ok (run, events)) :
    request.Scheduled start template.tasks run := by
  obtain ⟨expected, ended, launched⟩ := (bind_ok_iff _ _ _).mp launched
  have promised : Promised start template.tasks run.process.expectedEndAt := by
    rw [(Run.launch_templates launched).2]
    exact expected_end_ok ordinary.start ended
  obtain ⟨groups, whole, each⟩ := Run.launch_groups launched
  have dated : List.Forall₂ (fun task group => group ≠ [] ∧ ∀ item ∈ group, item.templateId = task.id ∧
      item.plannedStartAt = request.planned task.id ∧ request.Due start task item.deadlineAt)
      template.tasks groups := by
    refine (pointwise_members each).imp fun task group related => ?_
    obtain ⟨member, -, sown⟩ := related
    obtain ⟨some, made⟩ := StartRequest.seeds_of_staffed staffed task member
    constructor
    · intro none
      rw [none, List.forall₂_nil_right_iff] at sown
      exact some sown
    · intro item among
      obtain ⟨seed, own, sown⟩ := pointwise_back sown item among
      obtain ⟨assignee, rfl⟩ := made seed own
      exact ⟨sown.own, sown.plannedStart, StartRequest.seed_due ordinary sown.due⟩
  refine ⟨⟨groups, whole, dated⟩, promised, fun item listed unplanned unset due given => ?_⟩
  obtain ⟨group, among, member⟩ := List.mem_flatten.mp (whole ▸ listed)
  obtain ⟨task, known, -, each⟩ := pointwise_back dated group among
  obtain ⟨own, planned, dated⟩ := each item member
  rw [own] at unset
  rw [Option.mem_def.mp given] at dated
  exact due_within known (planned.symm.trans unplanned) unset dated promised

end

end Launches

end Workflow
