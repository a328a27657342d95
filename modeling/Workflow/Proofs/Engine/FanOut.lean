import Workflow.Proofs.Engine.Lifecycle
import Workflow.Proofs.Process.Release

set_option autoImplicit false

namespace Workflow

structure StartRequest.Staffs (request : StartRequest) (who : String → Option User) (limit : Nat)
    (template : TaskTemplate) (group : List Task) : Prop where
  held : List.Forall₂ Task.HeldBy (request.holders who template.id) group
  own : ∀ task ∈ group, task.templateId = template.id
  planned : ∀ plan ∈ request.taskPlans, plan.taskTemplateId = template.id → ∀ task ∈ group,
    task.plannedStartAt = plan.plannedStartAt ∧ task.plannedEndAt = plan.plannedEndAt ∧
      ∀ due ∈ plan.deadlineAt, task.deadlineAt = some due
  unplanned : (∀ plan ∈ request.taskPlans, plan.taskTemplateId ≠ template.id) → ∀ task ∈ group,
    task.plannedStartAt = none ∧ task.plannedEndAt = none
  opened : ∀ task ∈ group,
    task.status = if template.predecessorIds = [] then .ready else .waiting
  sized : 1 ≤ group.length ∧ group.length ≤ max 1 limit

def Run.AssignedOnce (run : Run) : Prop :=
  run.tasks.Pairwise fun first second =>
    first.templateId = second.templateId → first.assigneeId = second.assigneeId →
      first.assigneeId = none

instance (run : Run) : Decidable run.AssignedOnce :=
  inferInstanceAs (Decidable (run.tasks.Pairwise _))

theorem first_status {run : Run} {template : TaskTemplate} {task : Task}
    (distinct : (run.templates.map TaskTemplate.id).Nodup) (known : template ∈ run.templates)
    (own : task.templateId = template.id)
    (settled : task.status = if run.waits task then .waiting else .ready) :
    task.status = if template.predecessorIds = [] then .ready else .waiting := by
  rw [settled, Run.waits, own, run.template_of_mem template distinct known]
  cases waits : template.predecessorIds with
  | nil => simp [TaskTemplate.hasPredecessors, waits]
  | cons => simp [TaskTemplate.hasPredecessors, waits]

theorem mem_namesake (id : String) (user : User) :
    user ∈ Directory.namesake? id ↔
      Text.trim id ≠ "" ∧ user = { id := Text.trim id, name := Text.trim id } := by
  unfold Directory.namesake?
  by_cases blank : Text.trim id = ""
  · rw [if_pos blank]
    exact ⟨nofun, fun named => absurd blank named.1⟩
  · rw [if_neg blank, Option.mem_some_iff]
    exact ⟨fun same => ⟨blank, same.symm⟩, fun named => named.2.symm⟩

section Groups

variable {request : StartRequest} {who : String → Option User} {templates : List TaskTemplate}
  {groups : List (List Task)}

def StartRequest.Grouped (request : StartRequest) (who : String → Option User) (start : Instant)
    (template : TaskTemplate) (group : List Task) : Prop :=
  List.Forall₂ (fun holder task => task.Sown start template (request.seed template.id holder))
    (request.holders who template.id) group

theorem grouped_own {start : Instant} {template : TaskTemplate} {group : List Task}
    (grouped : request.Grouped who start template group) (task : Task) (member : task ∈ group) :
    ∃ holder, task.Sown start template (request.seed template.id holder) := by
  obtain ⟨holder, -, sown⟩ := pointwise_back grouped task member
  exact ⟨holder, sown⟩

theorem grouped_held {start : Instant} {template : TaskTemplate} {group : List Task}
    (grouped : request.Grouped who start template group) :
    List.Forall₂ Task.HeldBy (request.holders who template.id) group :=
  grouped.imp fun _ _ sown => sown.held

theorem groups_apart {start : Instant}
    (each : List.Forall₂ (request.Grouped who start) templates groups)
    (distinct : (templates.map TaskTemplate.id).Nodup) :
    groups.Pairwise fun first second =>
      ∀ a ∈ first, ∀ b ∈ second, a.templateId ≠ b.templateId := by
  induction each with
  | nil => exact .nil
  | @cons template group _ _ first rest ih =>
      rw [List.map_cons, List.nodup_cons] at distinct
      refine .cons (fun other listed a member b among same => distinct.1 ?_) (ih distinct.2)
      obtain ⟨later, known, grouped⟩ := pointwise_back rest other listed
      obtain ⟨_, own⟩ := grouped_own first a member
      obtain ⟨_, others⟩ := grouped_own grouped b among
      rw [← own.own, same, others.own]
      exact List.mem_map_of_mem known

theorem holders_once_iff (task : String) :
    ((request.holders who task).map (Option.map User.id)).Pairwise
        (fun first second => first = second → first = none) ↔
      (((request.requested task).filterMap who).map User.id).Nodup := by
  unfold StartRequest.holders
  cases users : (request.requested task).filterMap who with
  | nil => simp
  | cons first rest =>
      rw [List.map_map, List.pairwise_map, List.Nodup, List.pairwise_map]
      refine List.Pairwise.iff fun a b => ?_
      simp

theorem StartRequest.spelled_once_iff (request : StartRequest) (who : String → Option User)
    (task : String) :
    (((request.requested task).filterMap who).map User.id).Nodup ↔
      ∀ first ∈ request.requested task, ∀ second ∈ request.requested task,
        ∀ a ∈ who first, ∀ b ∈ who second, a.id = b.id → first = second := by
  have distinct : (request.requested task).Nodup := erase_dups_nodup _
  rw [List.Nodup, List.pairwise_map, List.pairwise_filterMap]
  constructor
  · intro apart first listed second again a found b other same
    by_contra different
    have symmetric : Std.Symm fun first second =>
        ∀ a, who first = some a → ∀ b, who second = some b → a.id ≠ b.id :=
      ⟨fun _ _ differ a found b other same => differ b other a found same.symm⟩
    exact apart.forall listed again different a found b other same
  · intro spelled
    refine distinct.pairwise_of_forall_ne fun first listed second again different => ?_
    exact fun a found b other same => different (spelled first listed second again a found b other same)

theorem held_ids {holders : List (Option User)} {group : List Task}
    (held : List.Forall₂ Task.HeldBy holders group) :
    group.map Task.assigneeId = holders.map (Option.map User.id) := by
  induction held with
  | nil => rfl
  | cons first _ ih => rw [List.map_cons, List.map_cons, first.id, ih]

end Groups

section Starts

variable {σ : Type} {engine : Engine σ} {request : StartRequest} {world later : World σ}
  {template : Template} {started : Started} {who : String → Option User}

theorem begun_groups (begun : Begun engine request world template started later)
    (answers : ∀ id, engine.directory.answer id = .ok (who id))
    (distinct : (template.tasks.map TaskTemplate.id).Nodup) :
    ∃ groups, started.run.tasks = groups.flatten ∧
      List.Forall₂ (request.Grouped who world.clock) template.tasks groups := by
  obtain ⟨seeds, events, staffed, launched, -⟩ := begun.launched
  rw [StartRequest.staff_answers answers] at staffed
  obtain ⟨rfl, -⟩ := Prod.mk.inj (Except.ok.inj staffed)
  obtain ⟨_, -, launched⟩ := (bind_ok_iff _ _ _).mp launched
  obtain ⟨groups, whole, each⟩ := Run.launch_groups launched
  have planted (task : TaskTemplate) : ∀ seed ∈ (request.holders who task.id).map (request.seed task.id),
      seed.templateId = task.id := by
    intro seed listed
    obtain ⟨holder, -, rfl⟩ := List.mem_map.mp listed
    rfl
  have some (task : TaskTemplate) : (request.holders who task.id).map (request.seed task.id) ≠ [] := by
    have held := (StartRequest.holders_length begun.accepted who task.id).1
    exact List.ne_nil_of_length_pos (by rwa [List.length_map])
  refine ⟨groups, whole, (pointwise_members each).imp fun task group related => ?_⟩
  obtain ⟨known, -, sown⟩ := related
  rw [StartRequest.seeds_of_own _ planted some distinct task known,
    List.forall₂_map_left_iff] at sown
  exact sown

theorem begun_opened (begun : Begun engine request world template started later) :
    started.run.templates = template.tasks ∧ ∀ task ∈ started.run.tasks,
      task.status = if started.run.waits task then .waiting else .ready := by
  obtain ⟨seeds, events, -, launched, -⟩ := begun.launched
  obtain ⟨_, -, launched⟩ := (bind_ok_iff _ _ _).mp launched
  exact ⟨(Run.launch_templates launched).1, Run.launch_status launched⟩

theorem begun_warnings (begun : Begun engine request world template started later)
    (answers : ∀ id, engine.directory.answer id = .ok (who id)) :
    started.warnings = template.tasks.flatMap fun task => request.unknown who task.id := by
  obtain ⟨seeds, events, staffed, -, -⟩ := begun.launched
  rw [StartRequest.staff_answers answers] at staffed
  exact (Prod.mk.inj (Except.ok.inj staffed)).2.symm

theorem begun_told (begun : Begun engine request world template started later) :
    later.published = world.published ++ engine.sink.recorded
      ((started.run.tasks.filter (·.status = .ready)).map Event.ready) := by
  obtain ⟨seeds, events, -, launched, published⟩ := begun.launched
  obtain ⟨_, -, launched⟩ := (bind_ok_iff _ _ _).mp launched
  rw [published, Run.launch_told launched]

theorem begun_staffs (begun : Begun engine request world template started later)
    (distinct : (template.tasks.map TaskTemplate.id).Nodup) {task : TaskTemplate} {group : List Task}
    (known : task ∈ template.tasks) (among : group ⊆ started.run.tasks)
    (grouped : request.Grouped who world.clock task group) :
    request.Staffs who engine.config.maxFanOut task group where
  held := grouped_held grouped
  own item member := by
    obtain ⟨_, sown⟩ := grouped_own grouped item member
    exact sown.own
  planned plan listed own item member := by
    obtain ⟨_, sown⟩ := grouped_own grouped item member
    have found : request.plan? task.id = some plan := own ▸ request.plan_own begun.accepted plan listed
    have due := sown.due
    have first := sown.plannedStart
    have last := sown.plannedEnd
    simp only [StartRequest.seed, found, Option.bind_some, seedDeadline] at due first last
    refine ⟨first, last, fun time given => ?_⟩
    rw [Option.mem_def.mp given] at due
    exact (Except.ok.inj due).symm
  unplanned none item member := by
    obtain ⟨_, sown⟩ := grouped_own grouped item member
    have absent : request.plan? task.id = .none :=
      List.find?_eq_none.mpr fun plan listed => by simpa using none plan listed
    exact ⟨by rw [sown.plannedStart, StartRequest.seed, absent]; rfl,
      by rw [sown.plannedEnd, StartRequest.seed, absent]; rfl⟩
  opened item member := by
    obtain ⟨_, sown⟩ := grouped_own grouped item member
    obtain ⟨templates, opened⟩ := begun_opened begun
    rw [← templates] at distinct known
    exact first_status distinct known sown.own (opened item (among member))
  sized := by
    rw [← grouped.length_eq]
    exact StartRequest.holders_length begun.accepted who task.id

theorem assigned_once_iff (begun : Begun engine request world template started later)
    (answers : ∀ id, engine.directory.answer id = .ok (who id))
    (distinct : (template.tasks.map TaskTemplate.id).Nodup) :
    started.run.AssignedOnce ↔ ∀ task ∈ template.tasks,
      (((request.requested task.id).filterMap who).map User.id).Nodup := by
  obtain ⟨groups, whole, each⟩ := begun_groups begun answers distinct
  rw [Run.AssignedOnce, whole, List.pairwise_flatten]
  constructor
  · intro ⟨within, _⟩ task known
    obtain ⟨group, listed, grouped⟩ := pointwise_forth each task known
    rw [← holders_once_iff, ← held_ids (grouped_held grouped), List.pairwise_map]
    refine (within group listed).imp_of_mem fun {a b} first second once same => once ?_ same
    obtain ⟨_, own⟩ := grouped_own grouped a first
    obtain ⟨_, others⟩ := grouped_own grouped b second
    exact own.own.trans others.own.symm
  · intro once
    refine ⟨fun group listed => ?_, (groups_apart each distinct).imp ?_⟩
    · obtain ⟨task, known, grouped⟩ := pointwise_back each group listed
      have apart := (holders_once_iff task.id).mpr (once task known)
      rw [← held_ids (grouped_held grouped), List.pairwise_map] at apart
      exact apart.imp fun same _ equal => same equal
    · exact fun apart a first b second same => absurd same (apart a first b second)

-- It depends on whether two ids that are asked for one task stand for the same user.
theorem assigned_once_spelled (begun : Begun engine request world template started later)
    (answers : ∀ id, engine.directory.answer id = .ok (who id))
    (distinct : (template.tasks.map TaskTemplate.id).Nodup) :
    started.run.AssignedOnce ↔ ∀ first ∈ request.taskAssignees, ∀ second ∈ request.taskAssignees,
      first.taskTemplateId = second.taskTemplateId →
        ∀ a ∈ who first.assigneeId, ∀ b ∈ who second.assigneeId, a.id = b.id →
          first.assigneeId = second.assigneeId := by
  rw [assigned_once_iff begun answers distinct]
  constructor
  · intro once ⟨task, first⟩ listed ⟨other, second⟩ again same
    have assigned := (StartRequest.check_parts begun.accepted).1
    obtain ⟨known, member, own⟩ :=
      StartRequest.check_assignments_known [] _ assigned ⟨task, first⟩ listed
    have apart := (request.spelled_once_iff who known.id).mp (once known member)
    simp only [request.mem_requested] at apart
    cases same
    exact apart first (own ▸ listed) second (own ▸ again)
  · intro apart task _
    refine (request.spelled_once_iff who task.id).mpr fun first listed second again => ?_
    rw [request.mem_requested] at listed again
    exact apart _ listed _ again rfl

end Starts

theorem fan_out_exact {σ : Type} (engine : Engine σ) (request : StartRequest)
    (world found later : World σ) (template : Template) (started : Started)
    (who : String → Option User)
    (held : engine.perform (.template request.templateId) world = (.ok (.template template), found))
    (sound : check template.tasks = .ok ())
    (begun : engine.perform (.start request) world = (.ok (.started started), later))
    (answers : ∀ id, engine.directory.answer id = .ok (who id)) :
    (∃ groups, started.run.tasks = groups.flatten ∧
      List.Forall₂ (request.Staffs who engine.config.maxFanOut) template.tasks groups) ∧
    started.warnings = template.tasks.flatMap (fun task => request.unknown who task.id) ∧
    later.published = world.published ++ engine.sink.recorded
      ((started.run.tasks.filter (·.status = .ready)).map Event.ready) := by
  have begun := performed_begun held begun
  have distinct := ((check_ok_iff template.tasks).mp sound).distinct
  obtain ⟨groups, whole, each⟩ := begun_groups begun answers distinct
  refine ⟨⟨groups, whole, (pointwise_members each).imp fun task group related => ?_⟩,
    begun_warnings begun answers, begun_told begun⟩
  obtain ⟨known, listed, grouped⟩ := related
  refine begun_staffs begun distinct known (fun item member => ?_) grouped
  exact whole ▸ List.mem_flatten_of_mem listed member

def releaseTemplate : Template :=
  (chainDraft "a").template (chainGraph "a") (chainTasks "a" ["a"]) ⟨0⟩ .epoch .epoch

def reviewed (directory : Directory) : Engine Shelf := { numbered.shelved with directory }

def reviewRequest (first second : List String) : StartRequest where
  templateId := ⟨0⟩
  title := "Run"
  startedById := "owner"
  taskAssignees := (first.map fun id => ⟨"a", id⟩) ++ second.map fun id => ⟨"c", id⟩
  taskPlans := [{ taskTemplateId := "c", plannedEndAt := some .epoch }]

def reviewTask (number : Nat) (templateId : String) (status : TaskStatus) (user : Option User)
    (plannedEndAt : Option Instant) : Task where
  id := ⟨BitVec.ofNat 128 number⟩
  processId := ⟨1⟩
  templateId
  name := templateId
  taskType := .plain
  status
  assigneeId := user.map User.id
  assigneeName := user.map User.name
  plannedEndAt

def reviewRun (first second third : Option User) : Run where
  process := releaseRun.process
  tasks := [reviewTask 2 "a" .ready first none, reviewTask 3 "a" .ready second none,
    reviewTask 4 "c" .waiting third (some .epoch)]
  templates := releaseRun.templates

theorem review_held (directory : Directory) :
    (reviewed directory).perform (.template ⟨0⟩) releaseSaved =
      (.ok (.template releaseTemplate), releaseSaved) := by
  cbv

theorem review_sound : check releaseTemplate.tasks = .ok () := by cbv

def lee : User := { id := "lee", name := "Lee" }

def namesake (id : String) : User := { id, name := id }

def kim : User := { id := "kim", name := "Kim" }

theorem fan_out_exact_review :
    ∃ later, (reviewed (.listed [lee, kim])).perform
        (.start (reviewRequest ["lee", "max", "kim", "lee"] ["lee"])) releaseSaved =
          (.ok (.started ⟨reviewRun lee kim lee, [⟨"a", "max"⟩]⟩), later) ∧
      ∃ groups, (reviewRun lee kim lee).tasks = groups.flatten ∧
        List.Forall₂ ((reviewRequest ["lee", "max", "kim", "lee"] ["lee"]).Staffs
          (Directory.find? [lee, kim]) 64) releaseTemplate.tasks groups := by
  have begun : ((reviewed (.listed [lee, kim])).perform
      (.start (reviewRequest ["lee", "max", "kim", "lee"] ["lee"])) releaseSaved).1 =
        .ok (.started ⟨reviewRun lee kim lee, [⟨"a", "max"⟩]⟩) := by cbv
  obtain ⟨groups, -, -⟩ := fan_out_exact (reviewed (.listed [lee, kim]))
    (reviewRequest ["lee", "max", "kim", "lee"] ["lee"]) releaseSaved releaseSaved _ releaseTemplate
    ⟨reviewRun lee kim lee, [⟨"a", "max"⟩]⟩ (Directory.find? [lee, kim]) (review_held _) review_sound
    (Prod.ext begun rfl) fun _ => rfl
  exact ⟨_, Prod.ext begun rfl, groups⟩

theorem assigned_once {σ : Type} (engine : Engine σ) (request : StartRequest)
    (world found later : World σ) (template : Template) (started : Started)
    (held : engine.perform (.template request.templateId) world = (.ok (.template template), found))
    (sound : check template.tasks = .ok ())
    (begun : engine.perform (.start request) world = (.ok (.started started), later)) :
    (∀ users, engine.directory = .listed users → started.run.AssignedOnce) ∧
    (engine.directory = .passthrough → (started.run.AssignedOnce ↔
      ∀ first ∈ request.taskAssignees, ∀ second ∈ request.taskAssignees,
        first.taskTemplateId = second.taskTemplateId →
          Text.trim first.assigneeId = Text.trim second.assigneeId →
            Text.trim first.assigneeId ≠ "" → first.assigneeId = second.assigneeId)) := by
  have begun := performed_begun held begun
  have distinct := ((check_ok_iff template.tasks).mp sound).distinct
  constructor
  · intro users listed
    have answers id : engine.directory.answer id = .ok (Directory.find? users id) := by
      rw [listed]
      rfl
    rw [assigned_once_spelled begun answers distinct]
    intro first _ second _ _ a found b again same
    rw [← found_key found, ← found_key again, same]
  · intro trimming
    have answers id : engine.directory.answer id = .ok (Directory.namesake? id) := by
      rw [trimming]
      rfl
    rw [assigned_once_spelled begun answers distinct]
    constructor
    · intro spelled first listed second again task same named
      have other : Text.trim second.assigneeId ≠ "" := same ▸ named
      exact spelled first listed second again task _ ((mem_namesake _ _).mpr ⟨named, rfl⟩) _
        ((mem_namesake _ _).mpr ⟨other, rfl⟩) same
    · intro spelled first listed second again task a found b other same
      obtain ⟨named, rfl⟩ := (mem_namesake _ a).mp found
      obtain ⟨-, rfl⟩ := (mem_namesake _ b).mp other
      exact spelled first listed second again task same named

theorem assigned_once_review :
    ∃ later, (reviewed .passthrough).perform (.start (reviewRequest ["lee", "kim", "lee"] []))
        releaseSaved = (.ok (.started ⟨reviewRun (namesake "lee") (namesake "kim") none, []⟩), later) ∧
      (reviewRun (namesake "lee") (namesake "kim") none).AssignedOnce := by
  have begun : ((reviewed .passthrough).perform (.start (reviewRequest ["lee", "kim", "lee"] []))
      releaseSaved).1 = .ok (.started ⟨reviewRun (namesake "lee") (namesake "kim") none, []⟩) := by cbv
  obtain ⟨-, trimming⟩ := assigned_once (reviewed .passthrough) (reviewRequest ["lee", "kim", "lee"] [])
    releaseSaved releaseSaved _ releaseTemplate ⟨reviewRun (namesake "lee") (namesake "kim") none, []⟩
    (review_held _) review_sound (Prod.ext begun rfl)
  refine ⟨_, Prod.ext begun rfl, (trimming rfl).mpr ?_⟩
  decide

-- Spelled once with a blank before it and once without, one id makes two tasks of one user.
theorem assigned_twice :
    ∃ later, (reviewed .passthrough).perform (.start (reviewRequest ["lee", " lee"] []))
        releaseSaved = (.ok (.started ⟨reviewRun (namesake "lee") (namesake "lee") none, []⟩), later) ∧
      ¬ (reviewRun (namesake "lee") (namesake "lee") none).AssignedOnce := by
  have begun : ((reviewed .passthrough).perform (.start (reviewRequest ["lee", " lee"] []))
      releaseSaved).1 = .ok (.started ⟨reviewRun (namesake "lee") (namesake "lee") none, []⟩) := by cbv
  exact ⟨_, Prod.ext begun rfl, by decide⟩

end Workflow
