import Workflow.Process.Staffing
import Workflow.Proofs.Graph.Violations
import Workflow.Proofs.Process.Launch

set_option autoImplicit false

namespace Workflow

namespace StartRequest

def holders (request : StartRequest) (who : String → Option User) (task : String) :
    List (Option User) :=
  match (request.requested task).filterMap who with
  | [] => [none]
  | users => users.map some

def unknown (request : StartRequest) (who : String → Option User) (task : String) : List Warning :=
  ((request.requested task).filter fun id => (who id).isNone).map fun id => ⟨task, id⟩

section Requests

variable {request : StartRequest} {template : Template} {limit : Nat}

theorem mem_requested (request : StartRequest) (task id : String) :
    id ∈ request.requested task ↔ ⟨task, id⟩ ∈ request.taskAssignees := by
  simp only [requested, List.mem_eraseDups, List.mem_map, List.mem_filter, decide_eq_true_eq]
  constructor
  · rintro ⟨⟨_, _⟩, ⟨listed, rfl⟩, rfl⟩
    exact listed
  · intro listed
    exact ⟨⟨task, id⟩, ⟨listed, rfl⟩, rfl⟩

theorem check_assignments_cons (named : List String) (first : Assignment) (rest : List Assignment)
    (accepted : checkAssignments template limit named (first :: rest) = .ok ()) :
    (∃ task, template.task? first.taskTemplateId = some task) ∧
      named.count first.taskTemplateId < limit ∧
        checkAssignments template limit (first.taskTemplateId :: named) rest = .ok () := by
  dsimp only [checkAssignments] at accepted
  by_cases absent : (template.task? first.taskTemplateId).isNone = true
  · rw [if_pos absent] at accepted
    cases accepted
  by_cases full : limit < named.count first.taskTemplateId + 1
  · rw [if_neg absent, if_pos full] at accepted
    cases accepted
  rw [if_neg absent, if_neg full] at accepted
  have known := Option.ne_none_iff_exists'.mp (mt Option.isNone_iff_eq_none.mpr absent)
  exact ⟨known, Nat.not_lt.mp full, accepted⟩

theorem check_assignments_count (named : List String) (assignments : List Assignment)
    (accepted : checkAssignments template limit named assignments = .ok ()) (task : String)
    (mentioned : task ∈ assignments.map Assignment.taskTemplateId) :
    named.count task + (assignments.map Assignment.taskTemplateId).count task ≤ limit := by
  induction assignments generalizing named with
  | nil => simp at mentioned
  | cons first rest ih =>
      obtain ⟨_, free, accepted⟩ := check_assignments_cons named first rest accepted
      have later := ih (first.taskTemplateId :: named) accepted
      rw [List.map_cons, List.count_cons]
      rw [List.count_cons] at later
      by_cases again : task ∈ rest.map Assignment.taskTemplateId
      · have bound := later again
        omega
      · have only : first.taskTemplateId = task := by
          simpa [again, eq_comm] using mentioned
        rw [List.count_eq_zero.mpr again, only]
        rw [only] at free
        simp only [beq_self_eq_true, if_true]
        omega

theorem check_assignments_known (named : List String) (assignments : List Assignment)
    (accepted : checkAssignments template limit named assignments = .ok ()) (assignment : Assignment)
    (listed : assignment ∈ assignments) :
    ∃ task ∈ template.tasks, task.id = assignment.taskTemplateId := by
  induction assignments generalizing named with
  | nil => simp at listed
  | cons first rest ih =>
      obtain ⟨⟨task, found⟩, _, accepted⟩ := check_assignments_cons named first rest accepted
      rcases List.mem_cons.mp listed with rfl | later
      · exact ⟨task, List.mem_of_find?_eq_some found, found_key found⟩
      · exact ih _ accepted later

theorem check_parts (accepted : request.check template limit = .ok ()) :
    checkAssignments template limit [] request.taskAssignees = .ok () ∧
      checkPlans template [] request.taskPlans = .ok () := by
  unfold check at accepted
  split at accepted
  · cases accepted
  · obtain ⟨_, assigned, planned⟩ := (bind_ok_iff _ _ _).mp accepted
    exact ⟨assigned, planned⟩

theorem requested_length (accepted : request.check template limit = .ok ()) (task : String) :
    (request.requested task).length ≤ limit := by
  by_cases mentioned : task ∈ request.taskAssignees.map Assignment.taskTemplateId
  · have bound := check_assignments_count [] _ (check_parts accepted).1 task mentioned
    have mentions : (request.requested task).length ≤
        ((request.taskAssignees.filter (·.taskTemplateId = task)).map Assignment.assigneeId).length :=
      ((erase_dups_nodup _).subperm fun id => List.mem_eraseDups.mp).length_le
    rw [List.length_map, ← List.countP_eq_length_filter] at mentions
    rw [List.count_nil, List.count, List.countP_map] at bound
    have same : (request.taskAssignees.countP fun item => decide (item.taskTemplateId = task)) =
        request.taskAssignees.countP ((· == task) ∘ Assignment.taskTemplateId) :=
      List.countP_congr fun item _ => by simp
    omega
  · have none : request.requested task = [] := by
      refine List.eq_nil_iff_forall_not_mem.mpr fun id member => mentioned ?_
      exact List.mem_map_of_mem ((mem_requested request task id).mp member)
    simp [none]

theorem check_plans_once (named : List String) (plans : List Plan)
    (accepted : checkPlans template named plans = .ok ()) :
    (plans.map Plan.taskTemplateId).Nodup := by
  suffices apart : (plans.map Plan.taskTemplateId).Nodup ∧
      ∀ task ∈ plans.map Plan.taskTemplateId, task ∉ named from apart.1
  induction plans generalizing named with
  | nil => simp
  | cons first rest ih =>
      dsimp only [checkPlans] at accepted
      by_cases absent : (template.task? first.taskTemplateId).isNone = true
      · rw [if_pos absent] at accepted
        cases accepted
      by_cases twice : first.taskTemplateId ∈ named
      · rw [if_neg absent, if_pos twice] at accepted
        cases accepted
      rw [if_neg absent, if_neg twice] at accepted
      obtain ⟨once, fresh⟩ := ih (first.taskTemplateId :: named) accepted
      rw [List.map_cons, List.nodup_cons, List.forall_mem_cons]
      refine ⟨⟨fun again => fresh _ again List.mem_cons_self, once⟩, twice, fun task later => ?_⟩
      exact fun before => fresh task later (List.mem_cons_of_mem _ before)

theorem plan_own (accepted : request.check template limit = .ok ()) (plan : Plan)
    (listed : plan ∈ request.taskPlans) : request.plan? plan.taskTemplateId = some plan :=
  find_key Plan.taskTemplateId request.taskPlans plan
    (check_plans_once [] _ (check_parts accepted).2) listed

theorem holders_length (accepted : request.check template limit = .ok ())
    (who : String → Option User) (task : String) :
    1 ≤ (request.holders who task).length ∧ (request.holders who task).length ≤ max 1 limit := by
  have bound := List.length_filterMap_le who (request.requested task)
  have mentions := requested_length accepted task
  unfold holders
  cases users : (request.requested task).filterMap who with
  | nil => simp
  | cons first rest =>
      rw [users] at bound
      rw [List.length_map, List.length_cons] at *
      omega

end Requests

section Answers

variable {request : StartRequest} {directory : Directory} {who : String → Option User}
  (answers : ∀ id, directory.answer id = .ok (who id))
include answers

theorem resolve_all_answers (ids : List String) :
    directory.resolveAll ids = .ok (ids.filterMap who, ids.filter fun id => (who id).isNone) := by
  induction ids with
  | nil => rfl
  | cons id rest ih =>
      rw [Directory.resolveAll, Directory.resolve, answers, ih]
      cases known : who id with
      | none =>
          rw [List.filterMap_cons_none known, List.filter_cons_of_pos (by simp [known])]
          rfl
      | some user =>
          rw [List.filterMap_cons_some known, List.filter_cons_of_neg (by simp [known])]
          rfl

theorem staff_task_answers (task : String) :
    request.staffTask directory task =
      .ok ((request.holders who task).map (request.seed task), request.unknown who task) := by
  rw [staffTask, resolve_all_answers answers, holders, unknown]
  cases (request.requested task).filterMap who with
  | nil => rfl
  | cons first rest =>
      rw [List.map_map]
      rfl

theorem staff_answers (templates : List TaskTemplate) :
    request.staff directory templates =
      .ok (templates.flatMap fun template =>
          (request.holders who template.id).map (request.seed template.id),
        templates.flatMap fun template => request.unknown who template.id) := by
  induction templates with
  | nil => rfl
  | cons first rest ih =>
      rw [staff, staff_task_answers answers, ih]
      rfl

end Answers

section Seeds

variable {request : StartRequest} {directory : Directory} {templates : List TaskTemplate}
  {seeds : List Seed} {warnings : List Warning}

theorem staff_task_seeds {task : String}
    (staffed : request.staffTask directory task = .ok (seeds, warnings)) :
    seeds ≠ [] ∧ ∀ seed ∈ seeds, ∃ assignee, seed = request.seed task assignee := by
  obtain ⟨⟨users, unknown⟩, _, same⟩ := (bind_ok_iff _ _ _).mp staffed
  cases same
  cases users with
  | nil => simp
  | cons first rest =>
      refine ⟨by simp, fun seed member => ?_⟩
      obtain ⟨user, _, rfl⟩ := List.mem_map.mp member
      exact ⟨some user, rfl⟩

theorem staff_seeds (staffed : request.staff directory templates = .ok (seeds, warnings)) :
    (∀ template ∈ templates, ∃ seed ∈ seeds, seed.templateId = template.id) ∧
      ∀ seed ∈ seeds, ∃ assignee, seed = request.seed seed.templateId assignee := by
  induction templates generalizing seeds warnings with
  | nil =>
      cases staffed
      simp
  | cons first rest ih =>
      obtain ⟨⟨own, _⟩, here, staffed⟩ := (bind_ok_iff _ _ _).mp staffed
      obtain ⟨⟨others, _⟩, later, same⟩ := (bind_ok_iff _ _ _).mp staffed
      cases same
      obtain ⟨some, made⟩ := staff_task_seeds here
      obtain ⟨each, kept⟩ := ih later
      refine ⟨List.forall_mem_cons.mpr ⟨?_, fun template member => ?_⟩,
        List.forall_mem_append.mpr ⟨fun seed member => ?_, kept⟩⟩
      · obtain ⟨seed, member⟩ := List.exists_mem_of_ne_nil _ some
        obtain ⟨assignee, rfl⟩ := made seed member
        exact ⟨_, List.mem_append_left _ member, rfl⟩
      · obtain ⟨seed, member, named⟩ := each template member
        exact ⟨seed, List.mem_append_right _ member, named⟩
      · obtain ⟨assignee, rfl⟩ := made seed member
        exact ⟨assignee, rfl⟩

theorem seeds_of_staffed (staffed : request.staff directory templates = .ok (seeds, warnings))
    (template : TaskTemplate) (member : template ∈ templates) :
    seedsOf seeds template ≠ [] ∧
      ∀ seed ∈ seedsOf seeds template, ∃ assignee, seed = request.seed template.id assignee := by
  obtain ⟨each, made⟩ := staff_seeds staffed
  obtain ⟨seed, among, named⟩ := each template member
  have own : seedsOf seeds template = seeds.filter (·.templateId = template.id) := by
    have some : seed ∈ seeds.filter (·.templateId = template.id) :=
      List.mem_filter.mpr ⟨among, decide_eq_true named⟩
    unfold seedsOf
    split
    · next none => simp [none] at some
    · rfl
  rw [own]
  refine ⟨List.ne_nil_of_mem (List.mem_filter.mpr ⟨among, decide_eq_true named⟩), ?_⟩
  intro other listed
  obtain ⟨among, named⟩ := List.mem_filter.mp listed
  obtain ⟨assignee, same⟩ := made other among
  exact ⟨assignee, of_decide_eq_true named ▸ same⟩

theorem seeds_of_own (made : TaskTemplate → List Seed)
    (named : ∀ template, ∀ seed ∈ made template, seed.templateId = template.id)
    (staffed : ∀ template, made template ≠ []) (distinct : (templates.map TaskTemplate.id).Nodup)
    (template : TaskTemplate) (member : template ∈ templates) :
    seedsOf (templates.flatMap made) template = made template := by
  have own : (templates.flatMap made).filter (·.templateId = template.id) = made template := by
    obtain ⟨before, after, rfl⟩ := List.append_of_mem member
    rw [List.map_append, List.map_cons, List.nodup_middle, List.nodup_cons,
      ← List.map_append] at distinct
    have apart (others : List TaskTemplate) (within : others ⊆ before ++ after) :
        (others.flatMap made).filter (·.templateId = template.id) = [] := by
      refine List.filter_eq_nil_iff.mpr fun seed listed same => distinct.1 ?_
      obtain ⟨other, among, planted⟩ := List.mem_flatMap.mp listed
      have id : other.id = template.id := (named other seed planted).symm.trans (of_decide_eq_true same)
      exact id ▸ List.mem_map_of_mem (within among)
    rw [List.flatMap_append, List.flatMap_cons, List.filter_append, List.filter_append,
      apart before (List.subset_append_left _ _), apart after (List.subset_append_right _ _),
      List.filter_eq_self.mpr fun seed planted => decide_eq_true (named template seed planted)]
    simp
  unfold seedsOf
  rw [own]
  split
  · next none => exact absurd none (staffed template)
  · rfl

end Seeds

end StartRequest

structure Task.HeldBy (holder : Option User) (task : Task) : Prop where
  id : task.assigneeId = holder.map User.id
  name : task.assigneeName = holder.map User.name
  organization : task.organization = holder.bind User.organization

structure Task.Sown (start : Instant) (template : TaskTemplate) (seed : Seed) (task : Task) : Prop where
  own : task.templateId = template.id
  held : task.HeldBy seed.assignee
  plannedStart : task.plannedStartAt = seed.plannedStartAt
  plannedEnd : task.plannedEndAt = seed.plannedEndAt
  due : seedDeadline start template seed = .ok task.deadlineAt

theorem plant_sown {process : Process} {id : Uuid} {template : TaskTemplate} {seed : Seed} {task : Task}
    (planted : plant process id template seed = .ok task) (status : TaskStatus) :
    Task.Sown process.startAt template seed { task with status } := by
  obtain ⟨deadlineAt, due, same⟩ := (bind_ok_iff _ _ _).mp planted
  cases same
  exact ⟨rfl, ⟨rfl, rfl, rfl⟩, rfl, rfl, due⟩

namespace Run

variable {process : Process} {templates : List TaskTemplate} {seeds : List Seed} {ids : Nat → Uuid}
  {run : Run} {events : List Event}

theorem launch_groups (launched : launch process templates seeds ids = .ok (run, events)) :
    ∃ groups, run.tasks = groups.flatten ∧
      List.Forall₂ (fun template group =>
        List.Forall₂ (Task.Sown process.startAt template) (seedsOf seeds template) group)
        templates groups := by
  obtain ⟨tasks, planted, same⟩ := launch_planted launched
  have sown : List.Forall₂ (fun planting => Task.Sown process.startAt planting.1 planting.2)
      (plantings templates seeds) run.tasks := by
    rw [← congrArg (fun opened => opened.1.tasks) same, opened, List.forall₂_map_right_iff]
    refine (plant_all_pointwise process ids 0 _ tasks planted).imp fun planting task found => ?_
    obtain ⟨id, found⟩ := found
    exact plant_sown found _
  obtain ⟨groups, whole, each⟩ := pointwise_groups _ templates _ sown
  refine ⟨groups, whole, each.imp fun template group related => ?_⟩
  simpa only [List.forall₂_map_left_iff] using related

theorem launch_told (launched : launch process templates seeds ids = .ok (run, events)) :
    events = (run.tasks.filter (·.status = .ready)).map Event.ready := by
  obtain ⟨tasks, _, same⟩ := launch_planted launched
  cases same
  rfl

end Run

end Workflow
