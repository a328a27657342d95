import Workflow.Task.Check
import Workflow.Proofs.Graph.CycleSearch

set_option autoImplicit false

namespace Workflow

structure WellFormed (templates : List TaskTemplate) : Prop where
  distinct : (templates.map TaskTemplate.id).Nodup
  bounded : ∀ template ∈ templates, ∀ days ∈ template.deadlineOffsetDays, days ≤ maxDeadlineOffset
  known : ∀ template ∈ templates, template.predecessorIds ⊆ templates.map TaskTemplate.id
  once : ∀ template ∈ templates, template.predecessorIds.Nodup
  acyclic : ∀ x, ¬ OnCycle (predecessorArcs templates) x

structure Enlisted (templates : List TaskTemplate) : Prop where
  distinct : (templates.map TaskTemplate.id).Nodup
  bounded : ∀ template ∈ templates, ∀ days ∈ template.deadlineOffsetDays, days ≤ maxDeadlineOffset

structure Refers (ids : List String) (task : String) (predecessors : List String) : Prop where
  others : task ∉ predecessors
  known : predecessors ⊆ ids
  once : predecessors.Nodup

theorem mem_predecessor_arcs (templates : List TaskTemplate) (x y : String) :
    (x, y) ∈ predecessorArcs templates ↔
      ∃ template ∈ templates, template.id = y ∧ x ∈ template.predecessorIds := by
  simp only [predecessorArcs, TaskTemplate.arcs, List.mem_flatMap, List.mem_map, Prod.mk.injEq]
  constructor
  · rintro ⟨template, member, predecessor, listed, rfl, same⟩
    exact ⟨template, member, same, listed⟩
  · rintro ⟨template, member, same, listed⟩
    exact ⟨template, member, x, listed, rfl, same⟩

theorem of_offset_nil_iff (id : String) (offset : Option Nat) :
    Violation.ofOffset id offset = [] ↔ ∀ days ∈ offset, days ≤ maxDeadlineOffset := by
  cases offset with
  | none => simp [Violation.ofOffset]
  | some days => simp [Violation.ofOffset]

theorem list_violations_nil_iff (seen : List String) (templates : List TaskTemplate) :
    listViolations seen templates = [] ↔
      (∀ template ∈ templates, template.id ∉ seen) ∧ (templates.map TaskTemplate.id).Nodup ∧
        ∀ template ∈ templates, ∀ days ∈ template.deadlineOffsetDays, days ≤ maxDeadlineOffset := by
  induction templates generalizing seen with
  | nil => simp [listViolations]
  | cons template rest ih =>
      simp only [listViolations, List.append_eq_nil_iff, ih, of_offset_nil_iff, List.map_cons,
        List.nodup_cons, List.forall_mem_cons]
      by_cases repeated : template.id ∈ seen
      · simp [repeated]
      · simp only [repeated, if_false, not_false_eq_true, true_and, List.mem_cons, not_or, List.mem_map]
        constructor
        · rintro ⟨offset, apart, distinct, bounded⟩
          refine ⟨fun other member => (apart other member).2, ⟨?_, distinct⟩, offset, bounded⟩
          rintro ⟨other, member, same⟩
          exact (apart other member).1 same
        · rintro ⟨unseen, ⟨apart, distinct⟩, offset, bounded⟩
          refine ⟨offset, fun other member => ⟨?_, unseen other member⟩, distinct, bounded⟩
          exact fun same => apart ⟨other, member, same⟩

theorem enlisted_iff (templates : List TaskTemplate) :
    listViolations [] templates = [] ↔ Enlisted templates := by
  rw [list_violations_nil_iff]
  exact ⟨fun parts => ⟨parts.2.1, parts.2.2⟩,
    fun enlisted => ⟨fun _ _ => List.not_mem_nil, enlisted.distinct, enlisted.bounded⟩⟩

theorem bad_reference_none_iff (ids : List String) (task : String) (listed predecessors : List String) :
    badReference ids task listed predecessors = none ↔
      (∀ predecessor ∈ predecessors, predecessor ≠ task ∧ predecessor ∈ ids ∧ predecessor ∉ listed) ∧
        predecessors.Nodup := by
  induction predecessors generalizing listed with
  | nil => simp [badReference]
  | cons predecessor rest ih =>
      rw [badReference]
      by_cases itself : predecessor = task
      · simp [itself]
      by_cases known : predecessor ∈ ids
      · by_cases repeated : predecessor ∈ listed
        · simp [itself, known, repeated]
        · rw [if_neg itself, if_neg (not_not_intro known), if_neg repeated, ih]
          simp only [List.forall_mem_cons, List.nodup_cons]
          simp only [List.mem_cons, not_or]
          constructor
          · rintro ⟨good, once⟩
            refine ⟨⟨⟨itself, known, repeated⟩, fun other member => ?_⟩, fun again => ?_, once⟩
            · exact ⟨(good other member).1, (good other member).2.1, (good other member).2.2.2⟩
            · exact (good predecessor again).2.2.1 rfl
          · rintro ⟨⟨_, good⟩, fresh, once⟩
            refine ⟨fun other member => ?_, once⟩
            obtain ⟨apart, present, unlisted⟩ := good other member
            exact ⟨apart, present, fun same => fresh (same ▸ member), unlisted⟩
      · simp [itself, known]

theorem refers_iff {ids : List String} {task : String} (predecessors : List String) :
    badReference ids task [] predecessors = none ↔ Refers ids task predecessors := by
  rw [bad_reference_none_iff]
  constructor
  · intro good
    exact ⟨fun own => (good.1 task own).1 rfl, fun id listed => (good.1 id listed).2.1, good.2⟩
  · intro refers
    exact ⟨fun id listed => ⟨fun same => refers.others (same ▸ listed), refers.known listed,
      List.not_mem_nil⟩, refers.once⟩

theorem bad_references_none_iff (ids : List String) (templates : List TaskTemplate) :
    badReferences ids templates = none ↔
      ∀ template ∈ templates, badReference ids template.id [] template.predecessorIds = none := by
  induction templates with
  | nil => simp [badReferences]
  | cons template rest ih =>
      rw [badReferences, List.forall_mem_cons]
      cases badReference ids template.id [] template.predecessorIds with
      | none => simp [ih]
      | some bad => simp

theorem all_refer_iff {ids : List String} (templates : List TaskTemplate) :
    badReferences ids templates = none ↔
      ∀ template ∈ templates, Refers ids template.id template.predecessorIds := by
  rw [bad_references_none_iff]
  exact forall₂_congr fun template _ => refers_iff template.predecessorIds

theorem check_ok_iff_parts (templates : List TaskTemplate) :
    check templates = .ok () ↔ listViolations [] templates = [] ∧
      badReferences (templates.map TaskTemplate.id) templates = none ∧
        findCycles (templates.map TaskTemplate.id) (predecessorArcs templates) = [] := by
  dsimp only [check]
  cases listViolations [] templates with
  | cons first others => simp
  | nil =>
      cases badReferences (templates.map TaskTemplate.id) templates with
      | some error => simp
      | none =>
          cases findCycles (templates.map TaskTemplate.id) (predecessorArcs templates) <;> simp

theorem predecessor_target {templates : List TaskTemplate} {x y : String}
    (drawn : (x, y) ∈ predecessorArcs templates) : y ∈ templates.map TaskTemplate.id := by
  obtain ⟨template, member, same, _⟩ := (mem_predecessor_arcs templates x y).mp drawn
  exact List.mem_map.mpr ⟨template, member, same⟩

-- A cycle leads into each of its ids, and predecessor arcs lead to tasks of the list only.
theorem predecessor_cycles_nil_iff (templates : List TaskTemplate) :
    findCycles (templates.map TaskTemplate.id) (predecessorArcs templates) = [] ↔
      ∀ x, ¬ OnCycle (predecessorArcs templates) x := by
  rw [find_cycles_nil_iff]
  constructor
  · intro acyclic x cycle
    obtain ⟨before, drawn⟩ := cycle.enters
    exact acyclic x (.inl (predecessor_target drawn)) cycle
  · exact fun acyclic x _ => acyclic x

theorem check_ok_iff (templates : List TaskTemplate) :
    check templates = .ok () ↔ WellFormed templates := by
  rw [check_ok_iff_parts, enlisted_iff, all_refer_iff, predecessor_cycles_nil_iff]
  constructor
  · rintro ⟨enlisted, referring, acyclic⟩
    exact ⟨enlisted.distinct, enlisted.bounded,
      fun template member => (referring template member).known,
      fun template member => (referring template member).once, acyclic⟩
  · intro formed
    refine ⟨⟨formed.distinct, formed.bounded⟩, fun template member => ?_, formed.acyclic⟩
    have others : template.id ∉ template.predecessorIds := fun own =>
      formed.acyclic _ (.arc ((mem_predecessor_arcs _ _ _).mpr ⟨template, member, rfl, own⟩))
    exact ⟨others, formed.known template member, formed.once template member⟩

end Workflow
