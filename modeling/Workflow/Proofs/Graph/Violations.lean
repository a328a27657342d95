import Mathlib.Data.List.Count
import Mathlib.Data.List.Nodup
import Workflow.Graph.Validation
import Workflow.Proofs.Basic
import Workflow.Proofs.Graph.CycleSearch
import Workflow.Proofs.Graph.Reachability

set_option autoImplicit false

namespace Workflow

inductive Rule where
  | nodes
  | edges
  | starts
  | ends
  | branches
  | cycles
  | reach
  | offsets
deriving DecidableEq, Repr

def Violation.rule : Violation → Rule
  | .repeatedNode _ => .nodes
  | .repeatedEdge _ => .edges
  | .noStart => .starts
  | .manyStarts _ => .starts
  | .dangling _ _ _ => .ends
  | .noBranch _ => .branches
  | .cycle _ => .cycles
  | .unreachable _ => .reach
  | .farDeadline _ _ => .offsets

def Edge.tip (edge : Edge) : Side → String
  | .source => edge.source
  | .target => edge.target

theorem count_flat_map {α : Type} (items : List α) (reports : α → List Violation)
    (violation : Violation) (holds : α → Bool)
    (each : ∀ item, (reports item).count violation = if holds item then 1 else 0) :
    (items.flatMap reports).count violation = items.countP holds := by
  induction items with
  | nil => rfl
  | cons item rest ih =>
      rw [List.flatMap_cons, List.count_append, ih, each, List.countP_cons, Nat.add_comm]

theorem count_repeats_after (seen ids : List String) (id : String) :
    (repeatsAfter seen ids).count id = if id ∈ seen then ids.count id else ids.count id - 1 := by
  induction ids generalizing seen with
  | nil => simp [repeatsAfter]
  | cons first rest ih =>
      rw [repeatsAfter]
      by_cases same : first = id
      · subst first
        by_cases met : id ∈ seen
        · rw [if_pos met, List.count_cons_self, ih, if_pos met, if_pos met, List.count_cons_self]
        · rw [if_neg met, ih, if_pos List.mem_cons_self, if_neg met, List.count_cons_self]
          omega
      · have other : id ∈ first :: seen ↔ id ∈ seen := by
          simp [Ne.symm same]
        rw [List.count_cons_of_ne same]
        split
        · rw [List.count_cons_of_ne same, ih]
        · rw [ih]
          simp only [other]

theorem count_repeats (ids : List String) (id : String) :
    (repeats ids).count id = ids.count id - 1 := by
  rw [repeats, count_repeats_after]
  simp

theorem of_offset_rule (id : String) (offset : Option Nat) (violation : Violation)
    (member : violation ∈ Violation.ofOffset id offset) : violation.rule = .offsets := by
  cases offset with
  | none => simp [Violation.ofOffset] at member
  | some days =>
      by_cases far : maxDeadlineOffset < days
      · rw [Violation.ofOffset, if_pos far, List.mem_singleton] at member
        rw [member]
        rfl
      · simp [Violation.ofOffset, far] at member

theorem count_of_offset (own : String) (offset : Option Nat) (id : String) (days : Nat) :
    (Violation.ofOffset own offset).count (.farDeadline id days) =
      if decide (own = id ∧ offset = some days ∧ maxDeadlineOffset < days) then 1 else 0 := by
  cases offset with
  | none => simp [Violation.ofOffset]
  | some given =>
      by_cases same : given = days
      · by_cases far : maxDeadlineOffset < days
        · simp [Violation.ofOffset, same, far, List.count_singleton]
        · simp [Violation.ofOffset, same, far]
      · by_cases far : maxDeadlineOffset < given
        · simp [Violation.ofOffset, same, far]
        · simp [Violation.ofOffset, same, far]

namespace Graph

def breaches (graph : Graph) : Rule → List Violation
  | .nodes => (repeats graph.ids).map .repeatedNode
  | .edges => (repeats (graph.edges.map Edge.id)).map .repeatedEdge
  | .starts => graph.startViolations
  | .ends => graph.edges.flatMap graph.danglingEnds
  | .branches => graph.branchViolations
  | .cycles => (findCycles graph.ids graph.soundArcs).map .cycle
  | .reach => graph.unreachable.map .unreachable
  | .offsets => graph.nodes.flatMap fun node => Violation.ofOffset node.id node.deadlineOffsetDays

variable (graph : Graph)

theorem start_violations_rule (violation : Violation) (member : violation ∈ graph.startViolations) :
    violation.rule = .starts := by
  unfold startViolations at member
  split at member
  · rw [List.mem_singleton.mp member]
    rfl
  · simp at member
  · rw [List.mem_singleton.mp member]
    rfl

theorem dangling_ends_rule (edge : Edge) (violation : Violation)
    (member : violation ∈ graph.danglingEnds edge) : violation.rule = .ends := by
  unfold danglingEnds at member
  rcases List.mem_append.mp member with source | target
  · split at source
    · simp at source
    · rw [List.mem_singleton.mp source]
      rfl
  · split at target
    · simp at target
    · rw [List.mem_singleton.mp target]
      rfl

theorem breaches_rule (rule : Rule) (violation : Violation)
    (member : violation ∈ graph.breaches rule) : violation.rule = rule := by
  cases rule with
  | nodes =>
      obtain ⟨id, _, rfl⟩ := List.mem_map.mp member
      rfl
  | edges =>
      obtain ⟨id, _, rfl⟩ := List.mem_map.mp member
      rfl
  | starts => exact graph.start_violations_rule violation member
  | ends =>
      obtain ⟨edge, _, here⟩ := List.mem_flatMap.mp member
      exact graph.dangling_ends_rule edge violation here
  | branches =>
      obtain ⟨node, _, rfl⟩ := List.mem_map.mp member
      rfl
  | cycles =>
      obtain ⟨id, _, rfl⟩ := List.mem_map.mp member
      rfl
  | reach =>
      obtain ⟨id, _, rfl⟩ := List.mem_map.mp member
      rfl
  | offsets =>
      obtain ⟨node, _, here⟩ := List.mem_flatMap.mp member
      exact of_offset_rule node.id node.deadlineOffsetDays violation here

theorem count_violations (violation : Violation) :
    graph.violations.count violation = (graph.breaches violation.rule).count violation := by
  have elsewhere (rule : Rule) (other : violation.rule ≠ rule) :
      (graph.breaches rule).count violation = 0 :=
    List.count_eq_zero.mpr fun member => other (graph.breaches_rule rule violation member)
  have parts : graph.violations = graph.breaches .nodes ++ graph.breaches .edges ++
      graph.breaches .starts ++ graph.breaches .ends ++ graph.breaches .branches ++
      graph.breaches .cycles ++ graph.breaches .reach ++ graph.breaches .offsets := rfl
  simp only [parts, List.count_append]
  cases broken : violation.rule <;> simp [elsewhere, broken]

theorem mem_violations (violation : Violation) :
    violation ∈ graph.violations ↔ violation ∈ graph.breaches violation.rule := by
  rw [← List.count_pos_iff, count_violations, List.count_pos_iff]

theorem count_repeated_node (id : String) :
    graph.violations.count (.repeatedNode id) = graph.ids.count id - 1 := by
  have injective : Function.Injective Violation.repeatedNode := fun x y same => by simpa using same
  rw [count_violations]
  exact (List.count_map_of_injective _ _ injective id).trans (count_repeats graph.ids id)

theorem count_repeated_edge (id : String) :
    graph.violations.count (.repeatedEdge id) = (graph.edges.map Edge.id).count id - 1 := by
  have injective : Function.Injective Violation.repeatedEdge := fun x y same => by simpa using same
  rw [count_violations]
  exact (List.count_map_of_injective _ _ injective id).trans (count_repeats _ id)

theorem count_no_start :
    graph.violations.count .noStart = if (graph.ofKind .start).length = 0 then 1 else 0 := by
  rw [count_violations]
  change graph.startViolations.count .noStart = _
  unfold startViolations
  generalize (graph.ofKind .start).length = starts
  match starts with
  | 0 => rfl
  | 1 => rfl
  | more + 2 => simp

theorem count_many_starts (count : Nat) :
    graph.violations.count (.manyStarts count) =
      if 2 ≤ count ∧ (graph.ofKind .start).length = count then 1 else 0 := by
  rw [count_violations]
  change graph.startViolations.count (.manyStarts count) = _
  unfold startViolations
  generalize (graph.ofKind .start).length = starts
  match starts with
  | 0 =>
      have apart : ¬ (2 ≤ count ∧ 0 = count) := by omega
      simp [apart]
  | 1 =>
      have apart : ¬ (2 ≤ count ∧ 1 = count) := by omega
      simp [apart]
  | more + 2 =>
      have several : 2 ≤ count ∧ more + 2 = count ↔ more + 2 = count := by omega
      simp only [several]
      exact List.count_singleton.trans (by simp)

def danglingEnd (edge : Edge) (side : Side) : List Violation :=
  if edge.tip side ∈ graph.ids then [] else [.dangling edge.id (edge.tip side) side]

theorem count_dangling_end (item : Edge) (here : Side) (edge node : String) (side : Side) :
    (graph.danglingEnd item here).count (.dangling edge node side) =
      if here = side ∧ item.id = edge ∧ item.tip side = node ∧ node ∉ graph.ids then 1 else 0 := by
  unfold danglingEnd
  by_cases apart : here = side
  · subst here
    by_cases same : item.tip side = node
    · by_cases known : node ∈ graph.ids
      · simp [same, known]
      · simp [same, known, List.count_singleton]
    · split <;> simp [same]
  · split <;> simp [apart]

theorem count_dangling_ends (item : Edge) (edge node : String) (side : Side) :
    (graph.danglingEnds item).count (.dangling edge node side) =
      if item.id = edge ∧ item.tip side = node ∧ node ∉ graph.ids then 1 else 0 := by
  have ends : graph.danglingEnds item =
      graph.danglingEnd item .source ++ graph.danglingEnd item .target := rfl
  rw [ends, List.count_append, count_dangling_end, count_dangling_end]
  cases side with
  | source => simp
  | target => simp

theorem count_dangling (edge node : String) (side : Side) :
    graph.violations.count (.dangling edge node side) =
      graph.edges.countP fun item => item.id = edge ∧ item.tip side = node ∧ node ∉ graph.ids := by
  rw [count_violations]
  refine count_flat_map graph.edges graph.danglingEnds _ _ fun item => ?_
  rw [count_dangling_ends]
  simp only [decide_eq_true_eq]

theorem no_successors_iff (arcs : List Arc) (id : String) :
    (successors arcs id).isEmpty = true ↔ ¬ ∃ arc ∈ arcs, arc.1 = id := by
  rw [successors, List.isEmpty_iff, List.map_eq_nil_iff, List.filter_eq_nil_iff]
  simp only [decide_eq_true_eq, not_exists, not_and]

theorem count_no_branch (id : String) :
    graph.violations.count (.noBranch id) =
      graph.nodes.countP fun node =>
        node.id = id ∧ node.kind = .exclusive ∧ ¬ ∃ arc ∈ graph.soundArcs, arc.1 = id := by
  rw [count_violations]
  change graph.branchViolations.count _ = _
  rw [branchViolations, ofKind, List.count, List.countP_map, List.countP_filter, List.countP_filter]
  apply List.countP_congr
  intro node _
  simp only [Function.comp_apply, beq_iff_eq, Violation.noBranch.injEq, Bool.and_eq_true,
    decide_eq_true_eq, no_successors_iff]
  constructor
  · rintro ⟨⟨rfl, childless⟩, exclusive⟩
    exact ⟨rfl, exclusive, childless⟩
  · rintro ⟨rfl, exclusive, childless⟩
    exact ⟨⟨rfl, childless⟩, exclusive⟩

theorem count_far_deadline (id : String) (days : Nat) :
    graph.violations.count (.farDeadline id days) =
      graph.nodes.countP fun node =>
        node.id = id ∧ node.deadlineOffsetDays = some days ∧ maxDeadlineOffset < days := by
  rw [count_violations]
  exact count_flat_map graph.nodes _ _ _ fun node => count_of_offset _ _ id days

theorem mem_cycles (id : String) :
    .cycle id ∈ graph.violations ↔ id ∈ findCycles graph.ids graph.soundArcs := by
  rw [mem_violations]
  simp [breaches, Violation.rule]

theorem count_cycle_le (id : String) : graph.violations.count (.cycle id) ≤ 1 := by
  have injective : Function.Injective Violation.cycle := fun x y same => by simpa using same
  have once := (find_cycles_nodup graph.ids graph.soundArcs).map injective
  rw [count_violations]
  exact List.nodup_iff_count_le_one.mp once _

theorem mem_sound_arcs (x y : String) :
    (x, y) ∈ graph.soundArcs ↔ (x, y) ∈ graph.arcs ∧ x ∈ graph.ids ∧ y ∈ graph.ids := by
  simp [soundArcs]

theorem mem_unreachable (id : String) :
    .unreachable id ∈ graph.violations ↔
      ∃ start, graph.ofKind .start = [start] ∧
        (∃ node ∈ graph.nodes, node.id = id ∧ node.kind ≠ .start) ∧
          ¬ Reaches graph.soundArcs [start.id] id := by
  have listed : .unreachable id ∈ graph.violations ↔ id ∈ graph.unreachable := by
    rw [mem_violations]
    simp [breaches, Violation.rule]
  rw [listed]
  unfold unreachable
  split
  · rename_i start only
    simp only [only, List.mem_eraseDups, List.mem_map, List.mem_filter, decide_eq_true_eq,
      Bool.and_eq_true, mem_reachable]
    constructor
    · rintro ⟨node, ⟨member, other, unreached⟩, rfl⟩
      exact ⟨start, rfl, ⟨node, member, rfl, other⟩, unreached⟩
    · rintro ⟨_, same, ⟨node, member, rfl, other⟩, unreached⟩
      cases same
      exact ⟨node, ⟨member, other, unreached⟩, rfl⟩
  · rename_i several
    constructor
    · simp
    · rintro ⟨start, only, _⟩
      exact absurd only (several start)

theorem count_unreachable_le (id : String) : graph.violations.count (.unreachable id) ≤ 1 := by
  have injective : Function.Injective Violation.unreachable := fun x y same => by simpa using same
  have distinct : graph.unreachable.Nodup := by
    unfold unreachable
    split
    · exact erase_dups_nodup _
    · exact List.nodup_nil
  rw [count_violations]
  exact List.nodup_iff_count_le_one.mp (distinct.map injective) _

end Graph

end Workflow
