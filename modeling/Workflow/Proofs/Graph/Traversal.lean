import Mathlib.Logic.Relation
import Workflow.Graph.Stepwise
import Workflow.Proofs.Graph.VisitOrder

/-!
The visit by counters is the visit of the diagram. In a well drawn diagram it comes to an end with
all counters at zero; counters only fall and what has joined the queue only grows, so on the way no
counter is below zero and nothing has joined twice.
-/

set_option autoImplicit false

namespace Workflow

namespace Traversal

variable {arcs : List Arc} {before after : Traversal}

def Runs (arcs : List Arc) : Traversal → Traversal → Prop :=
  Relation.ReflTransGen fun before after => before.next? arcs = some after

-- Nothing comes back: a counter that was lowered stays lowered, what joined has joined.
structure Onward (before after : Traversal) : Prop where
  lowered : ∀ id, after.counter id ≤ before.counter id
  grown : before.joined <+: after.joined

theorem lower_onward (traversal : Traversal) (target : String) (rest : List String) :
    traversal.Onward (traversal.lower target rest) where
  lowered id := by
    by_cases same : id = target
    · simp only [lower, if_pos same]
      subst same
      omega
    · simp [lower, same]
  grown := by
    by_cases last : traversal.counter target - 1 = 0
    · simp [joined, lower, last]
    · simp [joined, lower, last]

theorem take_onward (traversal : Traversal) (id : String) (rest : List String)
    (first : traversal.queue = id :: rest) : traversal.Onward (traversal.take arcs id rest) where
  lowered _ := le_refl _
  grown := by simp [joined, take, first]

theorem next_onward (made : before.next? arcs = some after) : before.Onward after := by
  unfold next? at made
  cases pending : before.pending with
  | cons target rest =>
      rw [pending] at made
      cases made
      exact before.lower_onward target rest
  | nil =>
      cases queue : before.queue with
      | nil => simp [pending, queue] at made
      | cons id rest =>
          rw [pending, queue] at made
          cases made
          exact before.take_onward id rest queue

theorem runs_onward (runs : Runs arcs before after) : before.Onward after := by
  induction runs with
  | refl => exact ⟨fun _ => le_refl _, List.prefix_refl _⟩
  | tail _ made ih =>
      have later := next_onward made
      exact ⟨fun id => (later.lowered id).trans (ih.lowered id), ih.grown.trans later.grown⟩

-- Each state has one next state at most, so what is reached lies on the way to the end.
theorem runs_to_end (start last state : Traversal) (whole : Runs arcs start last)
    (ended : last.next? arcs = none) (runs : Runs arcs start state) : Runs arcs state last := by
  have single : Relator.RightUnique fun before after : Traversal => before.next? arcs = some after := by
    intro traversal one other first second
    exact Option.some.inj (first.symm.trans second)
  rcases Relation.ReflTransGen.total_of_right_unique single runs whole with ahead | behind
  · exact ahead
  · cases behind using Relation.ReflTransGen.head_induction_on with
    | refl => exact .refl
    | head made _ =>
        rw [ended] at made
        cases made

end Traversal

namespace Graph

open Traversal

variable {graph : Graph} {arcs drawn : List Arc} {roots done queue : List String}

def entries (drawn : List Arc) (id : String) : Int := (sources drawn id).length

theorem entries_erase (drawn : List Arc) (x y id : String) (member : (x, y) ∈ drawn) :
    entries (drawn.erase (x, y)) id = if id = y then entries drawn y - 1 else entries drawn id := by
  have same := ((List.perm_cons_erase member).filter (·.2 = id)).length_eq
  by_cases into : id = y
  · subst into
    simp [entries, sources, same]
  · simp [entries, sources, same, into, Ne.symm into]

theorem entries_zero_iff (drawn : List Arc) (id : String) :
    entries drawn id = 0 ↔ id ∉ drawn.map (·.2) := by
  simp only [entries, sources, List.length_map, Int.natCast_eq_zero, List.length_eq_zero_iff,
    List.filter_eq_nil_iff, decide_eq_true_eq, List.mem_map, not_exists, not_and]

-- To follow the arcs out of an id is to lower the counters of its targets.
theorem settle_runs (id : String) (drawn : List Arc) (queue targets taken : List String)
    (here : successors drawn id = targets) :
    Runs arcs ⟨entries drawn, queue, targets, taken⟩
      ⟨entries (settle id drawn queue targets).1, (settle id drawn queue targets).2, [], taken⟩ := by
  induction targets generalizing drawn queue with
  | nil => exact .refl
  | cons target rest ih =>
      have member : (id, target) ∈ drawn := (mem_successors drawn id target).mp (by simp [here])
      have later := ih (drawn.erase (id, target))
        (if target ∈ (drawn.erase (id, target)).map (·.2) then queue else queue ++ [target])
        (successors_erase id target drawn rest here).1
      have lowered : entries (drawn.erase (id, target)) =
          fun x => if x = target then entries drawn target - 1 else entries drawn x :=
        funext fun x => entries_erase drawn id target x member
      have last := entries_zero_iff (drawn.erase (id, target)) target
      rw [entries_erase drawn id target target member, if_pos rfl] at last
      rw [settle, if_pos member]
      refine .head ?_ later
      simp only [next?, lower, lowered, last, ite_not]

theorem visit_runs (visiting : Visiting arcs roots done drawn queue) :
    ∃ left, Visiting arcs roots (done ++ visit drawn queue) left [] ∧
      Runs arcs ⟨entries drawn, queue, [], done⟩ ⟨entries left, [], [], done ++ visit drawn queue⟩ := by
  induction drawn, queue using visit.induct generalizing done with
  | case1 drawn =>
      rw [visit, List.append_nil]
      exact ⟨drawn, visiting, .refl⟩
  | case2 drawn id queue next =>
      rename_i ih
      have same : successors arcs id = successors drawn id := by
        rw [visiting.left, successors, successors, List.filter_filter]
        congr 1
        refine List.filter_congr fun arc _ => ?_
        by_cases own : arc.1 = id
        · simp [own, visiting.unvisited]
        · simp [own]
      obtain ⟨left, visited, runs⟩ := ih visiting.step
      rw [visit, List.append_cons]
      refine ⟨left, visited, .head ?_ ((settle_runs id drawn queue _ (done ++ [id]) rfl).trans runs)⟩
      simp only [next?, take, same]

theorem visit_ends (drawn : WellDrawn graph) :
    Runs graph.arcs graph.outset ⟨fun _ => 0, [], [], graph.visitOrder⟩ := by
  obtain ⟨left, visited, runs⟩ := visit_runs (visiting_start drawn)
  rw [List.nil_append] at visited runs
  have none : left = [] := by
    rw [visited.left]
    refine List.filter_eq_nil_iff.mpr fun arc member unvisited => ?_
    exact of_decide_eq_true unvisited
      ((mem_visit_order drawn arc.1).mpr (known_source drawn arc.1 arc.2 member))
  rw [none] at runs
  exact runs

structure Counted (graph : Graph) : Prop where
  never : ∀ state, Runs graph.arcs graph.outset state → ∀ id, 0 ≤ state.counter id
  once : ∀ state, Runs graph.arcs graph.outset state → state.joined.Nodup
  ends : ∃ last, Runs graph.arcs graph.outset last ∧ last.next? graph.arcs = none ∧
    (∀ id, last.counter id = 0) ∧ last.joined.Perm graph.ids ∧ last.taken = graph.visitOrder

theorem well_drawn_counted (drawn : WellDrawn graph) : graph.Counted := by
  have ends := visit_ends drawn
  have once := visit_order_nodup drawn
  have onward (state : Traversal) (runs : Runs graph.arcs graph.outset state) :=
    runs_onward (runs_to_end _ _ state ends rfl runs)
  refine ⟨fun state runs id => (onward state runs).lowered id, fun state runs => ?_, ?_⟩
  · have grown : state.joined <+: graph.visitOrder := by simpa [joined] using (onward state runs).grown
    exact once.sublist grown.sublist
  · refine ⟨_, ends, rfl, fun _ => rfl, ?_, rfl⟩
    rw [joined, List.append_nil]
    exact (List.perm_ext_iff_of_nodup once drawn.distinctNodes).mpr (mem_visit_order drawn)

end Graph

end Workflow
