import Workflow.Graph.Validation
import Workflow.Proofs.Graph.Paths

set_option autoImplicit false

namespace Workflow

theorem enqueue_keeps (unmet queue targets : List String) (x : String) (member : x ∈ queue) :
    x ∈ (enqueue unmet queue targets).2 := by
  induction targets generalizing unmet queue with
  | nil => exact member
  | cons target rest ih =>
      rw [enqueue]
      split
      · exact ih _ _ (List.mem_append_left [target] member)
      · exact ih _ _ member

theorem enqueue_moves (unmet queue targets : List String) (x : String) (waiting : x ∈ unmet) :
    x ∈ (enqueue unmet queue targets).1 ∨ x ∈ (enqueue unmet queue targets).2 := by
  induction targets generalizing unmet queue with
  | nil => exact .inl waiting
  | cons target rest ih =>
      rw [enqueue]
      split
      · by_cases same : x = target
        · exact .inr (enqueue_keeps _ _ rest x (by simp [same]))
        · exact ih _ _ ((List.mem_erase_of_ne same).mpr waiting)
      · exact ih _ _ waiting

theorem enqueue_target (unmet queue targets : List String) (x : String) (target : x ∈ targets)
    (waiting : x ∈ unmet) : x ∈ (enqueue unmet queue targets).2 := by
  induction targets generalizing unmet queue with
  | nil => simp at target
  | cons first rest ih =>
      rw [enqueue]
      by_cases same : x = first
      · subst first
        rw [if_pos waiting]
        exact enqueue_keeps _ _ rest x (by simp)
      · have later : x ∈ rest := (List.mem_cons.mp target).resolve_left same
        split
        · exact ih _ _ later ((List.mem_erase_of_ne same).mpr waiting)
        · exact ih _ _ later waiting

theorem enqueue_origin (unmet queue targets : List String) (x : String)
    (member : x ∈ (enqueue unmet queue targets).2) : x ∈ queue ∨ x ∈ targets := by
  induction targets generalizing unmet queue with
  | nil => exact .inl member
  | cons target rest ih =>
      rw [enqueue] at member
      split at member
      · have known := ih _ _ member
        simp only [List.mem_append, List.mem_cons] at known ⊢
        tauto
      · exact (ih _ _ member).imp_right (List.mem_cons_of_mem target)

theorem reach_queue (arcs : List Arc) (unmet queue : List String) (x : String)
    (member : x ∈ queue) : x ∈ reach arcs unmet queue := by
  induction unmet, queue using reach.induct arcs with
  | case1 unmet => simp at member
  | case2 unmet id queue next ih =>
      rw [reach]
      rcases List.mem_cons.mp member with same | later
      · simp [same]
      · exact List.mem_cons_of_mem id (ih (enqueue_keeps unmet queue _ x later))

theorem reach_closed (arcs : List Arc) (unmet queue : List String) (x y : String)
    (member : x ∈ reach arcs unmet queue) (drawn : (x, y) ∈ arcs) (waiting : y ∈ unmet) :
    y ∈ reach arcs unmet queue := by
  induction unmet, queue using reach.induct arcs with
  | case1 unmet => simp [reach] at member
  | case2 unmet id queue next ih =>
      rw [reach] at member ⊢
      apply List.mem_cons_of_mem id
      rcases List.mem_cons.mp member with same | later
      · have target : y ∈ successors arcs id := (mem_successors arcs id y).mpr (same ▸ drawn)
        exact reach_queue arcs next.1 next.2 y (enqueue_target unmet queue _ y target waiting)
      · rcases enqueue_moves unmet queue (successors arcs id) y waiting with still | queued
        · exact ih later still
        · exact reach_queue arcs next.1 next.2 y queued

theorem reach_sound (arcs : List Arc) (roots unmet queue : List String) (x : String)
    (rooted : ∀ id ∈ queue, Reaches arcs roots id) (member : x ∈ reach arcs unmet queue) :
    Reaches arcs roots x := by
  induction unmet, queue using reach.induct arcs with
  | case1 unmet => simp [reach] at member
  | case2 unmet id queue next ih =>
      rw [reach] at member
      rcases List.mem_cons.mp member with same | later
      · exact same ▸ rooted id (by simp)
      · refine ih ?_ later
        intro y queued
        rcases enqueue_origin unmet queue (successors arcs id) y queued with old | target
        · exact rooted y (List.mem_cons_of_mem id old)
        · exact reaches_step arcs roots id y (rooted id (by simp)) ((mem_successors arcs id y).mp target)

theorem mem_reachable (arcs : List Arc) (start x : String) :
    x ∈ reachable arcs start ↔ Reaches arcs [start] x := by
  have listed : start ∈ reachable arcs start := reach_queue arcs _ [start] start (by simp)
  constructor
  · exact reach_sound arcs [start] _ [start] x fun id member => .inl member
  · refine reaches_closed arcs [start] (· ∈ reachable arcs start) (by simpa using listed) ?_ x
    intro a b drawn inside
    by_cases same : b = start
    · exact same ▸ listed
    · apply reach_closed arcs _ [start] a b inside drawn
      rw [List.mem_erase_of_ne same, List.mem_eraseDups]
      exact List.mem_map.mpr ⟨(a, b), drawn, rfl⟩

end Workflow
