import Mathlib.Data.List.Nodup
import Workflow.Graph.Compile
import Workflow.Proofs.Graph.Paths

set_option autoImplicit false

namespace Workflow.Graph

-- The last list holds the ids passed, in that order.
inductive Walks (graph : Graph) : List String → List String → List String → Prop where
  | done (unmet : List String) : Walks graph unmet [] []
  | pass {unmet queue passed : List String} {id : String} (waiting : id ∈ unmet)
      (rest : Walks graph (unmet.erase id) (queue ++ (graph.stop id).onward) passed) :
      Walks graph unmet (id :: queue) (id :: passed)
  | skip {unmet queue passed : List String} {id : String} (met : id ∉ unmet)
      (rest : Walks graph unmet queue passed) : Walks graph unmet (id :: queue) passed

theorem walk_back_walks (graph : Graph) (unmet queue : List String) :
    ∃ passed, Walks graph unmet queue passed ∧ graph.walkBack unmet queue =
      (passed.flatMap fun id => (graph.stop id).found, passed.any fun id => (graph.stop id).merge) := by
  induction unmet, queue using walkBack.induct graph with
  | case1 unmet =>
      rw [walkBack]
      exact ⟨[], .done unmet, rfl⟩
  | case2 unmet id queue waiting here ih =>
      obtain ⟨passed, walks, result⟩ := ih
      rw [walkBack, if_pos waiting]
      refine ⟨id :: passed, .pass waiting walks, ?_⟩
      dsimp only
      rw [List.flatMap_cons, List.any_cons, result]
  | case3 unmet id queue met ih =>
      obtain ⟨passed, walks, result⟩ := ih
      rw [walkBack, if_neg met]
      exact ⟨passed, .skip met walks, result⟩

namespace Walks

variable {graph : Graph} {unmet queue passed : List String}

theorem waiting (walks : Walks graph unmet queue passed) : passed ⊆ unmet := by
  induction walks with
  | done unmet => exact List.nil_subset unmet
  | pass waiting _ ih =>
      apply List.cons_subset.mpr
      exact ⟨waiting, fun x member => List.mem_of_mem_erase (ih member)⟩
  | skip _ _ ih => exact ih

theorem once (walks : Walks graph unmet queue passed) (distinct : unmet.Nodup) : passed.Nodup := by
  induction walks with
  | done unmet => exact List.nodup_nil
  | pass _ rest ih =>
      refine List.nodup_cons.mpr ⟨?_, ih (distinct.erase _)⟩
      intro again
      exact distinct.not_mem_erase (rest.waiting again)
  | skip _ _ ih => exact ih distinct

theorem queued (walks : Walks graph unmet queue passed) (x : String) (member : x ∈ queue)
    (waits : x ∈ unmet) : x ∈ passed := by
  induction walks with
  | done unmet => simp at member
  | @pass unmet queue passed id _ _ ih =>
      by_cases same : x = id
      · exact same ▸ List.mem_cons_self
      · have later : x ∈ queue := (List.mem_cons.mp member).resolve_left same
        apply List.mem_cons_of_mem id
        exact ih (List.mem_append_left _ later) ((List.mem_erase_of_ne same).mpr waits)
  | @skip unmet queue passed id met _ ih =>
      rcases List.mem_cons.mp member with same | later
      · exact absurd (same ▸ waits) met
      · exact ih later waits

theorem closed (walks : Walks graph unmet queue passed) (x y : String) (member : x ∈ passed)
    (onward : y ∈ (graph.stop x).onward) (waits : y ∈ unmet) : y ∈ passed := by
  induction walks with
  | done unmet => simp at member
  | @pass unmet queue passed id _ rest ih =>
      by_cases same : y = id
      · exact same ▸ List.mem_cons_self
      · have still : y ∈ unmet.erase id := (List.mem_erase_of_ne same).mpr waits
        apply List.mem_cons_of_mem id
        rcases List.mem_cons.mp member with here | later
        · exact rest.queued y (List.mem_append_right queue (here ▸ onward)) still
        · exact ih later still
  | skip _ _ ih => exact ih member waits

theorem origin (walks : Walks graph unmet queue passed) (holds : String → Prop)
    (start : ∀ id ∈ queue, holds id)
    (step : ∀ x y, holds x → y ∈ (graph.stop x).onward → holds y) (x : String)
    (member : x ∈ passed) : holds x := by
  induction walks with
  | done unmet => simp at member
  | @pass unmet queue passed id _ _ ih =>
      rcases List.mem_cons.mp member with here | later
      · exact here ▸ start id List.mem_cons_self
      · refine ih ?_ later
        intro y waits
        rcases List.mem_append.mp waits with old | onward
        · exact start y (List.mem_cons_of_mem id old)
        · exact step id y (start id List.mem_cons_self) onward
  | @skip unmet queue passed id _ _ ih =>
      exact ih (fun y old => start y (List.mem_cons_of_mem id old)) member

end Walks

end Workflow.Graph
