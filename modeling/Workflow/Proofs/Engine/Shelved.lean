import Workflow.Proofs.Engine.Origin

set_option autoImplicit false

namespace Workflow

open Engine (Setting Answer Call)

structure Shelf.Distinct (shelf : Shelf) : Prop where
  templates : (shelf.templates.map Template.id).Nodup
  runs : (shelf.runs.map Run.id).Nodup

section Writes

variable {setting : Setting} {world later : World Shelf} {call : Call} {answer : Answer}

theorem writes_distinct (writes : Writes setting world call answer later)
    (distinct : world.store.Distinct) : later.store.Distinct := by
  cases writes with
  | read => exact distinct
  | create => exact ⟨put_distinct distinct.templates, distinct.runs⟩
  | update => exact ⟨put_distinct distinct.templates, distinct.runs⟩
  | delete => exact ⟨distinct.templates.sublist (List.filter_sublist.map _), distinct.runs⟩
  | start => exact ⟨distinct.templates, put_distinct distinct.runs⟩
  | move => exact ⟨distinct.templates, put_distinct distinct.runs⟩

theorem writes_made {holds : Template → Prop}
    (made : ∀ draft graph tasks id createdAt updatedAt,
      Draft.checked draft setting.config = .ok (graph, tasks) →
        holds (draft.template graph tasks id createdAt updatedAt))
    (writes : Writes setting world call answer later)
    (before : ∀ template ∈ world.store.templates, holds template) :
    ∀ template ∈ later.store.templates, holds template := by
  intro template member
  cases writes with
  | read | start | move => exact before template member
  | create _ accepted same =>
      rcases mem_put member with new | old
      · exact new ▸ same ▸ made _ _ _ _ _ _ accepted
      · exact before template old
  | update _ _ accepted same =>
      rcases mem_put member with new | old
      · exact new ▸ same ▸ made _ _ _ _ _ _ accepted
      · exact before template old
  | delete => exact before template (List.mem_of_mem_filter member)

end Writes

section Sessions

variable (setting : Setting) (calls : List (Instant × Call))

theorem left_keeps (holds : Shelf → Prop) (empty : holds {})
    (step : ∀ world call answer later, Writes setting world call answer later →
      holds world.store → holds later.store) :
    holds (setting.left calls).store := by
  induction calls using List.reverseRecOn with
  | nil => exact empty
  | append_singleton calls call ih =>
      rw [left_concat]
      let called : World Shelf := { setting.left calls with clock := call.1 }
      have before : holds called.store := ih
      exact (answer_atomic setting called call.2).keeps before fun answer later writes =>
        step called call.2 answer later writes before

theorem left_distinct : (setting.left calls).store.Distinct :=
  left_keeps setting calls Shelf.Distinct ⟨List.nodup_nil, List.nodup_nil⟩
    fun _ _ _ _ => writes_distinct

theorem left_made (holds : Template → Prop)
    (made : ∀ draft graph tasks id createdAt updatedAt,
      Draft.checked draft setting.config = .ok (graph, tasks) →
        holds (draft.template graph tasks id createdAt updatedAt)) :
    ∀ template ∈ (setting.left calls).store.templates, holds template :=
  left_keeps setting calls (fun shelf => ∀ template ∈ shelf.templates, holds template)
    (List.forall_mem_nil _) fun _ _ _ _ => writes_made made

end Sessions

end Workflow
