import Workflow.Engine.Call

set_option autoImplicit false

namespace Workflow

def Grows {σ α : Type} (act : Act σ α) : Prop := ∀ world, world.drawn ≤ (act.run world).2.drawn

namespace Grows

variable {σ α β : Type}

theorem return_grows (a : α) : Grows (pure a : Act σ α) := fun world => Nat.le_refl world.drawn

theorem throw_grows (error : Error) : Grows (throw error : Act σ α) := fun world => Nat.le_refl world.drawn

theorem except_grows (answer : Except Error α) : Grows (liftExcept answer : Act σ α) := by
  cases answer with
  | error error => exact throw_grows error
  | ok a => exact return_grows a

theorem bind {first : Act σ α} {next : α → Act σ β} (grows : Grows first)
    (after : ∀ a, Grows (next a)) : Grows (first >>= next) := by
  intro world
  rw [ExceptT.run_bind]
  refine Nat.le_trans (grows world) ?_
  simp only [Bind.bind, StateT.bind]
  rcases first.run world with ⟨error | a, later⟩
  · exact Nat.le_refl _
  · exact after a later

theorem map {act : Act σ α} (f : α → β) (grows : Grows act) : Grows (f <$> act) := by
  rw [map_eq_pure_bind]
  exact grows.bind fun a => return_grows (f a)

theorem ask_grows (access : Access σ α) : Grows (Engine.ask access) := fun world => Nat.le_refl world.drawn

theorem now_grows : Grows (Engine.now : Act σ Instant) := fun world => Nat.le_refl world.drawn

theorem draw_grows (count : Nat) : Grows (Engine.draw count : Act σ Unit) :=
  fun world => Nat.le_add_right world.drawn count

end Grows

section Operations

open Grows

variable {σ : Type} (engine : Engine σ)

theorem supply_grows : Grows engine.supply := fun world => Nat.le_refl world.drawn

theorem publish_grows (events : List Event) : Grows (engine.publish events) := fun world => Nat.le_refl world.drawn

theorem template_grows (id : Uuid) : Grows (engine.template id) := by
  refine (ask_grows _).bind fun found => ?_
  cases found with
  | some template => exact return_grows template
  | none => exact throw_grows _

theorem run_grows (id : Uuid) : Grows (engine.run id) := by
  refine (ask_grows _).bind fun found => ?_
  cases found with
  | some run => exact return_grows run
  | none => exact throw_grows _

theorem save_template_grows (draft : Draft) : Grows (engine.saveTemplate draft) := by
  refine (except_grows _).bind fun _ => now_grows.bind fun now => ?_
  cases named : draft.id with
  | some id =>
      refine (template_grows engine id).bind fun _ => ?_
      exact (ask_grows _).bind fun _ => return_grows _
  | none =>
      refine (supply_grows engine).bind fun _ => ?_
      exact (ask_grows _).bind fun _ => (draw_grows 1).bind fun _ => return_grows _

theorem delete_template_grows (id : Uuid) : Grows (engine.deleteTemplate id) := by
  refine (ask_grows _).bind fun deleted => ?_
  cases deleted with
  | true => exact return_grows ()
  | false => exact throw_grows _

theorem start_grows (request : StartRequest) : Grows (engine.start request) := by
  refine (except_grows _).bind fun _ => (template_grows engine _).bind fun _ => ?_
  refine (except_grows _).bind fun _ => (except_grows _).bind fun _ => ?_
  refine now_grows.bind fun _ => (supply_grows engine).bind fun _ => ?_
  refine (except_grows _).bind fun _ => (ask_grows _).bind fun _ => ?_
  exact (draw_grows _).bind fun _ => (publish_grows engine _).bind fun _ => return_grows _

theorem move_grows (id : Uuid) (move : Move) : Grows (engine.move id move) := by
  refine (run_grows engine id).bind fun _ => now_grows.bind fun _ => (except_grows _).bind fun _ => ?_
  exact (ask_grows _).bind fun _ => (publish_grows engine _).bind fun _ => return_grows _

theorem summary_grows : Grows engine.summary :=
  (ask_grows _).bind fun _ => (ask_grows _).bind fun _ => now_grows.bind fun _ => return_grows _

theorem answer_grows (call : Engine.Call) : Grows (engine.answer call) := by
  cases call with
  | preview graph => exact (except_grows _).map _
  | saveTemplate draft => exact (save_template_grows engine draft).map _
  | template id => exact (template_grows engine id).map _
  | templates => exact (ask_grows _).map _
  | deleteTemplate id => exact (delete_template_grows engine id).map _
  | start request => exact (start_grows engine request).map _
  | run id => exact (run_grows engine id).map _
  | runs status => exact (ask_grows _).map _
  | move id move => exact (move_grows engine id move).map _
  | summary => exact (summary_grows engine).map _

theorem perform_grows (world : World σ) (now : Instant) (call : Engine.Call) :
    world.drawn ≤ (engine.performAt world now call).2.drawn :=
  answer_grows engine call { world with clock := now }

end Operations

end Workflow
