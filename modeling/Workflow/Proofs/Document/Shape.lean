import Mathlib.Data.List.Forall2
import Workflow.Document.Run
import Workflow.Proofs.Text.Listed
import Workflow.Proofs.Time.Rfc3339
import Workflow.Proofs.Uuid

set_option autoImplicit false

namespace Workflow

open Json (Outline Reading)

namespace Shape

-- What is written of the first value is read as the second one, where it is not nested too deeply.
def Carries {α : Type} (shape : Shape α) (a b : α) : Prop :=
  ∀ room, (shape.write a).depth ≤ room → shape.read room (shape.write a).outline = .ok b

-- Each value is read back, and none is written as null, which would stand for a missing one.
structure Faithful {α : Type} (shape : Shape α) : Prop where
  present : ∀ a, shape.write a ≠ .null
  carries : ∀ a, shape.Carries a a

theorem outline_ne_null (json : Json) (present : json ≠ .null) : json.outline ≠ .null := by
  cases json with
  | null => exact absurd rfl present
  | _ => simp [Json.outline]

theorem decode_carried {α : Type} {shape : Shape α} {a b : α} (carried : shape.Carries a b) :
    shape.decode (shape.write a) = .ok b := carried _ le_rfl

theorem text_faithful : text.Faithful := ⟨fun _ => nofun, fun _ _ _ => rfl⟩

theorem double_faithful : double.Faithful := ⟨fun _ => nofun, fun _ _ _ => rfl⟩

theorem parsed_faithful {α : Type} {render : α → String} {parse? : String → Option α}
    (known : ∀ a, parse? (render a) = some a) : (parsed render parse?).Faithful :=
  ⟨fun _ => nofun, fun a _ _ => by simp [parsed, Json.outline, known a, accept]⟩

theorem uuid_faithful : uuid.Faithful := parsed_faithful Uuid.parse_render

theorem time_faithful : Shape.time.Faithful := parsed_faithful Instant.parse_render

theorem word_faithful {α : Type} {name : α → String} {ofName? : String → Option α}
    (known : ∀ a, ofName? (name a) = some a) : (word name ofName?).Faithful :=
  ⟨fun _ => nofun, fun a _ _ => by simp [word, Json.outline, known a, accept]⟩

theorem word32_carries (n : Nat) (fits : n < 2 ^ 32) : word32.Carries n n := by
  intro room _
  have within : 0 ≤ (n : Int) ∧ (n : Int) < 4294967296 := by omega
  unfold word32
  simp only [Json.outline]
  rw [if_pos within]
  rfl

theorem predecessors_carries (ids : List String) :
    predecessors.Carries ids (Text.listed (Text.joinCommas ids)) := fun _ _ => rfl

theorem optional_carries {α : Type} {shape : Shape α} (present : ∀ a, shape.write a ≠ .null)
    (a : Option α) (each : ∀ value, a = some value → shape.Carries value value) : shape.optional.Carries a a := by
  intro room fits
  cases a with
  | none => rfl
  | some value =>
      have read := each value rfl room fits
      have written := outline_ne_null _ (present value)
      simp only [optional, Option.elim_some, read]
      rfl

theorem items_read {α : Type} {shape : Shape α} {as bs : List α}
    (each : List.Forall₂ shape.Carries as bs) (room : Nat)
    (fits : Json.depthItems (as.map shape.write) ≤ room) :
    readItems (shape.read room) (Json.outlineItems (as.map shape.write)) = .ok bs := by
  induction each with
  | nil => rfl
  | cons first _ ih =>
      rw [List.map_cons, Json.depthItems, Nat.max_le] at fits
      rw [List.map_cons, Json.outlineItems, readItems, first room fits.1, ih fits.2]
      rfl

theorem listOf_carries {α : Type} {shape : Shape α} {as bs : List α}
    (each : List.Forall₂ shape.Carries as bs) : (listOf shape).Carries as bs := by
  intro room fits
  cases room with
  | zero => exact absurd fits (Nat.not_succ_le_zero _)
  | succ room =>
      have read := items_read each room (Nat.le_of_succ_le_succ fits)
      simp only [listOf, Json.outline, read]
      rfl

end Shape

end Workflow
