import Workflow.Proofs.Basic
import Workflow.Proofs.Document.Shape

/-!
What a record reads of what it wrote. Each field has a slot: its key with what is written under it,
if anything is. A field is read off its own slot, so records are put together field by field, and
only the whole record asks that no two fields share a key.
-/

set_option autoImplicit false

namespace Workflow

open Json (Outline Reading)

abbrev Slot := String × Option Json

namespace Record

def written (slots : List Slot) : List (String × Json) :=
  slots.filterMap fun slot => slot.2.map (slot.1, ·)

def Fits (room : Nat) (slot : Slot) : Prop := ∀ value, slot.2 = some value → value.depth ≤ room

structure Slotted {ρ α : Type} (record : Record ρ α) (r : ρ) (a : α) (slots : List Slot) : Prop where
  write : record.write r = written slots
  checked : List.Forall₂ (fun check slot => check.1 = slot.1 ∧ ∀ value, slot.2 = some value →
    ∀ room, value.depth ≤ room → check.2 room value.outline = .ok ()) record.checks slots
  gathered : ∀ room members, (∀ slot ∈ slots, Fits room slot ∧
    members slot.1 = slot.2.map Json.outline) → record.gather room members = .ok a

def Carries {ρ α : Type} (record : Record ρ α) (r : ρ) (a : α) : Prop :=
  ∃ slots, Slotted record r a slots

section Fields

variable {ρ α β : Type}

theorem Carries.map {x : Record ρ α} {r : ρ} {a : α} (g : α → β) (carried : x.Carries r a) :
    (g <$> x).Carries r (g a) := by
  obtain ⟨slots, slotted⟩ := carried
  refine ⟨slots, slotted.write, slotted.checked, fun room members found => ?_⟩
  change (do return g (← x.gather room members)) = _
  rw [slotted.gathered room members found]
  rfl

theorem Carries.seq {f : Record ρ (α → β)} {x : Record ρ α} {r : ρ} {g : α → β} {a : α}
    (first : f.Carries r g) (second : x.Carries r a) : (f <*> x).Carries r (g a) := by
  obtain ⟨before, left⟩ := first
  obtain ⟨after, right⟩ := second
  refine ⟨before ++ after, ?_, ?_, ?_⟩
  · rw [written, List.filterMap_append]
    exact congrArg₂ _ left.write right.write
  · exact List.rel_append left.checked right.checked
  · intro room members found
    rw [List.forall_mem_append] at found
    change (do return (← f.gather room members) (← x.gather room members)) = _
    rw [left.gathered room members found.1, right.gathered room members found.2]
    rfl

theorem field_carries {key : String} {get : ρ → β} {shape : Shape β} {absence : Absence β} {r : ρ}
    {b : β} (absent : absence.unwritten (get r) = true → absence.inObject = some b)
    (present : absence.unwritten (get r) = false → shape.Carries (get r) b) :
    (field key get shape absence).Carries r b := by
  cases unwritten : absence.unwritten (get r) with
  | true =>
      refine ⟨[(key, none)], by simp [field, written, unwritten], .cons ⟨rfl, nofun⟩ .nil, ?_⟩
      intro room members found
      have missing := (found _ List.mem_cons_self).2
      simp only [Option.map_none] at missing
      simp only [field, missing, absent unwritten, Shape.accept]
  | false =>
      have read := present unwritten
      refine ⟨[(key, some (shape.write (get r)))], by simp [field, written, unwritten], ?_, ?_⟩
      · refine .cons ⟨rfl, ?_⟩ .nil
        rintro _ ⟨⟩ room fits
        simp only [read room fits]
        rfl
      · intro room members found
        obtain ⟨fits, under⟩ := found _ List.mem_cons_self
        simp only [Option.map_some] at under
        simp only [field, under, read room (fits _ rfl)]

theorem required_carries {key : String} {get : ρ → β} {shape : Shape β} {r : ρ} {b : β}
    (carried : shape.Carries (get r) b) : (required key get shape).Carries r b :=
  field_carries nofun fun _ => carried

theorem withDefault_carries {default : β} {key : String} {get : ρ → β} {shape : Shape β} {r : ρ}
    {b : β} (carried : shape.Carries (get r) b) :
    (withDefault default key get shape).Carries r b :=
  field_carries nofun fun _ => carried

theorem optional_carries {key : String} {get : ρ → Option β} {shape : Shape β} {r : ρ}
    (present : ∀ b, shape.write b ≠ .null)
    (each : ∀ value, get r = some value → shape.Carries value value) :
    (optional key get shape).Carries r (get r) :=
  field_carries (fun none => congrArg some (Option.isNone_iff_eq_none.mp none).symm) fun _ =>
    Shape.optional_carries present (get r) each

end Fields

section Whole

theorem lookup_of_mem {α β : Type} [BEq α] [LawfulBEq α] {items : List (α × β)} {key : α} {value : β}
    (distinct : (items.map (·.1)).Nodup) (member : (key, value) ∈ items) :
    items.lookup key = some value := by
  obtain ⟨before, after, rfl⟩ := List.append_of_mem member
  refine List.lookup_eq_some_iff.mpr ⟨before, after, rfl, fun pair among => ?_⟩
  rw [List.map_append, List.nodup_append] at distinct
  have different := distinct.2.2 pair.1 (List.mem_map_of_mem among) key (by simp)
  simpa using Ne.symm different

theorem mem_written (slots : List Slot) (key : String) (value : Json) :
    (key, value) ∈ written slots ↔ (key, some value) ∈ slots := by
  simp [written, List.mem_filterMap]

theorem written_distinct {slots : List Slot} (distinct : (slots.map (·.1)).Nodup) :
    ((written slots).map (·.1)).Nodup := by
  rw [List.Nodup, List.pairwise_map] at distinct ⊢
  refine distinct.filterMap _ fun first second different pair among other listed => ?_
  obtain ⟨_, -, rfl⟩ := Option.map_eq_some_iff.mp among
  obtain ⟨_, -, rfl⟩ := Option.map_eq_some_iff.mp listed
  exact different

theorem lookup_outline (members : List (String × Json)) (key : String) :
    find? (Json.outlineMembers members) key = (members.lookup key).map Json.outline := by
  induction members with
  | nil => rfl
  | cons first rest ih =>
      obtain ⟨other, value⟩ := first
      by_cases same : key = other
      · simp [find?, Json.outlineMembers, same]
      · have different : (key == other) = false := beq_false_of_ne same
        simpa [find?, Json.outlineMembers, List.lookup_cons, different] using ih

theorem find_written {slots : List Slot} (distinct : (slots.map (·.1)).Nodup) (slot : Slot)
    (member : slot ∈ slots) :
    find? (Json.outlineMembers (written slots)) slot.1 = slot.2.map Json.outline := by
  obtain ⟨key, value⟩ := slot
  rw [lookup_outline]
  congr 1
  cases value with
  | some value =>
      exact lookup_of_mem (written_distinct distinct) ((mem_written slots key value).mpr member)
  | none =>
      refine List.lookup_eq_none_iff.mpr fun pair among => bne_iff_ne.mpr fun same => ?_
      have other := (mem_written slots pair.1 pair.2).mp among
      have equal := List.inj_on_of_nodup_map distinct member other same
      cases equal

theorem scan_written {checks : List (String × (Nat → Outline → Reading Unit))} {room : Nat}
    {slots : List Slot} (seen : List String) (fresh : ∀ slot ∈ slots, slot.1 ∉ seen)
    (distinct : (slots.map (·.1)).Nodup)
    (known : ∀ slot ∈ slots, ∃ check, checks.lookup slot.1 = some check ∧
      ∀ value, slot.2 = some value → check room value.outline = .ok ()) :
    scan checks room seen (Json.outlineMembers (written slots)) = .ok () := by
  induction slots generalizing seen with
  | nil => rfl
  | cons slot rest ih =>
      obtain ⟨key, value⟩ := slot
      rw [List.forall_mem_cons] at fresh known
      rw [List.map_cons, List.nodup_cons] at distinct
      cases value with
      | none => exact ih seen fresh.2 distinct.2 known.2
      | some value =>
          obtain ⟨⟨check, found, read⟩, others⟩ := known
          have later : ∀ slot ∈ rest, slot.1 ∉ key :: seen := fun slot member =>
            List.not_mem_cons_of_ne_of_not_mem
              (fun same => distinct.1 (List.mem_map.mpr ⟨slot, member, same⟩)) (fresh.2 slot member)
          have front : written ((key, some value) :: rest) = (key, value) :: written rest := rfl
          simp only [front, Json.outlineMembers, scan, found, fresh.1, if_false, read value rfl]
          exact ih (key :: seen) later distinct.2 others

theorem depth_member {members : List (String × Json)} {key : String} {value : Json}
    (member : (key, value) ∈ members) : value.depth ≤ Json.depthMembers members := by
  induction members with
  | nil => cases member
  | cons first rest ih =>
      rw [Json.depthMembers]
      rcases List.mem_cons.mp member with same | later
      · rw [← same]
        exact Nat.le_max_left _ _
      · exact (ih later).trans (Nat.le_max_right _ _)

theorem shape_carries {α : Type} {record : Record α α} {a b : α}
    (distinct : (record.checks.map (·.1)).Nodup) (carried : record.Carries a b) :
    record.shape.Carries a b := by
  obtain ⟨slots, slotted⟩ := carried
  have keys : record.checks.map (·.1) = slots.map (·.1) := by
    rw [← List.forall₂_eq_eq_eq, List.forall₂_map_left_iff, List.forall₂_map_right_iff]
    exact slotted.checked.imp fun _ _ pair => pair.1
  have apart : (slots.map (·.1)).Nodup := keys ▸ distinct
  intro room fits
  cases room with
  | zero => exact absurd fits (Nat.not_succ_le_zero _)
  | succ room =>
      have deep : Json.depthMembers (record.write a) ≤ room := Nat.le_of_succ_le_succ fits
      rw [slotted.write] at deep
      have roomLeft : ∀ slot ∈ slots, Fits room slot := fun slot member value under =>
        (depth_member ((mem_written slots slot.1 value).mpr (under ▸ member))).trans deep
      have known : ∀ slot ∈ slots, ∃ check, record.checks.lookup slot.1 = some check ∧
          ∀ value, slot.2 = some value → check room value.outline = .ok () := by
        intro slot member
        obtain ⟨check, among, same, read⟩ := pointwise_back slotted.checked slot member
        exact ⟨check.2, lookup_of_mem distinct (same ▸ among), fun value under =>
          read value under room (roomLeft slot member value under)⟩
      have scanned := scan_written [] (fun _ _ => List.not_mem_nil) apart known
      have gathered := slotted.gathered room (find? (Json.outlineMembers (written slots)))
        fun slot member => ⟨roomLeft slot member, find_written apart slot member⟩
      simp only [shape, Json.outline, readInside, slotted.write, Nat.add_sub_cancel, scanned]
      exact gathered

theorem shape_faithful {α : Type} {record : Record α α}
    (distinct : (record.checks.map (·.1)).Nodup) (carried : ∀ a, record.Carries a a) :
    record.shape.Faithful :=
  ⟨fun _ => nofun, fun a => shape_carries distinct (carried a)⟩

end Whole

end Record

namespace Shape.Faithful

variable {ρ β : Type} {shape : Shape β} {key : String} {r : ρ}

theorem required {get : ρ → β} (faithful : shape.Faithful) :
    (Record.required key get shape).Carries r (get r) :=
  Record.required_carries (faithful.carries _)

theorem withDefault {default : β} {get : ρ → β} (faithful : shape.Faithful) :
    (Record.withDefault default key get shape).Carries r (get r) :=
  Record.withDefault_carries (faithful.carries _)

theorem optional {get : ρ → Option β} (faithful : shape.Faithful) :
    (Record.optional key get shape).Carries r (get r) :=
  Record.optional_carries faithful.present fun value _ => faithful.carries value

theorem nullableInArray {get : ρ → Option β} (faithful : shape.Faithful) :
    (Record.nullableInArray key get shape).Carries r (get r) :=
  Record.field_carries nofun fun _ =>
    Shape.optional_carries faithful.present (get r) fun value _ => faithful.carries value

theorem listOf (faithful : shape.Faithful) : (Shape.listOf shape).Faithful :=
  ⟨fun _ => nofun, fun _ => Shape.listOf_carries (List.forall₂_same.mpr fun a _ =>
    faithful.carries a)⟩

end Shape.Faithful

end Workflow
