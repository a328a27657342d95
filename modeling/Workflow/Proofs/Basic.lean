import Mathlib.Data.List.Forall2
import Mathlib.Data.List.Nodup
import Workflow.Error

set_option autoImplicit false

namespace Workflow

theorem bind_ok_iff {ε α β : Type} (first : Except ε α) (next : α → Except ε β) (result : β) :
    (first >>= next) = .ok result ↔ ∃ value, first = .ok value ∧ next value = .ok result := by
  cases first with
  | error error => simp [bind, Except.bind]
  | ok value => simp [bind, Except.bind]

theorem bind_error_iff {ε α β : Type} (first : Except ε α) (next : α → Except ε β) (error : ε) :
    (first >>= next) = .error error ↔
      first = .error error ∨ ∃ value, first = .ok value ∧ next value = .error error := by
  cases first with
  | error reason => simp [bind, Except.bind]
  | ok value => simp [bind, Except.bind]

theorem erase_dups_nodup (ids : List String) : ids.eraseDups.Nodup := by
  induction length : ids.length using Nat.strongRecOn generalizing ids with
  | ind size ih =>
      cases ids with
      | nil => simp
      | cons id rest =>
          rw [List.eraseDups_cons, List.nodup_cons]
          have shorter : (rest.filter fun other => !other == id).length < size := by
            have bound := List.length_filter_le (fun other => !other == id) rest
            rw [List.length_cons] at length
            omega
          refine ⟨?_, ih _ shorter _ rfl⟩
          simp

theorem found_key {α β : Type} [DecidableEq β] {key : α → β} {items : List α} {item : α} {value : β}
    (found : items.find? (fun other => key other = value) = some item) : key item = value := by
  simpa using List.find?_some found

theorem find_key {α β : Type} [DecidableEq β] (key : α → β) (items : List α) (item : α)
    (distinct : (items.map key).Nodup) (member : item ∈ items) :
    items.find? (fun other => key other = key item) = some item := by
  cases found : items.find? fun other => key other = key item with
  | none =>
      have absent := List.find?_eq_none.mp found item member
      simp at absent
  | some other =>
      have among : other ∈ items := List.mem_of_find?_eq_some found
      have same : key other = key item := found_key found
      exact congrArg some (List.inj_on_of_nodup_map distinct among member same)

theorem find_perm {α β : Type} [DecidableEq β] (key : α → β) {items others : List α} (value : β)
    (distinct : (items.map key).Nodup) (same : others.Perm items) :
    others.find? (fun item => key item = value) = items.find? fun item => key item = value := by
  cases found : items.find? fun item => key item = value with
  | none =>
      have absent := List.find?_eq_none.mp found
      exact List.find?_eq_none.mpr fun item member => absent item (same.mem_iff.mp member)
  | some item =>
      have member : item ∈ others := same.mem_iff.mpr (List.mem_of_find?_eq_some found)
      have apart : (others.map key).Nodup := (same.map key).nodup_iff.mpr distinct
      have own : key item = value := found_key found
      subst own
      exact find_key key others item apart member

theorem filter_key {α β : Type} [DecidableEq β] (key : α → β) (items : List α) (item : α)
    (distinct : (items.map key).Nodup) (member : item ∈ items) :
    items.filter (fun other => key other = key item) = [item] := by
  obtain ⟨before, after, split⟩ := List.append_of_mem member
  rw [split, List.map_append, List.map_cons, List.nodup_middle, List.nodup_cons,
    ← List.map_append] at distinct
  have apart : (before ++ after).filter (fun other => key other = key item) = [] := by
    refine List.filter_eq_nil_iff.mpr fun other listed same => distinct.1 ?_
    exact of_decide_eq_true same ▸ List.mem_map_of_mem listed
  rw [List.filter_append, List.append_eq_nil_iff] at apart
  rw [split, List.filter_append, List.filter_cons_of_pos (by simp), apart.1, apart.2]
  rfl

section Pointwise

variable {α β : Type} {related : α → β → Prop} {old : List α} {new : List β}

theorem pointwise_forth (all : List.Forall₂ related old new) (x : α) (member : x ∈ old) :
    ∃ y ∈ new, related x y := by
  induction all with
  | nil => simp at member
  | @cons a b as bs first _ ih =>
      rcases List.mem_cons.mp member with same | later
      · exact ⟨b, List.mem_cons_self, same ▸ first⟩
      · obtain ⟨y, found, pair⟩ := ih later
        exact ⟨y, List.mem_cons_of_mem b found, pair⟩

theorem pointwise_back (all : List.Forall₂ related old new) (y : β) (member : y ∈ new) :
    ∃ x ∈ old, related x y := by
  obtain ⟨x, found, pair⟩ := pointwise_forth all.flip y member
  exact ⟨x, found, pair⟩

theorem pointwise_members (all : List.Forall₂ related old new) :
    List.Forall₂ (fun x y => x ∈ old ∧ y ∈ new ∧ related x y) old new := by
  have within : List.Forall₂ (fun y x => y ∈ new ∧ related x y) new old :=
    (List.forall₂_and_left _ _).mpr ⟨fun y member => member, all.flip⟩
  exact (List.forall₂_and_left _ _).mpr ⟨fun x member => member, within.flip⟩

theorem pointwise_at (all : List.Forall₂ related old new) (place : Nat) (y : β)
    (found : new[place]? = some y) : ∃ x, old[place]? = some x ∧ related x y := by
  induction all generalizing place with
  | nil => simp at found
  | @cons a b as bs first _ ih =>
      cases place with
      | zero =>
          cases found
          exact ⟨a, rfl, first⟩
      | succ place => exact ih place found

theorem pointwise_put {same : α → α → Prop} (before after : List α) (x y : α)
    (reflexive : ∀ z, same z z) (changed : same x y) :
    List.Forall₂ same (before ++ x :: after) (before ++ y :: after) := by
  induction before with
  | nil => exact .cons changed (List.forall₂_same.mpr fun z _ => reflexive z)
  | cons first _ ih => exact .cons (reflexive first) ih

theorem pointwise_trans {γ : Type} {further : β → γ → Prop} {whole : α → γ → Prop} {last : List γ}
    (compose : ∀ x y z, related x y → further y z → whole x z) (first : List.Forall₂ related old new)
    (second : List.Forall₂ further new last) : List.Forall₂ whole old last := by
  induction first generalizing last with
  | nil =>
      cases second
      exact .nil
  | cons head _ ih =>
      cases second with
      | cons next rest => exact .cons (compose _ _ _ head next) (ih rest)

theorem pointwise_groups {γ : Type} (parts : γ → List α) (items : List γ) (found : List β)
    (all : List.Forall₂ related (items.flatMap parts) found) :
    ∃ groups, found = groups.flatten ∧
      List.Forall₂ (fun item group => List.Forall₂ related (parts item) group) items groups := by
  induction items generalizing found with
  | nil =>
      cases all
      exact ⟨[], rfl, .nil⟩
  | cons first rest ih =>
      have turned := all.flip
      rw [List.flatMap_cons] at turned
      obtain ⟨groups, later, each⟩ := ih _ (List.forall₂_drop_append _ _ _ turned).flip
      refine ⟨found.take (parts first).length :: groups, ?_, .cons ?_ each⟩
      · rw [List.flatten_cons, ← later, List.take_append_drop]
      · exact (List.forall₂_take_append _ _ _ turned).flip

end Pointwise

end Workflow
