import Mathlib.Data.Nat.Digits.Defs
import Mathlib.Tactic.Ring
import Workflow.Uuid

set_option autoImplicit false

namespace Workflow.Uuid

theorem hexValue_hexDigit (n : Nat) : Text.hexValue? (Text.hexDigit n) = some (n % 16) := by
  have all : ∀ d < 16, Text.hexValue? (Nat.digitChar d) = some d := by decide
  exact all _ (Nat.mod_lt _ (by decide))

theorem hexDigit_ne_dash (n : Nat) : Text.hexDigit n ≠ '-' := by
  have all : ∀ d < 16, Nat.digitChar d ≠ '-' := by decide
  exact all _ (Nat.mod_lt _ (by decide))

theorem fold_digits (count n start : Nat) :
    ((List.range count).map fun i => n / 16 ^ (count - 1 - i) % 16).foldl
      (fun n d => n * 16 + d) start = start * 16 ^ count + n % 16 ^ count := by
  induction count generalizing start with
  | zero => simp [Nat.mod_one]
  | succ count ih =>
      have later : ∀ i, count + 1 - 1 - (i + 1) = count - 1 - i := by omega
      simp only [List.range_succ_eq_map, List.map_cons, List.map_map, Function.comp_def, later,
        List.foldl_cons]
      rw [ih, Nat.mod_pow_succ, Nat.pow_succ]
      simp only [Nat.add_sub_cancel, Nat.sub_zero]
      ring

theorem digits_length (id : Uuid) : id.digits.length = 32 := by
  simp [digits]

theorem ofDigits_digits (id : Uuid) : ofDigits? id.digits = some id := by
  have read : id.digits.mapM Text.hexValue? =
      some ((List.range 32).map fun i => id.value.toNat / 16 ^ (32 - 1 - i) % 16) := by
    rw [digits, List.mapM_map]
    simp only [Function.comp_def, hexValue_hexDigit]
    exact List.mapM_pure
  have small : id.value.toNat < 16 ^ 32 := id.value.isLt
  have value := fold_digits 32 id.value.toNat 0
  rw [Nat.zero_mul, Nat.zero_add, Nat.mod_eq_of_lt small] at value
  rw [ofDigits?, if_pos id.digits_length, read]
  simp only [Option.bind_eq_bind, Option.bind_some, value, BitVec.ofNat_toNat, BitVec.setWidth_eq]
  rfl

theorem solid_digits (id : Uuid) (part : List Char) (among : part ⊆ id.digits) :
    part.filter (· ≠ '-') = part := by
  refine List.filter_eq_self.mpr fun c member => ?_
  obtain ⟨i, -, rfl⟩ := List.mem_map.mp (among member)
  exact decide_eq_true (hexDigit_ne_dash _)

theorem ungrouped (id : Uuid) : id.render.toList.filter (· ≠ '-') = id.digits := by
  have inner (start size : Nat) : ((id.digits.drop start).take size).filter (· ≠ '-') =
      (id.digits.drop start).take size :=
    solid_digits id _ fun _ member => List.mem_of_mem_drop (List.mem_of_mem_take member)
  have join (start size : Nat) : (id.digits.drop start).take size ++ id.digits.drop (start + size) =
      id.digits.drop start := by
    rw [← List.drop_drop, List.take_append_drop]
  have dash (rest : List Char) : ('-' :: rest).filter (· ≠ '-') = rest.filter (· ≠ '-') := rfl
  rw [render, String.toList_ofList, ← List.drop_zero (l := id.digits)]
  simp only [List.drop_drop, List.append_assoc, List.cons_append, List.filter_append, dash, inner,
    solid_digits id _ (List.drop_subset _ _)]
  rw [join 16 4, join 12 4, join 8 4, join 0 8]

theorem ofGroups_render (id : Uuid) : ofGroups? id.render.toList = some id := by
  have size : id.render.toList.length = 36 := by simp [render, digits_length]
  have dashes : [8, 13, 18, 23].all fun i => id.render.toList[i]? = some '-' := by
    simp [render, List.getElem?_append, List.getElem?_cons, digits_length]
  rw [ofGroups?, if_pos ⟨size, dashes⟩, ungrouped, ofDigits_digits]

theorem parse_render (id : Uuid) : parse? id.render = some id := by
  have size : id.render.toList.length = 36 := by
    simp [render, digits_length]
  simp only [parse?, size, ofGroups_render]

end Workflow.Uuid
