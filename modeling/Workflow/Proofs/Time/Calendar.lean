import Mathlib.Algebra.GroupWithZero.Nat
import Workflow.Time.Instant

set_option autoImplicit false

namespace Workflow.Calendar

theorem year_holds (day : Int) :
    daysBeforeYear (yearOf day) ≤ day ∧ day < daysBeforeYear (yearOf day + 1) := by
  simp only [yearOf]
  split
  · rw [Int.sub_add_cancel]
    unfold daysBeforeYear at *
    omega
  · split
    all_goals
      unfold daysBeforeYear at *
      omega

theorem year_length (year : Int) :
    daysBeforeYear (year + 1) = daysBeforeYear year + (monthLengths year).sum := by
  unfold daysBeforeYear
  cases long : leap year with
  | true =>
      have days : (monthLengths year).sum = 366 := by rw [monthLengths, long]; rfl
      simp only [leap, Bool.and_eq_true, Bool.or_eq_true, decide_eq_true_eq] at long
      omega
  | false =>
      have days : (monthLengths year).sum = 365 := by rw [monthLengths, long]; rfl
      simp only [leap, Bool.and_eq_false_iff, Bool.or_eq_false_iff, decide_eq_false_iff_not] at long
      omega

theorem month_holds (lengths : List Nat) (day first : Nat) (within : day < lengths.sum) :
    ∃ skipped rest length, monthOf day first lengths = (first + skipped, rest + 1) ∧
      lengths[skipped]? = some length ∧ rest < length ∧
      day = (lengths.take skipped).sum + rest := by
  induction lengths generalizing day first with
  | nil => simp at within
  | cons length later ih =>
      by_cases here : day < length
      · exact ⟨0, day, length, by simp [monthOf, here], rfl, here, by simp⟩
      · rw [List.sum_cons] at within
        obtain ⟨skipped, rest, size, found, listed, below, whole⟩ :=
          ih (day - length) (first + 1) (by omega)
        refine ⟨skipped + 1, rest, size, ?_, by simpa using listed, below, ?_⟩
        · rw [monthOf, if_neg here, found]
          congr 1
          omega
        · rw [List.take_succ_cons, List.sum_cons]
          omega

theorem ofDays_spec (days : Int) : valid (ofDays days) = true ∧ toDays (ofDays days) = days := by
  obtain ⟨starts, ends⟩ := year_holds (days + epoch)
  rw [year_length] at ends
  obtain ⟨skipped, rest, length, found, listed, below, whole⟩ :=
    month_holds (monthLengths (yearOf (days + epoch)))
      (days + epoch - daysBeforeYear (yearOf (days + epoch))).toNat 1 (by omega)
  have date : ofDays days = ⟨yearOf (days + epoch), 1 + skipped, rest + 1⟩ := by
    simp only [ofDays, found]
  have before : daysBeforeMonth (ofDays days) =
      ((monthLengths (yearOf (days + epoch))).take skipped).sum := by
    rw [daysBeforeMonth, date, List.sum_eq_foldl, Nat.add_sub_cancel_left]
  constructor
  · rw [date]
    simp only [valid, Nat.add_sub_cancel_left, listed]
    simp
    omega
  · rw [toDays, before, date]
    dsimp only
    omega

theorem valid_bounds (date : Date) (sound : valid date = true) :
    date.month ≤ 12 ∧ date.day ≤ 31 := by
  simp only [valid, Bool.and_eq_true] at sound
  cases listed : (monthLengths date.year)[date.month - 1]? with
  | none => simp [listed] at sound
  | some length =>
      obtain ⟨below, same⟩ := List.getElem?_eq_some_iff.mp listed
      have short : ∀ days ∈ monthLengths date.year, days ≤ 31 := by
        cases long : leap date.year <;> simp [monthLengths, long]
      have longest := short length (List.mem_of_getElem? listed)
      simp only [monthLengths, List.length_cons, List.length_nil] at below
      simp only [listed, decide_eq_true_eq] at sound
      omega

end Workflow.Calendar
