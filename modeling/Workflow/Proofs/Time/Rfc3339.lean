import Mathlib.Data.List.TakeWhile
import Mathlib.Tactic.Ring
import Workflow.Proofs.Time.Calendar
import Workflow.Time.Rfc3339

set_option autoImplicit false

namespace Workflow.Instant

open Text (dropBlanks)

theorem dropBlanks_solid (c : Char) (rest : List Char) (solid : Text.isBlank c = false) :
    dropBlanks (c :: rest) = c :: rest :=
  List.dropWhile_cons_of_neg (by simp [solid])

theorem digit_solid (c : Char) (digit : c.isDigit = true) : Text.isBlank c = false := by
  have bounds : 48 ≤ c.toNat ∧ c.toNat ≤ 57 := Char.isDigit_iff_toNat.mp digit
  simp [Text.isBlank]
  omega

section Digits

-- Reading stops where the digits do: at the full width, or before another character.
def Stops (width : Nat) (text rest : List Char) : Prop :=
  text.length = width ∨ text.length < width ∧ ∀ c ∈ rest.head?, c.isDigit = false

theorem digits_read (width : Nat) (text rest : List Char) (present : text ≠ [])
    (all : ∀ c ∈ text, c.isDigit = true) (stops : Stops width text rest) :
    digits width (text ++ rest) = some (Nat.ofDigitChars 10 text 0, rest) := by
  have taken : ((text ++ rest).take width).takeWhile Char.isDigit = text := by
    rcases stops with full | ⟨short, other⟩
    · rw [List.take_left' full]
      exact List.takeWhile_eq_self_iff.mpr all
    · obtain ⟨more, rfl⟩ := Nat.exists_eq_add_of_lt short
      cases rest with
      | nil =>
          rw [List.append_nil, List.take_of_length_le (by omega)]
          exact List.takeWhile_eq_self_iff.mpr all
      | cons c rest =>
          have stop : c.isDigit = false := other c rfl
          rw [Nat.add_assoc, List.take_length_add_append, List.take_succ_cons,
            List.takeWhile_append_of_pos all, List.takeWhile_cons_of_neg (by simp [stop]),
            List.append_nil]
  have value : text.foldl (fun n c => n * 10 + (c.toNat - 48)) 0 = Nat.ofDigitChars 10 text 0 := by
    simp only [Nat.ofDigitChars, Nat.mul_comm 10]
    rfl
  simp [digits, taken, present, value]

theorem padded_digits (width n : Nat) : ∀ c ∈ padded width n, c.isDigit = true := by
  intro c member
  obtain ⟨i, -, rfl⟩ := List.mem_map.mp member
  rw [Nat.isDigit_digitChar]
  exact decide_eq_true (Nat.mod_lt _ (by decide))

theorem padded_length (width n : Nat) : (padded width n).length = width := by
  simp [padded]

theorem padded_value (width n start : Nat) :
    Nat.ofDigitChars 10 (padded width n) start = 10 ^ width * start + n % 10 ^ width := by
  induction width generalizing start with
  | zero => simp [padded, Nat.mod_one]
  | succ width ih =>
      have front : padded (width + 1) n =
          Nat.digitChar (n / 10 ^ width % 10) :: padded width n := by
        simp [padded, List.range_succ]
      rw [front, Nat.ofDigitChars_cons_digitChar_of_lt_ten (Nat.mod_lt _ (by decide)), ih,
        Nat.mod_pow_succ, Nat.pow_succ]
      ring

theorem padded_read (width limit n : Nat) (rest : List Char) (wide : 0 < width)
    (fits : n < 10 ^ width) (stops : Stops limit (padded width n) rest) :
    digits limit (padded width n ++ rest) = some (n, rest) := by
  have present : padded width n ≠ [] :=
    List.ne_nil_of_length_pos (by rw [padded_length]; exact wide)
  rw [digits_read limit _ rest present (padded_digits width n) stops, padded_value,
    Nat.mod_eq_of_lt fits, Nat.mul_zero, Nat.zero_add]

end Digits

theorem part_read (n : Nat) (rest : List Char) (fits : n < 100) :
    part (padded 2 n ++ rest) = some (n, rest) := by
  have digit : (Nat.digitChar (n / 10 % 10)).isDigit = true := by
    rw [Nat.isDigit_digitChar]
    exact decide_eq_true (Nat.mod_lt _ (by decide))
  have solid : dropBlanks (padded 2 n ++ rest) = padded 2 n ++ rest :=
    dropBlanks_solid _ _ (digit_solid _ digit)
  rw [part, solid]
  exact padded_read 2 2 n rest (by decide) fits (.inl (padded_length 2 n))

theorem partAfter_read (separator : Char) (n : Nat) (rest : List Char)
    (solid : Text.isBlank separator = false) (fits : n < 100) :
    partAfter separator (separator :: (padded 2 n ++ rest)) = some (n, rest) := by
  simp [partAfter, dropBlanks_solid, solid, expect, part_read, fits]

theorem year_unsigned (c : Char) (rest : List Char) (digit : c.isDigit = true) :
    year (c :: rest) = (digits 4 (c :: rest)).map fun (n, s) => ((n : Int), s) := by
  rw [year, dropBlanks_solid c rest (digit_solid c digit)]
  split
  · rename_i same
    cases same
    exact absurd digit (by decide)
  · rename_i same
    cases same
    exact absurd digit (by decide)
  · rfl

theorem year_minus (s : List Char) :
    year ('-' :: s) = (digits s.length s).map fun (n, s) => (-(n : Int), s) := by
  rw [year, dropBlanks_solid '-' s rfl]
  rfl

theorem year_plus (s : List Char) :
    year ('+' :: s) = (digits s.length s).map fun (n, s) => ((n : Int), s) := by
  rw [year, dropBlanks_solid '+' s rfl]
  rfl

theorem signed_read (n : Nat) (rest : List Char) :
    let text := List.replicate (4 - (toString n).toList.length) '0' ++ (toString n).toList
    digits (text ++ '-' :: rest).length (text ++ '-' :: rest) = some (n, '-' :: rest) := by
  intro text
  have shape : text = List.replicate (4 - (toString n).toList.length) '0' ++ Nat.toDigits 10 n := by
    simp [text]
  have value : Nat.ofDigitChars 10 text 0 = n := by
    rw [shape, Nat.ofDigitChars_append, Nat.ofDigitChars_replicate_zero, Nat.mul_zero,
      Nat.ofDigitChars_ten_toDigits]
  have all : ∀ c ∈ text, c.isDigit = true := by
    intro c member
    rw [shape] at member
    rcases List.mem_append.mp member with zero | digit
    · rw [List.eq_of_mem_replicate zero]
      rfl
    · exact Nat.isDigit_of_mem_toDigits (by decide) (by decide) digit
  have present : text ≠ [] := by
    rw [shape]
    exact List.append_ne_nil_of_right_ne_nil _ Nat.toDigits_ne_nil
  have stops : Stops (text ++ '-' :: rest).length text ('-' :: rest) :=
    .inr ⟨by simp, by simp⟩
  rw [digits_read _ text _ present all stops, value]

theorem year_read (y : Int) (rest : List Char) :
    year (yearText y ++ '-' :: rest) = some (y, '-' :: rest) := by
  unfold yearText
  split
  · rename_i short
    have read := padded_read 4 4 y.toNat ('-' :: rest) (by decide) (by omega)
      (.inl (padded_length 4 y.toNat))
    cases text : padded 4 y.toNat with
    | nil => simp [padded] at text
    | cons c tail =>
        have digit := padded_digits 4 y.toNat c (by simp [text])
        rw [text] at read
        rw [List.cons_append, year_unsigned c _ digit, ← List.cons_append, read]
        simp [short.1]
  · have read := signed_read y.natAbs rest
    by_cases negative : y < 0
    · have back : -(y.natAbs : Int) = y := by omega
      rw [if_pos negative, List.cons_append, year_minus, read]
      simp only [Option.map_some, back]
    · have back : (y.natAbs : Int) = y := by omega
      rw [if_neg negative, List.cons_append, year_plus, read]
      simp only [Option.map_some, back]

theorem fraction_read (nano : Nat) (below : nano < billion) :
    fraction (fractionText nano ++ ['Z']) = some (nano, ['Z']) := by
  have places (width n : Nat) (wide : 0 < width) (within : width ≤ 9) (fits : n < 10 ^ width)
      (scaled : n * 10 ^ (9 - width) = nano) :
      fraction ('.' :: padded width n ++ ['Z']) = some (nano, ['Z']) := by
    have stops : Stops 9 (padded width n) ['Z'] := by
      rcases Nat.eq_or_lt_of_le within with full | short
      · exact .inl ((padded_length width n).trans full)
      · exact .inr ⟨(padded_length width n).trans_lt short, by simp⟩
    have read := padded_read width 9 n ['Z'] wide fits stops
    simp [fraction, read, padded_length, scaled]
  unfold billion at below
  unfold fractionText
  split
  · rename_i zero
    simp [fraction, zero]
  · split
    · exact places 3 _ (by decide) (by decide) (by omega) (by omega)
    · split
      · exact places 6 _ (by decide) (by decide) (by omega) (by omega)
      · exact places 9 _ (by decide) (by decide) (by omega) (by omega)

theorem make_self (t : Instant) : make? t.second t.nano = some t := dif_pos t.proper

theorem leap_written (t : Instant) :
    t.nano / billion ≤ 1 ∧
      ((t.second % secondsPerDay).toNat % 60 + t.nano / billion) / 60 = t.nano / billion := by
  have kind := t.proper.2.2
  unfold billion secondsPerDay at *
  omega

theorem compose_parts (t : Instant) :
    compose? (Calendar.ofDays (t.second / secondsPerDay))
      ((t.second % secondsPerDay).toNat / 3600) ((t.second % secondsPerDay).toNat / 60 % 60)
      ((t.second % secondsPerDay).toNat % 60 + t.nano / billion) (t.nano % billion) 0 = some t := by
  obtain ⟨sound, back⟩ := Calendar.ofDays_spec (t.second / secondsPerDay)
  obtain ⟨atMost, leap⟩ := leap_written t
  have low := t.proper.1
  have high := t.proper.2.1
  have here : t.second / secondsPerDay * secondsPerDay +
      ((t.second % secondsPerDay).toNat / 3600 * 3600 +
        (t.second % secondsPerDay).toNat / 60 % 60 * 60 +
        ((t.second % secondsPerDay).toNat % 60 + t.nano / billion - t.nano / billion) : Nat) =
      t.second := by
    unfold secondsPerDay
    omega
  have nano : t.nano % billion + t.nano / billion * billion = t.nano := by
    rw [Nat.mul_comm]
    exact Nat.mod_add_div _ _
  have bounds : (t.second % secondsPerDay).toNat / 3600 < 24 ∧
      (t.second % secondsPerDay).toNat / 60 % 60 < 60 ∧
      (t.second % secondsPerDay).toNat % 60 + t.nano / billion ≤ 60 := by
    unfold secondsPerDay
    omega
  simp only [compose?, sound, back, leap, here, nano]
  have within : -secondsPerDay < 0 ∧ (0 : Int) < secondsPerDay := by decide
  rw [if_pos (by simp [bounds, within, low, high]), Int.sub_zero, make_self]

theorem parse_render (t : Instant) : parse? t.render = some t := by
  obtain ⟨sound, -⟩ := Calendar.ofDays_spec (t.second / secondsPerDay)
  obtain ⟨months, days⟩ := Calendar.valid_bounds _ sound
  have leap := (leap_written t).1
  have month : (Calendar.ofDays (t.second / secondsPerDay)).month < 100 := by omega
  have day : (Calendar.ofDays (t.second / secondsPerDay)).day < 100 := by omega
  have hour : (t.second % secondsPerDay).toNat / 3600 < 100 := by
    unfold secondsPerDay
    omega
  have minute : (t.second % secondsPerDay).toNat / 60 % 60 < 100 := by omega
  have second : (t.second % secondsPerDay).toNat % 60 + t.nano / billion < 100 := by omega
  have nano := fraction_read (t.nano % billion) (Nat.mod_lt _ (by decide))
  have dash := fun n rest fits => partAfter_read '-' n rest rfl fits
  have colon := fun n rest fits => partAfter_read ':' n rest rfl fits
  have zone : offset (dropBlanks ['Z']) = some (0, []) := rfl
  have done : (dropBlanks []).isEmpty = true := rfl
  rw [parse?, render, String.toList_ofList]
  simp only [readChars, dateTimeText, List.append_assoc, List.cons_append, Option.bind_eq_bind,
    Option.bind_some, year_read, dash, colon, part_read, month, day, hour, minute, second, nano, zone,
    done, true_or, if_true]
  exact compose_parts t

end Workflow.Instant
