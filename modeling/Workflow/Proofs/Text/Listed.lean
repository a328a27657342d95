import Mathlib.Data.List.DropRight
import Workflow.Text.Basic

set_option autoImplicit false

namespace Workflow.Text

def Clean (part : String) : Prop := part ≠ "" ∧ trim part = part ∧ ',' ∉ part.toList

instance (part : String) : Decidable (Clean part) := by
  unfold Clean
  infer_instance

theorem trimChars_eq (s : List Char) : trimChars s = (dropBlanks s).rdropWhile isBlank := rfl

theorem mem_trimChars {s : List Char} {c : Char} (kept : c ∈ trimChars s) : c ∈ s :=
  (List.dropWhile_sublist isBlank).subset ((List.rdropWhile_prefix isBlank _).subset kept)

theorem dropBlanks_trimChars (s : List Char) : dropBlanks (trimChars s) = trimChars s := by
  cases found : trimChars s with
  | nil => rfl
  | cons c rest =>
      obtain ⟨cut, whole⟩ := List.rdropWhile_prefix isBlank (dropBlanks s)
      rw [← trimChars_eq, found, List.cons_append] at whole
      have again : dropBlanks (dropBlanks s) = dropBlanks s := List.dropWhile_idempotent isBlank s
      by_cases first : isBlank c
      · -- The front of the text was already free of blanks.
        have shorter := (List.dropWhile_sublist isBlank (l := rest ++ cut)).length_le
        rw [← whole, dropBlanks, List.dropWhile_cons_of_pos first] at again
        rw [again] at shorter
        exact absurd shorter (Nat.not_succ_le_self _)
      · exact List.dropWhile_cons_of_neg first

theorem trim_idempotent (s : String) : trim (trim s) = trim s := by
  have again : trimChars (trimChars s.toList) = trimChars s.toList := by
    rw [trimChars_eq, dropBlanks_trimChars, trimChars_eq, List.rdropWhile_idempotent]
  simp only [trim, String.toList_ofList, again]

theorem trim_not_blank {s : String} (given : trim s ≠ "") : blank (trim s) = false := by
  rw [← Bool.not_eq_true, ← trim_eq_empty_iff, trim_idempotent]
  exact given

section Split

variable (separator : Char)

theorem split_cons (c : Char) (rest : List Char) (other : c ≠ separator) :
    split separator (c :: rest) = (split separator rest).modifyHead (c :: ·) := by
  have different : (c == separator) = false := beq_false_of_ne other
  cases found : split separator rest with
  | nil =>
      cases rest with
      | nil => simp [split] at found
      | cons d rest => rw [split] at found; split at found <;> cases found
  | cons part parts => simp only [split, different, found, List.modifyHead_cons]

theorem split_append (first rest : List Char) (free : separator ∉ first) :
    split separator (first ++ rest) = (split separator rest).modifyHead (first ++ ·) := by
  induction first with
  | nil => exact (congrFun List.modifyHead_id _).symm
  | cons c tail ih =>
      rw [List.mem_cons, not_or] at free
      rw [List.cons_append, split_cons separator c _ (Ne.symm free.1), ih free.2,
        List.modifyHead_modifyHead]
      rfl

theorem split_free (s : List Char) : ∀ part ∈ split separator s, separator ∉ part := by
  induction s with
  | nil => simp [split]
  | cons c rest ih =>
      by_cases same : c = separator
      · simpa [split, same] using ih
      · rw [split_cons separator c rest same]
        cases found : split separator rest with
        | nil => exact List.forall_mem_nil _
        | cons part parts =>
            rw [found, List.forall_mem_cons] at ih
            refine List.forall_mem_cons.mpr ⟨fun member => ?_, ih.2⟩
            exact (List.mem_cons.mp member).elim (fun eq => same eq.symm) ih.1

theorem split_single (s : List Char) (free : separator ∉ s) : split separator s = [s] := by
  simpa [split] using split_append separator s [] free

theorem split_first (first rest : List Char) (free : separator ∉ first) :
    split separator (first ++ separator :: rest) = first :: split separator rest := by
  simpa [split] using split_append separator first (separator :: rest) free

end Split

theorem split_joinCommas (parts : List String) (some : parts ≠ [])
    (free : ∀ part ∈ parts, ',' ∉ part.toList) :
    (split ',' (joinCommas parts).toList).map String.ofList = parts := by
  induction parts with
  | nil => exact absurd rfl some
  | cons part rest ih =>
      rw [List.forall_mem_cons] at free
      cases rest with
      | nil => simp [joinCommas, split_single ',' part.toList free.1]
      | cons next parts =>
          have whole : (joinCommas (part :: next :: parts)).toList =
              part.toList ++ ',' :: (joinCommas (next :: parts)).toList := by
            simp [joinCommas]
          rw [whole, split_first ',' _ _ free.1, List.map_cons, ih (List.cons_ne_nil _ _) free.2,
            String.ofList_toList]

theorem cleaned_clean (parts : List String) (clean : ∀ part ∈ parts, Clean part) :
    cleaned parts = parts := by
  have trimmed : parts.map trim = parts :=
    (List.map_congr_left fun part member => (clean part member).2.1).trans (List.map_id parts)
  rw [cleaned, trimmed]
  exact List.filter_eq_self.mpr fun part member => by simpa using (clean part member).1

theorem listed_clean (s : String) : ∀ part ∈ listed s, Clean part := by
  intro part member
  obtain ⟨among, present⟩ := List.mem_filter.mp member
  obtain ⟨raw, found, rfl⟩ := List.mem_map.mp among
  obtain ⟨chars, piece, rfl⟩ := List.mem_map.mp found
  have free := split_free ',' s.toList chars piece
  refine ⟨by simpa using present, trim_idempotent _, fun comma => free ?_⟩
  exact mem_trimChars (by simpa [trim] using comma)

theorem listed_joinCommas_iff (parts : List String) :
    listed (joinCommas parts) = parts ↔ ∀ part ∈ parts, Clean part := by
  constructor
  · intro same
    rw [← same]
    exact listed_clean _
  · intro clean
    cases parts with
    | nil => decide
    | cons part rest =>
        rw [listed, split_joinCommas _ (List.cons_ne_nil part rest) fun id member =>
          (clean id member).2.2]
        exact cleaned_clean _ clean

end Workflow.Text
