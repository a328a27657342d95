import Workflow.Store.Basic

set_option autoImplicit false

namespace Workflow

variable {α : Type} {key : α → Uuid} {entry : α}

theorem put_found (key : α → Uuid) (entry : α) (entries : List α) :
    (putEntry key entry entries).find? (key · = key entry) = some entry := by
  induction entries with
  | nil => simp [putEntry]
  | cons first rest ih =>
      by_cases same : key first = key entry
      · simp [putEntry, same]
      · simpa [putEntry, same] using ih

theorem put_elsewhere {id : Uuid} (entries : List α) (other : key entry ≠ id) :
    (putEntry key entry entries).find? (key · = id) = entries.find? (key · = id) := by
  induction entries with
  | nil => simp [putEntry, other]
  | cons first rest ih =>
      by_cases same : key first = key entry
      · rw [putEntry, if_pos same, List.find?_cons_of_neg (by simpa using other),
          List.find?_cons_of_neg (by simpa [same] using other)]
      · rw [putEntry, if_neg same, List.find?_cons, List.find?_cons, ih]

theorem mem_put {other : α} {entries : List α} (member : other ∈ putEntry key entry entries) :
    other = entry ∨ other ∈ entries := by
  induction entries with
  | nil => exact .inl (List.mem_singleton.mp member)
  | cons first rest ih =>
      by_cases same : key first = key entry
      · rw [putEntry, if_pos same, List.mem_cons] at member
        exact member.imp id (List.mem_cons_of_mem first)
      · rw [putEntry, if_neg same, List.mem_cons] at member
        rcases member with here | later
        · exact .inr (here ▸ List.mem_cons_self)
        · exact (ih later).imp id (List.mem_cons_of_mem first)

theorem put_new {entries : List α} (unused : ∀ other ∈ entries, key other ≠ key entry) :
    putEntry key entry entries = entries ++ [entry] := by
  induction entries with
  | nil => rfl
  | cons first rest ih =>
      rw [List.forall_mem_cons] at unused
      rw [putEntry, if_neg unused.1, ih unused.2]
      rfl

theorem put_in_place (key : α → Uuid) (entry : α) {old : α} {entries : List α}
    (found : entries.find? (key · = key entry) = some old) :
    ∃ before after, entries = before ++ old :: after ∧
      putEntry key entry entries = before ++ entry :: after := by
  induction entries with
  | nil => cases found
  | cons first rest ih =>
      by_cases same : key first = key entry
      · rw [List.find?_cons_of_pos (by simpa using same)] at found
        cases found
        exact ⟨[], rest, rfl, by rw [putEntry, if_pos same]; rfl⟩
      · rw [List.find?_cons_of_neg (by simpa using same)] at found
        obtain ⟨before, after, split, put⟩ := ih found
        refine ⟨first :: before, after, congrArg (first :: ·) split, ?_⟩
        rw [putEntry, if_neg same, put]
        rfl

theorem put_distinct {entries : List α} (distinct : (entries.map key).Nodup) :
    ((putEntry key entry entries).map key).Nodup := by
  cases found : entries.find? (key · = key entry) with
  | some old =>
      obtain ⟨before, after, split, put⟩ := put_in_place key entry found
      have own : key old = key entry := by simpa using List.find?_some found
      rw [split, List.map_append, List.map_cons, own] at distinct
      rw [put, List.map_append, List.map_cons]
      exact distinct
  | none =>
      have unused : ∀ other ∈ entries, key other ≠ key entry := fun other member => by
        simpa using List.find?_eq_none.mp found other member
      rw [put_new unused, List.map_append, List.map_singleton,
        (List.perm_append_singleton _ _).nodup_iff]
      refine List.nodup_cons.mpr ⟨fun again => ?_, distinct⟩
      obtain ⟨other, member, same⟩ := List.mem_map.mp again
      exact unused other member same

theorem put_over {entries : List α} {old : α} (distinct : (entries.map key).Nodup)
    (member : old ∈ entries) (own : key old = key entry) :
    putEntry key entry entries =
      entries.map fun other => if key other = key entry then entry else other := by
  induction entries with
  | nil => cases member
  | cons first rest ih =>
      rw [List.map_cons, List.nodup_cons] at distinct
      by_cases same : key first = key entry
      · have others : ∀ other ∈ rest, key other ≠ key entry := fun other listed again =>
          distinct.1 (List.mem_map.mpr ⟨other, listed, again.trans same.symm⟩)
        rw [putEntry, if_pos same, List.map_cons, if_pos same,
          List.map_congr_left fun other listed => if_neg (others other listed), List.map_id']
      · have later : old ∈ rest :=
          (List.mem_cons.mp member).resolve_left fun here => same (here ▸ own)
        rw [putEntry, if_neg same, List.map_cons, if_neg same, ih distinct.2 later]

end Workflow
