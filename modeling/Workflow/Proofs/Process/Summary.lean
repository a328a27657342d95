import Mathlib.Data.List.Sort
import Workflow.Proofs.Basic
import Workflow.Proofs.Process.Report

set_option autoImplicit false

namespace Workflow

def countsIn (rows : List AssigneeRow) (group : Group) : Counts :=
  ((rows.find? (·.group = group)).map AssigneeRow.counts).getD 0

theorem counts_in_tallied {tasks : List Task} {now : Instant} {rows : List AssigneeRow}
    (tallied : Tallied tasks now rows) (group : Group) :
    countsIn rows group = Counts.of (tasks.filter (·.group = group)) now := by
  rw [countsIn]
  cases found : rows.find? (·.group = group) with
  | none =>
      have missing : group ∉ rows.map AssigneeRow.group := by
        rintro held
        obtain ⟨row, member, own⟩ := List.mem_map.mp held
        exact List.find?_eq_none.mp found row member (decide_eq_true own)
      have absent := AssigneeRow.of_absent now (mt (tallied.groups group).mpr missing)
      exact (congrArg AssigneeRow.counts absent).symm
  | some row =>
      have own : row.group = group := found_key found
      have tallied := tallied.own row (List.mem_of_find?_eq_some found)
      rw [own] at tallied
      exact congrArg AssigneeRow.counts tallied

theorem counts_in_report (run : Run) (now : Instant) (group : Group) :
    countsIn (run.report now).rows group =
      Counts.of (run.tasks.filter (·.group = group)) now := by
  rw [report_rows]
  exact counts_in_tallied (run_tallied run.tasks now) group

theorem counts_of_runs (runs : List Run) (now : Instant) (group : Group) :
    Counts.of ((runs.flatMap Run.tasks).filter (·.group = group)) now =
      (runs.map fun run => countsIn (run.report now).rows group).sum := by
  induction runs with
  | nil => rfl
  | cons run rest ih =>
      rw [List.flatMap_cons, List.filter_append, Counts.of_append, ih, List.map_cons, List.sum_cons,
        counts_in_report]

structure Sums (runs : List Run) (now : Instant) (rows : List AssigneeRow) : Prop where
  ordered : (rows.map fun row => row.group.key).Pairwise (· < ·)
  groups (group : Group) :
    group ∈ rows.map AssigneeRow.group ↔ ∃ run ∈ runs, group ∈ run.tasks.map Task.group
  counts : ∀ row ∈ rows,
    row.counts = (runs.map fun run => countsIn (run.report now).rows row.group).sum

theorem summarize_sums (runs : List Run) (now : Instant) : Sums runs now (summarize runs now) := by
  have tallied := summarize_tallied runs now
  refine ⟨List.pairwise_map.mpr tallied.ordered, fun group => ?_, fun row member => ?_⟩
  · rw [tallied.groups, List.map_flatMap, List.mem_flatMap]
  · rw [← counts_of_runs]
    exact congrArg AssigneeRow.counts (tallied.own row member)

theorem sums_perm {runs others : List Run} {now : Instant} {rows : List AssigneeRow}
    (sums : Sums runs now rows) (reordered : runs.Perm others) : Sums others now rows := by
  refine ⟨sums.ordered, fun group => ?_, fun row member => ?_⟩
  · simp only [sums.groups, reordered.mem_iff]
  · rw [sums.counts row member]
    exact (reordered.map _).sum_eq

theorem sums_groups {runs : List Run} {now : Instant} {rows others : List AssigneeRow}
    (sums : Sums runs now rows) (again : Sums runs now others) :
    others.map AssigneeRow.group = rows.map AssigneeRow.group := by
  apply List.map_injective_iff.mpr key_injective
  have ordered := sums.ordered
  have turned := again.ordered
  rw [← Function.comp_def Group.key AssigneeRow.group, ← List.map_map] at ordered turned
  refine List.SortedLT.eq_of_mem_iff turned.sortedLT ordered.sortedLT fun key => ?_
  simp only [List.mem_map (f := Group.key), sums.groups, again.groups]

theorem sums_unique {runs : List Run} {now : Instant} {rows others : List AssigneeRow}
    (sums : Sums runs now rows) (again : Sums runs now others) :
    others.map (fun row => (row.group, row.counts)) = rows.map fun row => (row.group, row.counts) := by
  let counted (group : Group) :=
    (group, (runs.map fun run => countsIn (run.report now).rows group).sum)
  have read {rows : List AssigneeRow} (sums : Sums runs now rows) :
      rows.map (fun row => (row.group, row.counts)) = (rows.map AssigneeRow.group).map counted := by
    rw [List.map_map]
    exact List.map_congr_left fun row member => congrArg (row.group, ·) (sums.counts row member)
  rw [read again, read sums, sums_groups sums again]

theorem summarize_append (runs others : List Run) (now : Instant) (group : Group) :
    countsIn (summarize (runs ++ others) now) group =
      countsIn (summarize runs now) group + countsIn (summarize others now) group := by
  rw [counts_in_tallied (summarize_tallied _ now), counts_in_tallied (summarize_tallied _ now),
    counts_in_tallied (summarize_tallied _ now), List.flatMap_append, List.filter_append,
    Counts.of_append]

end Workflow
