import Workflow.Proofs.Process.Tally

set_option autoImplicit false

namespace Workflow

structure Grouped (rows : List AssigneeRow) (parts : List OrganizationRows) : Prop where
  whole : parts.flatMap OrganizationRows.assignees = rows
  ordered : parts.Pairwise fun a b => rank a.organization < rank b.organization
  filled : ∀ part ∈ parts, part.assignees ≠ []
  own : ∀ part ∈ parts, ∀ row ∈ part.assignees, row.group.organization = part.organization

theorem organizations_rise {a b : Group} (less : a.key < b.key) :
    rank a.organization ≤ rank b.organization := by
  rcases Prod.Lex.toLex_lt_toLex.mp less with before | ⟨same, -⟩
  · exact le_of_lt before
  · exact le_of_eq same

theorem assignees_rise {a b : Group} (less : a.key < b.key) (same : a.organization = b.organization) :
    rank a.assignee < rank b.assignee := by
  rcases Prod.Lex.toLex_lt_toLex.mp less with before | ⟨-, after⟩
  · exact absurd (congrArg rank same) (ne_of_lt before)
  · exact after

theorem grouped_below {rows : List AssigneeRow} {parts : List OrganizationRows}
    (grouped : Grouped rows parts) (row : AssigneeRow)
    (least : ∀ other ∈ rows, other.group.key < row.group.key) (part : OrganizationRows)
    (member : part ∈ parts) : rank part.organization ≤ rank row.group.organization := by
  obtain ⟨other, held⟩ := List.exists_mem_of_ne_nil _ (grouped.filled part member)
  have among : other ∈ rows := grouped.whole ▸ List.mem_flatMap.mpr ⟨part, member, held⟩
  rw [← grouped.own part member other held]
  exact organizations_rise (least other among)

theorem grouped_concat_iff (rows : List AssigneeRow) (parts : List OrganizationRows)
    (last : OrganizationRows) : Grouped rows (parts ++ [last]) ↔
      ∃ before, before ++ last.assignees = rows ∧ Grouped before parts ∧
        (∀ part ∈ parts, rank part.organization < rank last.organization) ∧
        last.assignees ≠ [] ∧ ∀ row ∈ last.assignees, row.group.organization = last.organization := by
  constructor
  · rintro ⟨whole, ordered, filled, own⟩
    obtain ⟨first, -, between⟩ := List.pairwise_append.mp ordered
    rw [List.forall_mem_append, List.forall_mem_singleton] at filled own
    rw [List.flatMap_append, List.flatMap_singleton] at whole
    exact ⟨_, whole, ⟨rfl, first, filled.1, own.1⟩,
      fun part member => between part member last (List.mem_singleton_self last), filled.2, own.2⟩
  · rintro ⟨before, whole, grouped, less, filled, own⟩
    refine ⟨?_, List.pairwise_append.mpr ⟨grouped.ordered, List.pairwise_singleton _ _, ?_⟩, ?_, ?_⟩
    · rw [List.flatMap_append, List.flatMap_singleton, grouped.whole, whole]
    · exact fun part member => List.forall_mem_singleton.mpr (less part member)
    · exact List.forall_mem_append.mpr ⟨grouped.filled, List.forall_mem_singleton.mpr filled⟩
    · exact List.forall_mem_append.mpr ⟨grouped.own, List.forall_mem_singleton.mpr own⟩

theorem grouped_begun {rows : List AssigneeRow} {parts : List OrganizationRows}
    (grouped : Grouped rows parts) (row : AssigneeRow)
    (less : ∀ part ∈ parts, rank part.organization < rank row.group.organization) :
    Grouped (rows ++ [row]) (parts ++ [⟨row.group.organization, [row]⟩]) :=
  (grouped_concat_iff _ _ _).mpr ⟨rows, rfl, grouped, less, List.cons_ne_nil _ _,
    List.forall_mem_singleton.mpr rfl⟩

-- The last organization is the greatest, so no other one may be that of a later row.
theorem place_row_grouped {rows : List AssigneeRow} {parts : List OrganizationRows}
    (grouped : Grouped rows parts) (row : AssigneeRow)
    (least : ∀ other ∈ rows, other.group.key < row.group.key) :
    Grouped (rows ++ [row]) (placeRow parts row) := by
  cases parts using List.reverseRecOn with
  | nil => exact grouped_begun grouped row (List.forall_mem_nil _)
  | append_singleton parts last =>
      have below := grouped_below grouped row least
      rw [List.forall_mem_append, List.forall_mem_singleton] at below
      obtain ⟨before, whole, first, less, filled, own⟩ := (grouped_concat_iff _ _ _).mp grouped
      rw [placeRow, List.getLast?_concat]
      dsimp only
      by_cases same : last.organization = row.group.organization
      · rw [if_pos same, List.dropLast_concat]
        refine (grouped_concat_iff _ _ _).mpr ⟨before, ?_, first, less, ?_, ?_⟩
        · rw [← whole, List.append_assoc]
        · exact List.append_ne_nil_of_left_ne_nil filled _
        · exact List.forall_mem_append.mpr ⟨own, List.forall_mem_singleton.mpr same.symm⟩
      · rw [if_neg same]
        have greater : rank last.organization < rank row.group.organization :=
          lt_of_le_of_ne below.2 same
        refine grouped_begun grouped row (List.forall_mem_append.mpr ⟨?_, ?_⟩)
        · exact fun part member => (less part member).trans greater
        · exact List.forall_mem_singleton.mpr greater

theorem by_organization_grouped (rows : List AssigneeRow) (ordered : InOrder rows) :
    Grouped rows (byOrganization rows) := by
  induction rows using List.reverseRecOn with
  | nil => exact ⟨rfl, .nil, List.forall_mem_nil _, List.forall_mem_nil _⟩
  | append_singleton rows row ih =>
      obtain ⟨before, -, between⟩ := List.pairwise_append.mp ordered
      rw [byOrganization, List.foldl_append]
      exact place_row_grouped (ih before) row fun other member =>
        between other member row (List.mem_singleton_self row)

def Report.rows (report : Report) : List AssigneeRow :=
  report.organizations.flatMap OrganizationRows.assignees

theorem report_rows (run : Run) (now : Instant) :
    (run.report now).rows = recordTasks now [] run.tasks :=
  (by_organization_grouped _ (run_tallied run.tasks now).ordered).whole

structure Partitions (run : Run) (now : Instant) (report : Report) : Prop where
  -- The groups are those that occur: each organization once, each of its assignees once, all in order.
  groups (group : Group) :
    group ∈ report.rows.map AssigneeRow.group ↔ group ∈ run.tasks.map Task.group
  organizations : (report.organizations.map fun part => rank part.organization).Pairwise (· < ·)
  assignees : ∀ part ∈ report.organizations,
    (part.assignees.map fun row => rank row.group.assignee).Pairwise (· < ·)
  filled : ∀ part ∈ report.organizations, part.assignees ≠ []
  own : ∀ part ∈ report.organizations, ∀ row ∈ part.assignees,
    row.group.organization = part.organization
  -- A row counts the tasks of its group and has the first name among them. All add up to the totals.
  counts : ∀ row ∈ report.rows,
    row.counts = Counts.of (run.tasks.filter (·.group = row.group)) now
  names : ∀ row ∈ report.rows,
    row.name = (run.tasks.filter (·.group = row.group)).findSome? Task.assigneeName
  totals : report.counts = Counts.of run.tasks now
  sum : report.counts = (report.rows.map AssigneeRow.counts).sum
  balanced : ∀ counts ∈ report.counts :: report.rows.map AssigneeRow.counts, counts.Balanced
  late : report.counts.overdue = run.tasks.countP fun task => task.Late now
  lateOwn : ∀ row ∈ report.rows, row.counts.overdue =
    (run.tasks.filter (·.group = row.group)).countP fun task => task.Late now
  allTerminal : report.allTerminal = true ↔
    report.counts.completed + report.counts.skipped = report.counts.total
  delayed : report.delayed = true ↔ 0 < report.counts.overdue ∨
    run.process.status = .active ∧ ∃ time, run.process.expectedEndAt = some time ∧ time < now

theorem delayed_iff (process : Process) (tasks : List Task) (now : Instant) :
    process.delayed tasks now = true ↔ 0 < (Counts.of tasks now).overdue ∨
      process.status = .active ∧ ∃ time, process.expectedEndAt = some time ∧ time < now := by
  rw [Process.delayed, Bool.or_eq_true, Bool.and_eq_true, decide_eq_true_iff, past_iff, List.any_eq_true,
    Counts.of, List.countP_pos_iff]
  exact or_comm

theorem terminal_count (tasks : List Task) (now : Instant) :
    (Counts.of tasks now).completed + (Counts.of tasks now).skipped =
      tasks.countP (·.status.terminal) := by
  induction tasks with
  | nil => rfl
  | cons task rest ih =>
      have first : (if task.status = .completed then 1 else 0) +
          (if task.status = .skipped then 1 else 0) = if task.status.terminal then 1 else 0 := by
        cases task.status <;> rfl
      simp only [Counts.of, List.countP_cons, decide_eq_true_eq] at ih ⊢
      rw [← ih, ← first, Nat.add_add_add_comm]

theorem all_terminal_count (run : Run) (now : Instant) : run.allTerminal = true ↔
    (Counts.of run.tasks now).completed + (Counts.of run.tasks now).skipped =
      (Counts.of run.tasks now).total := by
  rw [terminal_count, Run.allTerminal, List.all_eq_true]
  exact List.countP_eq_length.symm

theorem report_partitions (run : Run) (now : Instant) : Partitions run now (run.report now) := by
  have tallied := run_tallied run.tasks now
  have grouped := by_organization_grouped _ tallied.ordered
  have whole := report_rows run now
  have sum : (run.report now).counts = ((run.report now).rows.map AssigneeRow.counts).sum := by
    rw [whole, List.sum_eq_foldl, List.foldl_map]
    rfl
  have totals : (run.report now).counts = Counts.of run.tasks now := by
    rw [sum, whole, tallied.sum]
  have counts : ∀ row ∈ (run.report now).rows,
      row.counts = Counts.of (run.tasks.filter (·.group = row.group)) now := by
    intro row member
    exact congrArg AssigneeRow.counts (tallied.own row (whole ▸ member))
  exact {
    groups := whole ▸ tallied.groups
    organizations := List.pairwise_map.mpr grouped.ordered
    assignees := fun part member => by
      have within : part.assignees.Sublist (recordTasks now [] run.tasks) :=
        grouped.whole ▸ List.sublist_flatten_of_mem (List.mem_map_of_mem member)
      refine List.pairwise_map.mpr ((tallied.ordered.sublist within).imp_of_mem ?_)
      intro a b first second less
      exact assignees_rise less
        ((grouped.own part member a first).trans (grouped.own part member b second).symm)
    filled := grouped.filled
    own := grouped.own
    counts
    names := fun row member => congrArg AssigneeRow.name (tallied.own row (whole ▸ member))
    totals
    sum
    balanced := List.forall_mem_cons.mpr ⟨totals ▸ Counts.of_balanced run.tasks now,
      List.forall_mem_map.mpr fun row member =>
        counts row member ▸ Counts.of_balanced _ now⟩
    late := totals ▸ Counts.of_overdue run.tasks now
    lateOwn := fun row member => counts row member ▸ Counts.of_overdue _ now
    allTerminal := totals ▸ all_terminal_count run now
    delayed := totals ▸ delayed_iff run.process run.tasks now }

end Workflow
