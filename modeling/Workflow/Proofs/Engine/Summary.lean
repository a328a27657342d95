import Workflow.Proofs.Engine.Columns
import Workflow.Proofs.Engine.Shelved
import Workflow.Proofs.Process.Summary

set_option autoImplicit false

namespace Workflow

open Engine (Setting Answer Call)

def Run.goesOn (run : Run) : Bool := run.process.status = .active || run.process.status = .suspended

def listedOpen (runs : List Run) : List Run :=
  let listed (status : ProcessStatus) := sortNewest (fun run => (run.process.startAt, run.id))
    (runs.filter (Shelf.hasStatus (some status)))
  listed .active ++ listed .suspended

theorem going_filter (runs : List Run) {wanted listed : Run → Bool}
    (same : ∀ run, (wanted run && run.goesOn) = listed run) :
    (runs.filter Run.goesOn).filter wanted = runs.filter listed := by
  rw [List.filter_filter]
  exact List.filter_congr fun run _ => same run

theorem listed_open_perm (runs : List Run) : (listedOpen runs).Perm (runs.filter Run.goesOn) := by
  let active := Shelf.hasStatus (some .active)
  have first : (runs.filter Run.goesOn).filter active = runs.filter active :=
    going_filter runs fun run => by
      cases status : run.process.status <;> simp [active, Shelf.hasStatus, Run.goesOn, status]
  have second : (runs.filter Run.goesOn).filter (fun run => !active run) =
      runs.filter (Shelf.hasStatus (some .suspended)) :=
    going_filter runs fun run => by
      cases status : run.process.status <;> simp [active, Shelf.hasStatus, Run.goesOn, status]
  have split := List.filter_append_perm active (runs.filter Run.goesOn)
  rw [first, second] at split
  exact ((List.mergeSort_perm _ _).append (List.mergeSort_perm _ _)).trans split

theorem shelved_summary (setting : Setting) (world : World Shelf) (now : Instant) :
    (setting.shelved.performAt world now .summary).1 =
      .ok (.rows (summarize (listedOpen world.store.runs) now)) := rfl

theorem tabled_summary (setting : Setting) (world : World Tables) (exist : world.store.exist = true)
    (willing : world.store.refusal = none) (saved : List Saved)
    (rows : world.store.runs = saved.map Saved.row) (narrow : ∀ entry ∈ saved, entry.1.Narrow)
    (now : Instant) :
    (setting.tabled.performAt world now .summary).1 =
      .ok (.rows (summarize (listedOpen (saved.map fun entry => entry.1.reworded)) now)) := by
  have active := Lockstep.ask_run ((Tables.repositoryOf .exact).runs (some .active))
    { world with clock := now } (runs_run world.store exist willing (some .active) saved rows narrow)
  let told := world.store.told (.listRuns (some ProcessStatus.active.lower))
  have suspended := Lockstep.ask_run ((Tables.repositoryOf .exact).runs (some .suspended))
    { world with store := told, clock := now }
    (runs_run told exist willing (some .suspended) saved rows narrow)
  have read : setting.tabled.summary.run { world with clock := now } = (.ok _, _) :=
    (access_bind_ok _ _ _ _ _ active).trans (access_bind_ok _ _ _ _ _ suspended)
  change ((Answer.rows <$> setting.tabled.summary).run { world with clock := now }).1 = _
  rw [Lockstep.act_map_run, read]
  rfl

theorem summary_sums :
    (∀ runs now, Sums runs now (summarize runs now)) ∧
      (∀ runs others now, runs.Perm others →
        (summarize others now).map (fun row => (row.group, row.counts)) =
          (summarize runs now).map fun row => (row.group, row.counts)) ∧
      (∀ runs others now group, countsIn (summarize (runs ++ others) now) group =
        countsIn (summarize runs now) group + countsIn (summarize others now) group) ∧
      (∀ (setting : Setting) calls now, let world := setting.left calls
        (world.store.runs.map Run.id).Nodup ∧
          ∃ rows, (setting.shelved.performAt world now .summary).1 = .ok (.rows rows) ∧
            Sums (world.store.runs.filter Run.goesOn) now rows) ∧
      ∀ (setting : Setting) visits,
        Set.InjOn setting.ids (Set.Iic (setting.visited visits).drawn) →
        let world := setting.visited visits
        ∃ all, world.store.runs.mapM RunRow.run = .ok all ∧ ∀ now,
          ∃ rows, (setting.visit world { time := now, call := .summary }).1 = .ok (.rows rows) ∧
            Sums (all.filter Run.goesOn) now rows := by
  refine ⟨summarize_sums, ?_, summarize_append, ?_, ?_⟩
  · intro runs others now reordered
    exact sums_unique (summarize_sums runs now)
      (sums_perm (summarize_sums others now) reordered.symm)
  · intro setting calls now world
    exact ⟨(left_distinct setting calls).runs, _, shelved_summary setting world now,
      sums_perm (summarize_sums _ now) (listed_open_perm _)⟩
  · intro setting visits distinct world
    obtain ⟨templates, saved, held⟩ := visited_aligned setting visits distinct
    have runRows : world.store.runs = saved.map Saved.row := held.runRows
    refine ⟨saved.map fun entry => entry.1.reworded, ?_, fun now => ?_⟩
    · rw [runRows]
      exact read_all Saved.row (fun entry => entry.1.reworded) RunRow.run saved fun entry member =>
        run_row_reworded entry.1 entry.2 (held.narrow entry member)
    · have answered := tabled_summary setting
        { world with store := { world.store with refusal := none } } held.exist rfl saved runRows
        held.narrow now
      exact ⟨_, answered, sums_perm (summarize_sums _ now) (listed_open_perm _)⟩

def plainVisits : List Visit := releaseCalls.map fun call => { time := call.1, call := call.2 }

theorem plain_visited :
    numbered.visited plainVisits = (numbered.tabled.session (Engine.outset {}) releaseCalls).2 :=
  visited_session numbered releaseCalls release_portable release_apart

def laterRun : Run :=
  { releaseRun with
    process := { releaseRun.process with id := ⟨4⟩ }
    tasks := releaseRun.tasks.map fun task => { task with processId := ⟨4⟩, organization := some "QA" } }

theorem summary_sums_release :
    [releaseRun, laterRun].Perm [laterRun, releaseRun] ∧
      (summarize [laterRun, releaseRun] .epoch).map (fun row => (row.group, row.counts)) =
        (summarize [releaseRun, laterRun] .epoch).map (fun row => (row.group, row.counts)) ∧
      Set.InjOn numbered.ids (Set.Iic (numbered.visited plainVisits).drawn) ∧
      ∃ rows, (numbered.visit (numbered.visited plainVisits) { time := .epoch, call := .summary }).1 =
        .ok (.rows rows) ∧ Sums [releaseRun] .epoch rows := by
  obtain ⟨-, reordered, -, -, tables⟩ := summary_sums
  have swap : [releaseRun, laterRun].Perm [laterRun, releaseRun] := .swap _ _ _
  have agreed := session_agreed releaseCalls release_portable release_apart
  have distinct : Set.InjOn numbered.ids (Set.Iic (numbered.visited plainVisits).drawn) := by
    rw [plain_visited, agreed.coupled.drawn]
    exact release_apart
  obtain ⟨all, read, answered⟩ := tables numbered plainVisits distinct
  have kept : (numbered.shelved.session (Engine.outset {}) releaseCalls).2.store.runs =
      [releaseRun] := by cbv
  obtain ⟨saved, rows, runs⟩ := agreed.coupled.stored.runs
  rw [kept] at runs
  obtain ⟨⟨run, savedAt⟩, rfl, rfl⟩ := List.map_eq_singleton_iff.mp runs.symm
  have portable := agreed.sound.runs releaseRun (kept ▸ List.mem_singleton_self releaseRun)
  rw [plain_visited, rows, List.map_singleton, List.mapM_cons, Saved.row,
    run_row_read releaseRun savedAt portable] at read
  cases read
  exact ⟨swap, reordered _ _ .epoch swap, distinct, answered .epoch⟩

end Workflow
