import Workflow.Proofs.Document.Run
import Workflow.Store.Basic
import Workflow.Store.Tables

set_option autoImplicit false

namespace Workflow

structure Template.Portable (template : Template) : Prop where
  narrow : template.Narrow
  clean : CleanIds template.tasks

structure Run.Portable (run : Run) : Prop where
  narrow : run.Narrow
  clean : CleanIds run.templates

theorem template_row_reworded (template : Template) (narrow : template.Narrow) :
    template.row.template = .ok template.reworded := by
  have read := Shape.decode_carried (template_carries template narrow)
  simp only [TemplateRow.template, Template.row, read]

theorem template_row_read (template : Template) (portable : template.Portable) :
    template.row.template = .ok template := by
  rw [template_row_reworded template portable.narrow,
    (reworded_template_iff template).mpr portable.clean]

theorem run_row_reworded (run : Run) (savedAt : Instant) (narrow : run.Narrow) :
    (run.row savedAt).run = .ok run.reworded := by
  have read := Shape.decode_carried (run_carries run narrow)
  simp only [RunRow.run, Run.row, read]

theorem run_row_read (run : Run) (savedAt : Instant) (portable : run.Portable) :
    (run.row savedAt).run = .ok run := by
  rw [run_row_reworded run savedAt portable.narrow, (reworded_run_iff run).mpr portable.clean]

abbrev Saved := Run × Instant

def Saved.row (saved : Saved) : RunRow := saved.1.row saved.2

structure Stored (tables : Tables) (shelf : Shelf) : Prop where
  exist : tables.exist = true
  willing : tables.refusal = none
  templates : tables.templates = shelf.templates.map Template.row
  runs : ∃ saved : List Saved, tables.runs = saved.map Saved.row ∧ shelf.runs = saved.map (·.1)

theorem overwrite_template (template : Template) (templates : List Template)
    (kept : ∀ other, templates.find? (·.id = template.id) = some other →
      other.createdAt = template.createdAt) :
    Tables.overwriteTemplate template.row (templates.map Template.row) =
      (putEntry Template.id template templates).map Template.row := by
  induction templates with
  | nil => rfl
  | cons first rest ih =>
      by_cases same : first.id = template.id
      · have created : first.row.createdAt = template.row.createdAt := kept first (by simp [same])
        have own : first.row.id = template.row.id := same
        simp only [List.map_cons, Tables.overwriteTemplate, putEntry, if_pos same, if_pos own, created]
      · have other : ¬ first.row.id = template.row.id := same
        simp only [List.map_cons, Tables.overwriteTemplate, putEntry, if_neg same, if_neg other]
        rw [ih fun found listed => kept found (by simpa [same] using listed)]

-- What a run keeps in the columns that are not written again.
def Run.SameStart (run other : Run) : Prop :=
  other.process.templateId = run.process.templateId ∧
    other.process.startedById = run.process.startedById ∧
    other.process.startAt = run.process.startAt

theorem overwrite_run (run : Run) (savedAt : Instant) (saved : List Saved)
    (kept : ∀ other, (saved.map (·.1)).find? (·.id = run.id) = some other → run.SameStart other) :
    ∃ later : List Saved, Tables.overwriteRun (run.row savedAt) (saved.map Saved.row) =
      later.map Saved.row ∧ putEntry Run.id run (saved.map (·.1)) = later.map (·.1) := by
  induction saved with
  | nil => exact ⟨[(run, savedAt)], rfl, rfl⟩
  | cons first rest ih =>
      by_cases same : first.1.id = run.id
      · obtain ⟨template, starter, start⟩ := kept first.1 (by simp [same])
        have own : first.row.id = (run.row savedAt).id := same
        refine ⟨(run, savedAt) :: rest, ?_, ?_⟩
        · simp only [List.map_cons, Tables.overwriteRun, if_pos own]
          simp [Saved.row, Run.row, template, starter, start]
        · simp only [List.map_cons, putEntry, if_pos same]
      · have other : ¬ first.row.id = (run.row savedAt).id := same
        obtain ⟨later, rows, runs⟩ := ih fun found listed => kept found (by simpa [same] using listed)
        refine ⟨first :: later, ?_, ?_⟩
        · simp only [List.map_cons, Tables.overwriteRun, if_neg other, rows]
        · simp only [List.map_cons, putEntry, if_neg same, runs]

theorem sort_rows {α β : Type} (row : α → β) (key : α → Instant × Uuid) (rowKey : β → Instant × Uuid)
    (same : ∀ a, rowKey (row a) = key a) (items : List α) :
    sortNewest rowKey (items.map row) = (sortNewest key items).map row := by
  unfold sortNewest
  rw [List.map_mergeSort]
  intro a _ b _
  rw [same, same]

theorem read_all {m : Type → Type} [Monad m] [LawfulMonad m] {α β γ : Type} (row : α → β)
    (value : α → γ) (read : β → m γ) (items : List α)
    (each : ∀ a ∈ items, read (row a) = pure (value a)) :
    (items.map row).mapM read = pure (items.map value) := by
  induction items with
  | nil => rfl
  | cons first rest ih =>
      rw [List.forall_mem_cons] at each
      rw [List.map_cons, List.mapM_cons, each.1, pure_bind, ih each.2, pure_bind]
      rfl

theorem access_bind_ok {α β ε σ : Type} (first : ExceptT ε (StateM σ) α)
    (next : α → ExceptT ε (StateM σ) β) (state later : σ) (a : α) (done : first.run state = (.ok a, later)) :
    (first >>= next).run state = (next a).run later := by
  rw [ExceptT.run_bind]
  simp only [bind, StateT.bind, done]

structure Agree {α : Type} (tabled : Access Tables α) (shelved : Access Shelf α) (shelf : Shelf)
    (answer : Except Error α) (later : Shelf) : Prop where
  answered : shelved.run shelf = (answer, later)
  follows : ∀ tables, Stored tables shelf → ∃ last,
    tabled.run tables = (answer, last) ∧ Stored last later

def Tables.told (tables : Tables) (statement : Statement) : Tables :=
  { tables with log := (statement, false) :: tables.log }

theorem told_run {α : Type} (tables : Tables) (exist : tables.exist = true)
    (willing : tables.refusal = none) (statement : Statement) (read : Tables → α) :
    (Tables.lift do
      Tables.receive statement
      return read (← get)).run tables =
      (.ok (read (tables.told statement)), tables.told statement) := by
  cases tables
  cases exist
  cases willing
  rfl

theorem told_stored {tables : Tables} {shelf : Shelf} (stored : Stored tables shelf)
    (statement : Statement) : Stored (tables.told statement) shelf :=
  ⟨stored.exist, stored.willing, stored.templates, stored.runs⟩

section Accesses

variable {shelf : Shelf}

theorem save_template_agrees (template : Template)
    (kept : ∀ other, shelf.template? template.id = some other →
      other.createdAt = template.createdAt) :
    Agree ((Tables.repositoryOf .exact).saveTemplate template)
      (Shelf.repository.saveTemplate template) shelf (.ok ()) (shelf.putTemplate template) := by
  refine ⟨rfl, ?_⟩
  rintro ⟨_, _, runs, applied, _, log⟩ ⟨rfl, rfl, rfl, saved⟩
  exact ⟨_, rfl, rfl, rfl, overwrite_template template shelf.templates kept, saved⟩

theorem template_run (tables : Tables) (exist : tables.exist = true)
    (willing : tables.refusal = none) (id : Uuid) (template : Option Template)
    (held : tables.templates.find? (·.id = id) = template.map Template.row)
    (narrow : ∀ known ∈ template, known.Narrow) :
    ((Tables.repositoryOf .exact).template? id).run tables =
      (.ok (template.map Template.reworded), tables.told (.getTemplate id)) := by
  have asked := told_run tables exist willing (.getTemplate id)
    fun tables => tables.templates.find? (·.id = id)
  refine (access_bind_ok _ _ _ _ _ asked).trans ?_
  change _ = (Except.ok (template.map Template.reworded), tables.told (.getTemplate id))
  rw [show (tables.told (.getTemplate id)).templates.find? (·.id = id) = _ from held]
  cases template with
  | none => rfl
  | some known =>
      simp only [Option.map_some, template_row_reworded known (narrow known rfl)]
      rfl

theorem template_agrees (id : Uuid) (portable : ∀ template ∈ shelf.templates, template.Portable) :
    Agree ((Tables.repositoryOf .exact).template? id) (Shelf.repository.template? id) shelf
      (.ok (shelf.template? id)) shelf := by
  refine ⟨rfl, fun tables stored => ?_⟩
  have known (template : Template) (found : template ∈ shelf.template? id) : template.Portable :=
    portable template (List.mem_of_find?_eq_some found)
  have held : tables.templates.find? (·.id = id) = (shelf.template? id).map Template.row := by
    rw [stored.templates, List.find?_map]
    rfl
  have same : (shelf.template? id).map Template.reworded = shelf.template? id := by
    cases found : shelf.template? id with
    | none => rfl
    | some template =>
        exact congrArg some ((reworded_template_iff template).mpr (known template found).clean)
  have asked := template_run tables stored.exist stored.willing id _ held
    fun template found => (known template found).narrow
  rw [same] at asked
  exact ⟨_, asked, told_stored stored (.getTemplate id)⟩

theorem templates_agree (portable : ∀ template ∈ shelf.templates, template.Portable) :
    Agree (Tables.repositoryOf .exact).templates Shelf.repository.templates shelf
      (.ok shelf.listTemplates) shelf := by
  refine ⟨rfl, fun tables stored => ?_⟩
  have sorted : sortNewest (fun row => (row.updatedAt, row.id)) tables.templates =
      shelf.listTemplates.map Template.row := by
    rw [stored.templates]
    exact sort_rows Template.row _ _ (fun _ => rfl) shelf.templates
  have asked := told_run tables stored.exist stored.willing .listTemplates
    fun tables => sortNewest (fun row => (row.updatedAt, row.id)) tables.templates
  have read := read_all Template.row id
    (fun row => (liftM row.template : Access Tables Template)) shelf.listTemplates
    fun template member => by
      rw [template_row_read template (portable template (List.mem_mergeSort.mp member))]
      rfl
  rw [List.map_id, ← sorted] at read
  refine ⟨_, ?_, told_stored stored .listTemplates⟩
  refine (access_bind_ok _ _ _ _ _ asked).trans ?_
  exact congrArg (fun access : Access Tables _ => access.run (tables.told .listTemplates)) read

theorem delete_template_run (tables : Tables) (exist : tables.exist = true)
    (willing : tables.refusal = none) (id : Uuid) :
    ((Tables.repositoryOf .exact).deleteTemplate id).run tables =
      (.ok (tables.templates.any (·.id = id)), { tables.told (.deleteTemplate id) with
        templates := tables.templates.filter (·.id ≠ id) }) := by
  have asked : (Tables.deleteTemplate id).run tables =
      if tables.templates.any (·.id = id) then
        (.ok (), { tables.told (.deleteTemplate id) with
          templates := tables.templates.filter (·.id ≠ id) })
      else (.error .noRow, tables.told (.deleteTemplate id)) := by
    cases tables
    cases exist
    cases willing
    refine (access_bind_ok _ _ _ _ _ rfl).trans ((access_bind_ok _ _ _ _ _ rfl).trans ?_)
    split <;> rfl
  dsimp only [Tables.repositoryOf, ExceptT.run] at asked ⊢
  rw [asked]
  cases any : tables.templates.any (·.id = id) with
  | true => rfl
  | false =>
      have unmoved : tables.templates.filter (·.id ≠ id) = tables.templates := by
        refine List.filter_eq_self.mpr fun row member => ?_
        simpa using List.any_eq_false.mp any row member
      rw [unmoved]
      rfl

theorem delete_template_agrees (id : Uuid) :
    Agree ((Tables.repositoryOf .exact).deleteTemplate id) (Shelf.repository.deleteTemplate id)
      shelf (.ok (shelf.template? id).isSome) (shelf.removeTemplate id) := by
  refine ⟨rfl, fun tables stored => ?_⟩
  have any : tables.templates.any (·.id = id) = (shelf.template? id).isSome := by
    rw [stored.templates, List.any_map, Shelf.template?, Bool.eq_iff_iff, List.find?_isSome,
      List.any_eq_true]
    rfl
  have kept : tables.templates.filter (·.id ≠ id) =
      (shelf.removeTemplate id).templates.map Template.row := by
    rw [stored.templates, List.filter_map]
    rfl
  have asked := delete_template_run tables stored.exist stored.willing id
  rw [any] at asked
  exact ⟨_, asked, stored.exist, stored.willing, kept, stored.runs⟩

theorem save_run_agrees (run : Run) (savedAt : Instant)
    (kept : ∀ other, shelf.run? run.id = some other → run.SameStart other) :
    Agree ((Tables.repositoryOf .exact).saveRun run savedAt) (Shelf.repository.saveRun run savedAt)
      shelf (.ok ()) (shelf.putRun run) := by
  refine ⟨rfl, ?_⟩
  rintro ⟨_, _, _, applied, _, log⟩ ⟨rfl, rfl, rfl, saved, rfl, runs⟩
  obtain ⟨later, rows, put⟩ := overwrite_run run savedAt saved (by rwa [← runs])
  exact ⟨_, rfl, rfl, rfl, rfl, later, rows, by rw [← put, ← runs, Shelf.putRun]⟩

theorem run_run (tables : Tables) (exist : tables.exist = true) (willing : tables.refusal = none)
    (id : Uuid) (entry : Option Saved)
    (held : tables.runs.find? (·.id = id) = entry.map Saved.row)
    (narrow : ∀ known ∈ entry, known.1.Narrow) :
    ((Tables.repositoryOf .exact).run? id).run tables =
      (.ok (entry.map fun known => known.1.reworded), tables.told (.getRun id)) := by
  have asked := told_run tables exist willing (.getRun id) fun tables => tables.runs.find? (·.id = id)
  refine (access_bind_ok _ _ _ _ _ asked).trans ?_
  change _ = (Except.ok (entry.map fun known => known.1.reworded), tables.told (.getRun id))
  rw [show (tables.told (.getRun id)).runs.find? (·.id = id) = _ from held]
  cases entry with
  | none => rfl
  | some known =>
      simp only [Option.map_some, Saved.row, run_row_reworded known.1 known.2 (narrow known rfl)]
      rfl

theorem run_agrees (id : Uuid) (portable : ∀ run ∈ shelf.runs, run.Portable) :
    Agree ((Tables.repositoryOf .exact).run? id) (Shelf.repository.run? id) shelf
      (.ok (shelf.run? id)) shelf := by
  refine ⟨rfl, fun tables stored => ?_⟩
  obtain ⟨saved, rows, runs⟩ := stored.runs
  have known (entry : Saved) (found : entry ∈ saved.find? (·.1.id = id)) : entry.1.Portable :=
    portable entry.1 (runs ▸ List.mem_map_of_mem (List.mem_of_find?_eq_some found))
  have held : tables.runs.find? (·.id = id) = (saved.find? (·.1.id = id)).map Saved.row := by
    rw [rows, List.find?_map]
    rfl
  have same : ((saved.find? (·.1.id = id)).map fun entry => entry.1.reworded) = shelf.run? id := by
    rw [Shelf.run?, runs, List.find?_map]
    exact Option.map_congr fun entry found => (reworded_run_iff entry.1).mpr (known entry found).clean
  have asked := run_run tables stored.exist stored.willing id _ held
    fun entry found => (known entry found).narrow
  rw [same] at asked
  exact ⟨_, asked, told_stored stored (.getRun id)⟩

theorem status_column (status : Option ProcessStatus) (run : Run) :
    ((status.map ProcessStatus.lower).all fun column => column = run.process.status.lower) =
      Shelf.hasStatus status run := by
  cases status with
  | none => rfl
  | some status =>
      have same : status.lower = run.process.status.lower ↔ run.process.status = status := by
        constructor
        · intro column
          have back := congrArg ProcessStatus.ofLower? column
          rw [ProcessStatus.ofLower?_lower, ProcessStatus.ofLower?_lower] at back
          exact (Option.some.inj back).symm
        · intro equal
          rw [equal]
      simp [Shelf.hasStatus, same]

theorem runs_run (tables : Tables) (exist : tables.exist = true) (willing : tables.refusal = none)
    (status : Option ProcessStatus) (saved : List Saved) (rows : tables.runs = saved.map Saved.row)
    (narrow : ∀ entry ∈ saved, entry.1.Narrow) :
    ((Tables.repositoryOf .exact).runs status).run tables =
      (.ok (sortNewest (fun run => (run.process.startAt, run.id))
        ((saved.map fun entry => entry.1.reworded).filter (Shelf.hasStatus status))),
        tables.told (.listRuns (status.map ProcessStatus.lower))) := by
  let wanted := sortNewest (fun entry : Saved => (entry.1.process.startAt, entry.1.id))
    (saved.filter fun entry => Shelf.hasStatus status entry.1)
  have listed : sortNewest (fun row => (row.startAt, row.id)) (tables.runs.filter fun row =>
      (status.map ProcessStatus.lower).all (· = row.status)) = wanted.map Saved.row := by
    rw [rows, List.filter_map, List.filter_congr fun entry _ => status_column status entry.1]
    exact sort_rows Saved.row _ _ (fun _ => rfl) _
  have values : sortNewest (fun run => (run.process.startAt, run.id))
      ((saved.map fun entry => entry.1.reworded).filter (Shelf.hasStatus status)) =
        wanted.map fun entry => entry.1.reworded := by
    rw [List.filter_map]
    exact sort_rows (fun entry : Saved => entry.1.reworded) _ _ (fun _ => rfl) _
  let statement := Statement.listRuns (status.map ProcessStatus.lower)
  have asked := told_run tables exist willing statement fun tables =>
    sortNewest (fun row => (row.startAt, row.id)) (tables.runs.filter fun row =>
      (status.map ProcessStatus.lower).all (· = row.status))
  have read := read_all Saved.row (fun entry => entry.1.reworded)
    (fun row => (liftM row.run : Access Tables Run)) wanted fun entry member => by
      have held := List.mem_of_mem_filter (List.mem_mergeSort.mp member)
      rw [Saved.row, run_row_reworded entry.1 entry.2 (narrow entry held)]
      rfl
  rw [← values, ← listed] at read
  refine (access_bind_ok _ _ _ _ _ asked).trans ?_
  exact congrArg (fun access : Access Tables _ => access.run (tables.told statement)) read

theorem runs_agree (status : Option ProcessStatus) (portable : ∀ run ∈ shelf.runs, run.Portable) :
    Agree ((Tables.repositoryOf .exact).runs status) (Shelf.repository.runs status) shelf
      (.ok (shelf.listRuns status)) shelf := by
  refine ⟨rfl, fun tables stored => ?_⟩
  obtain ⟨saved, rows, runs⟩ := stored.runs
  have known (entry : Saved) (member : entry ∈ saved) : entry.1.Portable :=
    portable entry.1 (runs ▸ List.mem_map_of_mem member)
  have same : (saved.map fun entry => entry.1.reworded) = shelf.runs := by
    rw [runs]
    exact List.map_congr_left fun entry member => (reworded_run_iff entry.1).mpr (known entry member).clean
  have asked := runs_run tables stored.exist stored.willing status saved rows
    fun entry member => (known entry member).narrow
  rw [same] at asked
  exact ⟨_, asked, told_stored stored _⟩

end Accesses

end Workflow
