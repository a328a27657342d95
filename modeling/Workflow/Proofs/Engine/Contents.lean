import Workflow.Proofs.Engine.Interchange
import Workflow.Proofs.Engine.Outcome

set_option autoImplicit false

namespace Workflow

structure Rows where
  exist : Bool
  templates : List TemplateRow
  runs : List RunRow

def Tables.rows (tables : Tables) : Rows := ⟨tables.exist, tables.templates, tables.runs⟩

structure Contents where
  rows : Rows
  drawn : Nat

def World.contents (world : World Tables) : Contents := ⟨world.store.rows, world.drawn⟩

section Accesses

variable {rows : Rows} {contents : Contents} {α : Type}

theorem receive_concludes (statement : Statement) :
    Concludes Tables.rows (Tables.receive statement) rows fun _ later => later = rows := by
  rintro ⟨exist, templates, runs, applied, refusal, log⟩ same
  cases exist with
  | false => exact same
  | true =>
      rcases refusal with _ | ⟨_ | after, message⟩ <;> exact same

theorem lift_run (access : TableAccess α) (tables : Tables) :
    (Tables.lift access).run tables =
      ((access.run tables).1.mapError Error.tables, (access.run tables).2) := by
  change Tables.lift access tables = _
  rw [Tables.lift]
  rcases access.run tables with ⟨error | a, later⟩ <;> rfl

theorem lift_concludes {access : TableAccess α} {does : α → Rows → Prop}
    (concludes : Concludes Tables.rows access rows does) :
    Concludes Tables.rows (Tables.lift access) rows does := by
  intro tables same
  have ends := concludes tables same
  rw [lift_run]
  cases ran : access.run tables with
  | mk answer later =>
      rw [ran] at ends
      cases answer <;> exact ends

theorem ask_concludes {access : Access Tables α} {does : α → Rows → Prop}
    (concludes : Concludes Tables.rows access contents.rows does) :
    Concludes World.contents (Engine.ask access) contents fun a later =>
      ∃ rows, does a rows ∧ later = { contents with rows } := by
  rintro world rfl
  have ends := concludes world.store rfl
  cases ran : access.run world.store with
  | mk answer later =>
      rw [ran] at ends
      rw [Lockstep.ask_run access world ran]
      cases answer with
      | error error => exact congrArg (fun rows => { world.contents with rows }) ends
      | ok a => exact ⟨_, ends, rfl⟩

theorem told_concludes (rows : Rows) (statement : Statement) (read : Rows → α) :
    Concludes Tables.rows (do Tables.receive statement; return read (← get).rows : TableAccess α) rows
      fun a later => a = read rows ∧ later = rows := by
  refine (receive_concludes statement).write fun _ later same tables here => ?_
  subst same
  exact ⟨read tables.rows, tables, rfl, here ▸ rfl, here⟩

theorem document_concludes (answer : Except Error α) :
    Concludes Tables.rows (liftM answer : Access Tables α) rows
      fun a later => answer = .ok a ∧ later = rows := by
  intro tables same
  cases answer with
  | error error => exact same
  | ok a => exact ⟨rfl, same⟩

theorem find_template_concludes (id : Uuid) :
    Concludes Tables.rows ((Tables.repositoryOf .exact).template? id) rows fun found later =>
      (∀ template, found = some template → ∃ row,
        rows.templates.find? (·.id = id) = some row ∧ row.template = .ok template) ∧
        later = rows := by
  have told := told_concludes rows (.getTemplate id) fun rows => rows.templates.find? (·.id = id)
  refine .look (lift_concludes told) fun found held => ?_
  cases found with
  | none => exact .of_succeeds (.returned none (by simp))
  | some row =>
      refine .look (document_concludes row.template) fun template read => ?_
      refine .of_succeeds (.returned (some template) ⟨?_, rfl⟩)
      rintro _ ⟨⟩
      exact ⟨row, held.symm, read⟩

theorem find_run_concludes (id : Uuid) :
    Concludes Tables.rows ((Tables.repositoryOf .exact).run? id) rows fun found later =>
      (∀ run, found = some run → ∃ row,
        rows.runs.find? (·.id = id) = some row ∧ row.run = .ok run) ∧ later = rows := by
  have told := told_concludes rows (.getRun id) fun rows => rows.runs.find? (·.id = id)
  refine .look (lift_concludes told) fun found held => ?_
  cases found with
  | none => exact .of_succeeds (.returned none (by simp))
  | some row =>
      refine .look (document_concludes row.run) fun run read => ?_
      refine .of_succeeds (.returned (some run) ⟨?_, rfl⟩)
      rintro _ ⟨⟩
      exact ⟨row, held.symm, read⟩

theorem documents_conclude {β : Type} (read : β → Except Error α) (items : List β) :
    Concludes Tables.rows (items.mapM fun item => (liftM (read item) : Access Tables α)) rows
      fun _ later => later = rows := by
  induction items with
  | nil => exact .of_succeeds (.returned [] rfl)
  | cons item rest ih =>
      rw [List.mapM_cons]
      refine .look ((document_concludes (read item)).imp fun _ _ did => ⟨trivial, did.2⟩) fun _ _ => ?_
      refine .look (ih.imp fun _ _ did => ⟨trivial, did⟩) fun _ _ => ?_
      exact .of_succeeds (.returned _ rfl)

theorem list_templates_concludes :
    Concludes Tables.rows (Tables.repositoryOf .exact).templates rows fun _ later => later = rows := by
  have told := told_concludes rows .listTemplates fun rows =>
    sortNewest (fun row => (row.updatedAt, row.id)) rows.templates
  exact .look (lift_concludes told) fun _ _ => documents_conclude TemplateRow.template _

theorem list_runs_concludes (status : Option ProcessStatus) :
    Concludes Tables.rows ((Tables.repositoryOf .exact).runs status) rows
      fun _ later => later = rows := by
  have told := told_concludes rows (.listRuns (status.map ProcessStatus.lower)) fun rows =>
    sortNewest (fun row => (row.startAt, row.id))
      (rows.runs.filter fun row => (status.map ProcessStatus.lower).all (· = row.status))
  exact .look (lift_concludes told) fun _ _ => documents_conclude RunRow.run _

theorem write_template_concludes (template : Template) :
    Concludes Tables.rows ((Tables.repositoryOf .exact).saveTemplate template) rows fun _ later =>
      later = { rows with templates := Tables.overwriteTemplate template.row rows.templates } := by
  refine lift_concludes ((receive_concludes _).write fun _ later same tables here => ?_)
  subst same
  subst here
  exact ⟨(), _, rfl, rfl⟩

theorem write_run_concludes (run : Run) (savedAt : Instant) :
    Concludes Tables.rows ((Tables.repositoryOf .exact).saveRun run savedAt) rows fun _ later =>
      later = { rows with runs := Tables.overwriteRun (run.row savedAt) rows.runs } := by
  refine lift_concludes ((receive_concludes _).write fun _ later same tables here => ?_)
  subst same
  subst here
  exact ⟨(), _, rfl, rfl⟩

theorem delete_row_concludes (id : Uuid) :
    Concludes Tables.rows (Tables.deleteTemplate id) rows fun _ later =>
      later = { rows with templates := rows.templates.filter (·.id ≠ id) } := by
  refine .look ((receive_concludes _).imp fun _ _ same => ⟨trivial, same⟩) fun _ _ => ?_
  rintro tables rfl
  have deleted : (do
      let tables ← get
      if tables.templates.any (·.id = id) then
        set { tables with templates := tables.templates.filter (·.id ≠ id) }
      else throw .noRow : TableAccess Unit).run tables =
        if tables.templates.any (·.id = id) then
          (.ok (), { tables with templates := tables.templates.filter (·.id ≠ id) })
        else (.error .noRow, tables) := by
    refine (access_bind_ok _ _ _ _ _ rfl).trans ?_
    split <;> rfl
  rw [deleted]
  by_cases held : tables.templates.any (·.id = id)
  · rw [if_pos held]
    exact rfl
  · rw [if_neg held]

-- That there is no row to delete is an answer too.
theorem delete_template_concludes (id : Uuid) :
    Concludes Tables.rows ((Tables.repositoryOf .exact).deleteTemplate id) rows fun deleted later =>
      later = if deleted then { rows with templates := rows.templates.filter (·.id ≠ id) }
        else rows := by
  intro tables same
  have ends := delete_row_concludes id tables same
  dsimp only [Tables.repositoryOf, ExceptT.run] at ends ⊢
  cases ran : Tables.deleteTemplate id tables with
  | mk answer later =>
      rw [ran] at ends
      cases answer with
      | ok _ => exact ends
      | error fault => cases fault <;> exact ends

end Accesses

end Workflow
