import Workflow.Proofs.Engine.Sessions
import Workflow.Proofs.Engine.Writes

set_option autoImplicit false

namespace Workflow

open Engine (Setting Answer Call)

inductive Effect (setting : Setting) (world : World Shelf) : Call → Answer → World Shelf → Prop where
  | read {call : Call} (answer : Answer) (reads : call.reads = true) :
      Effect setting world call answer world
  | add {draft : Draft} {saved : Template} (unnamed : draft.id = none)
      (own : saved.id = setting.ids world.drawn) :
      Effect setting world (.saveTemplate draft) (.template saved)
        { world with
          store := { world.store with templates := world.store.templates ++ [saved] }
          drawn := world.drawn + 1 }
  | replace {draft : Draft} {id : Uuid} {before after : List Template} {old saved : Template}
      (named : draft.id = some id) (held : world.store.templates = before ++ old :: after)
      (oldId : old.id = id) (own : saved.id = id) :
      Effect setting world (.saveTemplate draft) (.template saved)
        { world with store := { world.store with templates := before ++ saved :: after } }
  | delete {id : Uuid} {old : Template} (held : old ∈ world.store.templates) (oldId : old.id = id) :
      Effect setting world (.deleteTemplate id) .deleted
        { world with
          store := { world.store with templates := world.store.templates.filter (·.id ≠ id) } }
  | start {request : StartRequest} {template : Template} {seeds : List Seed} {started : Started}
      {events : List Event} (held : world.store.template? request.templateId = some template)
      (launched : request.launch template seeds world.clock
        (fun number => setting.ids (world.drawn + number)) = .ok (started.run, events))
      (own : started.run.id = setting.ids world.drawn) :
      Effect setting world (.start request) (.started started)
        { world with
          store := { world.store with runs := world.store.runs ++ [started.run] }
          published := world.published ++ setting.sink.recorded events
          drawn := world.drawn + (started.run.tasks.length + 1) }
  | move {id : Uuid} {move : Move} {before after : List Run} {old next : Run} {events : List Event}
      (held : world.store.runs = before ++ old :: after)
      (found : world.store.run? id = some old)
      (moved : old.apply world.clock move = .ok (next, events)) (own : next.id = id) :
      Effect setting world (.move id move) (.run next)
        { world with
          store := { world.store with runs := before ++ next :: after }
          published := world.published ++ setting.sink.recorded events }

-- No entry has the id that is drawn next.
structure Unused (setting : Setting) (world : World Shelf) : Prop where
  templates : ∀ template ∈ world.store.templates, template.id ≠ setting.ids world.drawn
  runs : ∀ run ∈ world.store.runs, run.id ≠ setting.ids world.drawn

section Operations

variable {setting : Setting} {world : World Shelf}

theorem writes_effect {call : Call} {answer : Answer} {later : World Shelf}
    (unused : Unused setting world) (writes : Writes setting world call answer later) :
    Effect setting world call answer later := by
  cases writes with
  | read answer reads => exact .read answer reads
  | create unnamed _ made =>
      have own := congrArg Template.id made
      rw [Shelf.putTemplate, put_new (own ▸ unused.templates)]
      exact .add unnamed own
  | @update draft id _ _ old saved named found _ made =>
      have own : saved.id = id := congrArg Template.id made
      obtain ⟨before, after, split, put⟩ := put_in_place Template.id saved (own ▸ found)
      rw [Shelf.putTemplate, put]
      exact .replace named split (found_key found) own
  | delete found => exact .delete (List.mem_of_find?_eq_some found) (found_key found)
  | start found _ launched =>
      have own := Run.launch_own launched
      rw [Shelf.putRun, put_new (own ▸ unused.runs)]
      exact .start found launched own
  | @move id _ old next _ found moved =>
      have own : next.id = id := (Run.move_own moved).trans (found_key found)
      obtain ⟨before, after, split, put⟩ := put_in_place Run.id next (own ▸ found)
      rw [Shelf.putRun, put]
      exact .move split found moved own

theorem perform_local (unused : Unused setting world) (call : Call) :
    match setting.shelved.perform call world with
    | (.ok answer, later) => Effect setting world call answer later
    | (.error _, later) => later = world := by
  have ends := perform_writes setting world call
  cases done : setting.shelved.perform call world with
  | mk answer later =>
      rw [done] at ends
      cases answer with
      | error error => exact ends
      | ok answer => exact writes_effect unused ends

end Operations

section Sessions

variable {setting : Setting} {world : World Shelf}

structure Drawn (setting : Setting) (world : World Shelf) : Prop where
  templates : ∀ template ∈ world.store.templates, ∃ number < world.drawn,
    template.id = setting.ids number
  runs : ∀ run ∈ world.store.runs, ∃ number < world.drawn, run.id = setting.ids number

theorem drawn_unused (drawn : Drawn setting world) (fresh : Fresh setting world) :
    Unused setting world :=
  ⟨fresh_unused drawn.templates fresh, fresh_unused drawn.runs fresh⟩

theorem replaced_drawn {α : Type} {key : α → Uuid} {before after entries : List α} {old new : α}
    (held : entries = before ++ old :: after) (own : key new = key old)
    (all : ∀ entry ∈ entries, ∃ number < world.drawn, key entry = setting.ids number) :
    ∀ entry ∈ before ++ new :: after, ∃ number < world.drawn, key entry = setting.ids number := by
  rw [held, List.forall_mem_append, List.forall_mem_cons] at all
  rw [List.forall_mem_append, List.forall_mem_cons, own]
  exact all

theorem added_drawn {α : Type} {key : α → Uuid} {entries : List α} {new : α} {later : World Shelf}
    (grown : world.drawn < later.drawn) (own : key new = setting.ids world.drawn)
    (all : ∀ entry ∈ entries, ∃ number < world.drawn, key entry = setting.ids number) :
    ∀ entry ∈ entries ++ [new], ∃ number < later.drawn, key entry = setting.ids number := by
  refine List.forall_mem_append.mpr ⟨fun entry member => ?_, ?_⟩
  · exact known_id (all entry member) grown.le
  · exact List.forall_mem_singleton.mpr ⟨world.drawn, grown, own⟩

theorem effect_drawn {call : Call} {answer : Answer} {later : World Shelf}
    (effect : Effect setting world call answer later) (drawn : Drawn setting world) :
    Drawn setting later := by
  cases effect with
  | read => exact drawn
  | add _ own =>
      refine ⟨added_drawn (Nat.lt_succ_self _) own drawn.templates, fun run member => ?_⟩
      exact known_id (drawn.runs run member) (Nat.le_succ _)
  | replace _ held oldId own =>
      exact ⟨replaced_drawn held (own.trans oldId.symm) drawn.templates, drawn.runs⟩
  | delete =>
      exact ⟨fun template member => drawn.templates template (List.mem_of_mem_filter member),
        drawn.runs⟩
  | start _ _ own =>
      refine ⟨fun template member => ?_, ?_⟩
      · exact known_id (drawn.templates template member) (Nat.le_add_right _ _)
      · exact added_drawn (Nat.lt_add_of_pos_right (Nat.succ_pos _)) own drawn.runs
  | move held found _ own =>
      exact ⟨drawn.templates, replaced_drawn held (own.trans (found_key found).symm) drawn.runs⟩

theorem session_drawn (calls : List (Instant × Call))
    (distinct : Set.InjOn setting.ids
      (Set.Iic (setting.shelved.session (Engine.outset {}) calls).2.drawn)) :
    Drawn setting (setting.shelved.session (Engine.outset {}) calls).2 := by
  induction calls using List.reverseRecOn with
  | nil => constructor <;> simp [Engine.session, Engine.outset]
  | append_singleton calls last ih =>
      obtain ⟨now, call⟩ := last
      rw [session_concat] at distinct ⊢
      have grown := perform_grows setting.shelved
        (setting.shelved.session (Engine.outset {}) calls).2 now call
      have before := ih (distinct.mono (Set.Iic_subset_Iic.mpr grown))
      have here : Drawn setting
          { (setting.shelved.session (Engine.outset {}) calls).2 with clock := now } :=
        ⟨before.templates, before.runs⟩
      have unused := drawn_unused here (fresh_of_distinct distinct grown)
      exact (answer_atomic setting _ call).keeps here fun _ _ writes =>
        effect_drawn (writes_effect unused writes) here

theorem session_unused (calls : List (Instant × Call))
    (distinct : Set.InjOn setting.ids
      (Set.Iic (setting.shelved.session (Engine.outset {}) calls).2.drawn)) :
    Unused setting (setting.shelved.session (Engine.outset {}) calls).2 :=
  drawn_unused (session_drawn calls distinct) (fresh_of_distinct distinct le_rfl)

end Sessions

section Sinks

def Engine.Setting.through (setting : Setting) (sink : Sink) : Setting := { setting with sink }

variable (setting : Setting)

-- A sink that fails has recorded the event before, and nobody waits for its answer.
theorem sinks_alike (call : Call) (world : World Shelf) :
    (setting.through .failing).shelved.perform call world =
      (setting.through .recording).shelved.perform call world := by
  cases call <;> rfl

theorem sessions_alike (calls : List (Instant × Call)) (world : World Shelf) :
    (setting.through .failing).shelved.session world calls =
      (setting.through .recording).shelved.session world calls := by
  induction calls generalizing world with
  | nil => rfl
  | cons first rest ih =>
      rw [Engine.session, Engine.session, Engine.performAt, Engine.performAt, sinks_alike]
      dsimp only
      rw [ih]

end Sinks

end Workflow
