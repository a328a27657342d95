import Workflow.Proofs.Engine.Formed
import Workflow.Proofs.Engine.Sessions

set_option autoImplicit false

namespace Workflow

open Engine (Setting Answer Call)

def Engine.Setting.left (setting : Setting) (calls : List (Instant × Call)) : World Shelf :=
  (setting.shelved.session (Engine.outset {}) calls).2

-- Some call began it, and it has been so after each call from that one on.
def Since (setting : Setting) (begins : World Shelf → Instant × Call → Prop) (holds : Shelf → Prop)
    (calls : List (Instant × Call)) : Prop :=
  ∃ before call after, calls = before ++ call :: after ∧ begins (setting.left before) call ∧
    ∀ middle, middle <+: after → holds (setting.left (before ++ call :: middle)).store

def Creates (setting : Setting) (id : Uuid) (createdAt : Instant) (world : World Shelf)
    (call : Instant × Call) : Prop :=
  ∃ draft created, call = (createdAt, .saveTemplate draft) ∧ draft.id = none ∧
    (setting.shelved.performAt world createdAt (.saveTemplate draft)).1 = .ok (.template created) ∧
    created.id = id

def Starts (setting : Setting) (id templateId : Uuid) (tasks : List TaskTemplate)
    (world : World Shelf) (call : Instant × Call) : Prop :=
  ∃ now request template started, call = (now, .start request) ∧
    world.store.template? templateId = some template ∧ template.tasks = tasks ∧
    (setting.shelved.performAt world now (.start request)).1 = .ok (.started started) ∧
    started.run.id = id

structure Template.Stored (setting : Setting) (calls : List (Instant × Call)) (template : Template) :
    Prop where
  formed : template.Formed
  since : Since setting (Creates setting template.id template.createdAt)
    (fun shelf => ∃ kept ∈ shelf.templates,
      kept.id = template.id ∧ kept.createdAt = template.createdAt) calls

structure Run.Stored (setting : Setting) (calls : List (Instant × Call)) (run : Run) : Prop where
  formed : run.Formed
  since : Since setting (Starts setting run.id run.process.templateId run.templates)
    (fun shelf => ∃ kept ∈ shelf.runs, kept.id = run.id ∧ kept.templates = run.templates) calls

section Calls

variable {setting : Setting} {calls : List (Instant × Call)} {call : Instant × Call}
  {begins : World Shelf → Instant × Call → Prop} {holds : Shelf → Prop}

theorem left_concat (setting : Setting) (calls : List (Instant × Call)) (call : Instant × Call) :
    setting.left (calls ++ [call]) =
      (setting.shelved.performAt (setting.left calls) call.1 call.2).2 :=
  congrArg Prod.snd (session_concat setting.shelved _ calls call.1 call.2)

theorem since_now (begun : begins (setting.left calls) call)
    (held : holds (setting.left (calls ++ [call])).store) :
    Since setting begins holds (calls ++ [call]) := by
  refine ⟨calls, call, [], rfl, begun, fun middle within => ?_⟩
  rw [List.prefix_nil.mp within]
  exact held

theorem since_still (since : Since setting begins holds calls)
    (held : holds (setting.left (calls ++ [call])).store) :
    Since setting begins holds (calls ++ [call]) := by
  obtain ⟨before, first, after, split, begun, lasting⟩ := since
  refine ⟨before, first, after ++ [call], by simp [split], begun, fun middle within => ?_⟩
  rcases List.prefix_concat_iff.mp within with whole | earlier
  · have ends : before ++ first :: middle = calls ++ [call] := by simp [whole, split]
    exact ends ▸ held
  · exact lasting middle earlier

end Calls

section Steps

variable {setting : Setting} {world later : World Shelf} {call : Call} {answer : Answer}

theorem writes_template (writes : Writes setting world call answer later) (template : Template)
    (member : template ∈ later.store.templates) :
    (∃ old ∈ world.store.templates, template.id = old.id ∧ template.createdAt = old.createdAt ∧
      (old.Formed → template.Formed)) ∨
      template.Formed ∧ template.createdAt = world.clock ∧ answer = .template template ∧
        ∃ draft, call = .saveTemplate draft ∧ draft.id = none := by
  cases writes with
  | read | start | move => exact .inl ⟨template, member, rfl, rfl, id⟩
  | @create draft _ _ _ unnamed accepted made =>
      rcases mem_put member with same | before
      · subst made same
        exact .inr ⟨draft_formed accepted _ _ _, rfl, rfl, draft, rfl, unnamed⟩
      · exact .inl ⟨template, before, rfl, rfl, id⟩
  | update named found accepted made =>
      rcases mem_put member with same | before
      · subst made same
        exact .inl ⟨_, List.mem_of_find?_eq_some found, (found_key found).symm, rfl,
          fun _ => draft_formed accepted _ _ _⟩
      · exact .inl ⟨template, before, rfl, rfl, id⟩
  | delete => exact .inl ⟨template, List.mem_of_mem_filter member, rfl, rfl, id⟩

theorem writes_run (writes : Writes setting world call answer later)
    (sound : ∀ template ∈ world.store.templates, template.Formed) (run : Run)
    (member : run ∈ later.store.runs) :
    (∃ old ∈ world.store.runs, run.id = old.id ∧ run.templates = old.templates ∧
      run.process.templateId = old.process.templateId ∧ (old.Formed → run.Formed)) ∨
      run.Formed ∧ ∃ request template started, call = .start request ∧
        answer = .started started ∧ started.run = run ∧
        world.store.template? run.process.templateId = some template ∧
        template.tasks = run.templates := by
  cases writes with
  | read | create | update | delete => exact .inl ⟨run, member, rfl, rfl, rfl, id⟩
  | @start request template _ started _ found accepted launched =>
      rcases mem_put member with same | before
      · subst same
        have held := sound template (List.mem_of_find?_eq_some found)
        obtain ⟨_, _, rest⟩ := (bind_ok_iff _ _ _).mp launched
        obtain ⟨templates, process⟩ := Run.launch_templates rest
        have own : started.run.process.templateId = template.id := by rw [process]; rfl
        rw [own, found_key found]
        exact .inr ⟨Run.launch_formed launched (request_tasked accepted) held.accepted,
          request, template, started, rfl, rfl, rfl, found, templates.symm⟩
      · exact .inl ⟨run, before, rfl, rfl, rfl, id⟩
  | @move _ _ old _ _ found moved =>
      rcases mem_put member with same | before
      · subst same
        have made := (old.apply_ok_iff _ _ _).mp moved
        exact .inl ⟨old, List.mem_of_find?_eq_some found, Run.move_own moved,
          old.makes_templates _ _ _ made, congrArg (·.2.1) (Run.makes_origin made),
          Run.move_formed moved⟩
      · exact .inl ⟨run, before, rfl, rfl, rfl, id⟩

end Steps

section Sessions

variable {setting : Setting} {calls : List (Instant × Call)} {call : Instant × Call}

theorem template_kept {old template : Template} (stored : old.Stored setting calls)
    (member : template ∈ (setting.left (calls ++ [call])).store.templates)
    (id : template.id = old.id) (createdAt : template.createdAt = old.createdAt)
    (formed : old.Formed → template.Formed) : template.Stored setting (calls ++ [call]) := by
  refine ⟨formed stored.formed, ?_⟩
  rw [id, createdAt]
  exact since_still stored.since ⟨template, member, id, createdAt⟩

theorem run_kept {old run : Run} (stored : old.Stored setting calls)
    (member : run ∈ (setting.left (calls ++ [call])).store.runs) (id : run.id = old.id)
    (templates : run.templates = old.templates)
    (templateId : run.process.templateId = old.process.templateId)
    (formed : old.Formed → run.Formed) : run.Stored setting (calls ++ [call]) := by
  refine ⟨formed stored.formed, ?_⟩
  rw [id, templates, templateId]
  exact since_still stored.since ⟨run, member, id, templates⟩

theorem step_stored
    (templates : ∀ template ∈ (setting.left calls).store.templates, template.Stored setting calls)
    (runs : ∀ run ∈ (setting.left calls).store.runs, run.Stored setting calls)
    (call : Instant × Call) :
    let later := (setting.left (calls ++ [call])).store
    (∀ template ∈ later.templates, template.Stored setting (calls ++ [call])) ∧
      ∀ run ∈ later.runs, run.Stored setting (calls ++ [call]) := by
  obtain ⟨now, call⟩ := call
  have writes := perform_writes setting { setting.left calls with clock := now } call
  have left := left_concat setting calls (now, call)
  rw [Engine.performAt] at left
  cases done : setting.shelved.perform call { setting.left calls with clock := now } with
  | mk answer later =>
      rw [done] at writes left
      dsimp only at left
      cases answer with
      | error error =>
          have same : (setting.left (calls ++ [(now, call)])).store = (setting.left calls).store := by
            rw [left, (writes : later = _)]
          refine ⟨fun template member => ?_, fun run member => ?_⟩
          · exact template_kept (templates template (same ▸ member)) member rfl rfl id
          · exact run_kept (runs run (same ▸ member)) member rfl rfl rfl id
      | ok answer =>
          have answered : (setting.shelved.performAt (setting.left calls) now call).1 = .ok answer :=
            congrArg Prod.fst done
          refine ⟨fun template member => ?_, fun run member => ?_⟩
          · rcases writes_template writes template (left ▸ member) with
              ⟨old, before, id, createdAt, formed⟩ | ⟨formed, time, told, draft, asked, unnamed⟩
            · exact template_kept (templates old before) member id createdAt formed
            · refine ⟨formed, since_now ⟨draft, template, ?_, unnamed, ?_, rfl⟩
                ⟨template, member, rfl, rfl⟩⟩
              · rw [time, asked]
              · rw [time, ← asked, answered, told]
          · rcases writes_run writes (fun template member => (templates template member).formed) run
                (left ▸ member) with
              ⟨old, before, id, same, templateId, formed⟩ |
                ⟨formed, request, template, started, asked, told, own, found, tasks⟩
            · exact run_kept (runs old before) member id same templateId formed
            · refine ⟨formed, since_now ⟨now, request, template, started, ?_, found, tasks, ?_, ?_⟩
                ⟨run, member, rfl, rfl⟩⟩
              · rw [asked]
              · rw [← asked, answered, told]
              · rw [own]

theorem stored_formed (setting : Setting) (calls : List (Instant × Call)) :
    (∀ template ∈ (setting.left calls).store.templates, template.Stored setting calls) ∧
      ∀ run ∈ (setting.left calls).store.runs, run.Stored setting calls := by
  induction calls using List.reverseRecOn with
  | nil => constructor <;> simp [Engine.Setting.left, Engine.session, Engine.outset]
  | append_singleton calls call ih => exact step_stored ih.1 ih.2 call

end Sessions

end Workflow
