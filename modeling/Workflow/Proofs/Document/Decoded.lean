import Workflow.Proofs.Document.Run
import Workflow.Store.Row

set_option autoImplicit false

namespace Workflow

open Json (Outline Reading)

namespace Shape

variable {α : Type} {shape : Shape α} {good : α → Prop}

def Yields (shape : Shape α) (good : α → Prop) : Prop :=
  ∀ room o a, shape.read room o = .ok a → good a

theorem yields_any : shape.Yields fun _ => True := fun _ _ _ _ => trivial

theorem word32_yields : word32.Yields (· < 2 ^ 32) := by
  intro room o n read
  cases o with
  | int i =>
      by_cases within : 0 ≤ i ∧ i < 4294967296
      · simp only [word32, if_pos within] at read
        cases read
        omega
      · simp only [word32, if_neg within] at read
        cases read
  | _ => cases read

theorem optional_yields (yields : shape.Yields good) :
    shape.optional.Yields fun a => ∀ value, a = some value → good value := by
  intro room o a read value some
  subst some
  cases o with
  | null => cases read
  | _ =>
      obtain ⟨b, done, same⟩ := (bind_ok_iff _ _ _).mp read
      cases same
      exact yields room _ value done

theorem items_yield {as bs : List α} {room : Nat}
    (each : ∀ a b, shape.read room (shape.write a).outline = .ok b → good b)
    (read : readItems (shape.read room) (Json.outlineItems (as.map shape.write)) = .ok bs) :
    ∀ b ∈ bs, good b := by
  induction as generalizing bs with
  | nil =>
      cases read
      exact List.forall_mem_nil _
  | cons a rest ih =>
      obtain ⟨first, here, later⟩ := (bind_ok_iff _ _ _).mp read
      obtain ⟨others, there, same⟩ := (bind_ok_iff _ _ _).mp later
      cases same
      exact List.forall_mem_cons.mpr ⟨each a first here, ih there⟩

theorem listOf_yields {as bs : List α} {room : Nat}
    (each : ∀ room a b, shape.read room (shape.write a).outline = .ok b → good b)
    (read : (listOf shape).read room ((listOf shape).write as).outline = .ok bs) :
    ∀ b ∈ bs, good b := by
  cases room with
  | zero => cases read
  | succ room =>
      obtain ⟨items, done, same⟩ := (bind_ok_iff _ _ _).mp read
      cases same
      exact items_yield (each room) done

end Shape

namespace Record

section Fields

variable {ρ α β : Type} {room : Nat} {members : String → Option Outline}

def Gives (record : Record ρ α) (room : Nat) (members : String → Option Outline)
    (good : α → Prop) : Prop :=
  ∀ a, record.gather room members = .ok a → good a

theorem map_gives {x : Record ρ α} {g : α → β} {part : α → Prop} {good : β → Prop}
    (whole : ∀ a, part a → good (g a)) (given : x.Gives room members part) :
    (g <$> x).Gives room members good := by
  intro b gathered
  obtain ⟨a, done, same⟩ := (bind_ok_iff (x.gather room members) _ _).mp gathered
  cases same
  exact whole a (given a done)

theorem seq_gives {f : Record ρ (α → β)} {x : Record ρ α} {part : α → Prop} {good : β → Prop}
    (first : f.Gives room members fun g => ∀ a, part a → good (g a))
    (given : x.Gives room members part) : (f <*> x).Gives room members good := by
  intro b gathered
  obtain ⟨g, front, rest⟩ := (bind_ok_iff (f.gather room members) _ _).mp gathered
  obtain ⟨a, done, same⟩ := (bind_ok_iff (x.gather room members) _ _).mp rest
  cases same
  exact first g front a (given a done)

theorem field_gives {key : String} {get : ρ → β} {shape : Shape β} {absence : Absence β}
    {good : β → Prop} (yields : shape.Yields good)
    (missing : ∀ b, absence.inObject = some b → good b) :
    (field key get shape absence).Gives room members good := by
  intro b gathered
  simp only [field] at gathered
  cases under : members key with
  | some o =>
      rw [under] at gathered
      exact yields room o b gathered
  | none =>
      rw [under] at gathered
      cases absent : absence.inObject with
      | none =>
          rw [absent] at gathered
          cases gathered
      | some other =>
          rw [absent] at gathered
          cases gathered
          exact missing b absent

theorem field_under {key : String} {get : ρ → β} {shape : Shape β} {absence : Absence β}
    {good : β → Prop} {o : Outline} (under : members key = some o)
    (yields : ∀ b, shape.read room o = .ok b → good b) :
    (field key get shape absence).Gives room members good := by
  intro b gathered
  simp only [field, under] at gathered
  exact yields b gathered

theorem field_back {key : String} {get : ρ → β} {shape : Shape β} {absence : Absence β} {b : β}
    (faithful : shape.Faithful) (written : (shape.write b).depth ≤ room ∧
      members key = some (shape.write b).outline) :
    (field key get shape absence).Gives room members (· = b) := by
  refine field_under written.2 fun read done => ?_
  rw [faithful.carries b room written.1] at done
  cases done
  rfl

theorem written_under {slots : List (String × Json)} {key : String} {value : Json}
    (found : slots.lookup key = some value) : value.depth ≤ Json.depthMembers slots ∧
      find? (Json.outlineMembers slots) key = some value.outline := by
  obtain ⟨before, after, split, -⟩ := List.lookup_eq_some_iff.mp found
  refine ⟨depth_member (by simp [split] : (key, value) ∈ slots), ?_⟩
  rw [lookup_outline, found]
  rfl

theorem read_gathered {record : Record α α} {a b : α}
    (read : record.shape.read room (record.shape.write a).outline = .ok b) :
    record.gather (room - 1) (find? (Json.outlineMembers (record.write a))) = .ok b := by
  cases room with
  | zero => cases read
  | succ room =>
      obtain ⟨_, _, gathered⟩ := (bind_ok_iff _ _ _).mp read
      exact gathered

theorem decoded_gathered {record : Record α α} {a b : α}
    (read : record.shape.decode (record.shape.write a) = .ok b) :
    record.gather (Json.depthMembers (record.write a))
      (find? (Json.outlineMembers (record.write a))) = .ok b := read_gathered read

end Fields

end Record

open Record Shape

theorem any_field_gives {ρ β : Type} {key : String} {get : ρ → β} {shape : Shape β}
    {absence : Absence β} {room : Nat} {members : String → Option Outline} :
    (field key get shape absence).Gives room members fun _ => True :=
  field_gives yields_any fun _ _ => trivial

theorem task_template_read {task back : TaskTemplate} {room : Nat}
    (read : TaskTemplate.record.shape.read room (TaskTemplate.record.shape.write task).outline =
      .ok back) : back.Narrow := by
  refine (?_ : TaskTemplate.record.Gives _ _ TaskTemplate.Narrow) back (read_gathered read)
  refine seq_gives ?_ (field_gives word32_yields ?hint)
  refine seq_gives ?_ (field_gives (optional_yields word32_yields) ?offset)
  iterate 7 refine seq_gives ?_ any_field_gives
  refine map_gives ?_ any_field_gives
  · exact fun _ _ _ _ _ _ _ _ _ _ _ _ _ _ _ _ _ offset _ hint => ⟨offset, hint⟩
  case hint =>
    rintro _ ⟨⟩
    decide
  case offset =>
    rintro _ ⟨⟩ _ ⟨⟩

structure Template.Alike (template other : Template) : Prop where
  id : other.id = template.id
  title : other.title = template.title
  type : other.type = template.type
  visibility : other.visibility = template.visibility
  createdAt : other.createdAt = template.createdAt
  updatedAt : other.updatedAt = template.updatedAt

theorem template_read {template back : Template} (read : template.row.template = .ok back) :
    template.Alike back ∧ ∀ task ∈ back.tasks, task.Narrow := by
  have decoded : Template.record.shape.decode (Template.record.shape.write template) = .ok back := by
    simp only [TemplateRow.template, Template.row] at read
    split at read
    · next done => exact done.trans (congrArg Except.ok (Except.ok.inj read))
    · cases read
  refine (?_ : Template.record.Gives (Json.depthMembers (Template.record.write template))
    (find? (Json.outlineMembers (Template.record.write template))) fun back =>
      template.Alike back ∧ ∀ task ∈ back.tasks, task.Narrow) back (decoded_gathered decoded)
  refine seq_gives ?_ (field_back (b := template.updatedAt) time_faithful (written_under rfl))
  refine seq_gives ?_ (field_back (b := template.createdAt) time_faithful (written_under rfl))
  refine seq_gives ?_ (field_back (b := template.visibility)
    (word_faithful Visibility.ofName?_name) (written_under rfl))
  refine seq_gives ?_ any_field_gives
  have tasks : (Template.record.write template).lookup "tasks" =
    some (taskTemplates.write template.tasks) := rfl
  refine seq_gives ?_ (field_under (written_under tasks).2
    fun _ done => listOf_yields (fun _ _ _ => task_template_read) done)
  refine seq_gives ?_ (field_back (b := template.type)
    (word_faithful TemplateType.ofName?_name) (written_under rfl))
  refine seq_gives ?_ any_field_gives
  refine seq_gives ?_ (field_back (b := template.title) text_faithful (written_under rfl))
  refine map_gives ?_ (field_back (b := template.id) uuid_faithful (written_under rfl))
  intro id sameId title sameTitle _ _ type sameType tasks narrow _ _ visibility sameVisibility
    createdAt sameCreated updatedAt sameUpdated
  exact ⟨⟨sameId, sameTitle, sameType, sameVisibility, sameCreated, sameUpdated⟩, narrow⟩

end Workflow
