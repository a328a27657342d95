import Workflow.Document.Record
import Workflow.Process.Basic

set_option autoImplicit false

namespace Workflow

open Record
open Json (Outline Reading)

namespace Event

structure Fields where
  process : Uuid
  task : Uuid := default
  template : String := ""
  name : String := ""
  assignee : Option String := none
  reason : Option String := none
  actor : String := ""
  stopType : String := ""
  ground : String := ""
  time : Instant := default

def processField : Record Fields Uuid := required "process_instance_id" Fields.process Shape.uuid
def taskField : Record Fields Uuid := required "task_instance_id" Fields.task Shape.uuid
def templateField : Record Fields String := required "task_template_id" Fields.template Shape.text
def nameField : Record Fields String := required "name" Fields.name Shape.text
def assigneeField : Record Fields (Option String) :=
  nullableInArray "assignee_id" Fields.assignee Shape.text
def reasonField : Record Fields (Option String) :=
  nullableInArray "reason" Fields.reason Shape.text
def actorField : Record Fields String := required "actor_id" Fields.actor Shape.text
def stopTypeField : Record Fields String := required "stop_type" Fields.stopType Shape.text
def groundField : Record Fields String := required "reason" Fields.ground Shape.text
def timeField : Record Fields Instant := required "at" Fields.time Shape.time

def variant? : String → Option (Record Fields Event)
  | "task_ready" =>
    some (taskReady <$> processField <*> taskField <*> templateField <*> nameField
      <*> assigneeField)
  | "task_completed" =>
    some (taskCompleted <$> processField <*> taskField <*> templateField <*> assigneeField
      <*> timeField)
  | "task_skipped" =>
    some (taskSkipped <$> processField <*> taskField <*> templateField <*> reasonField)
  | "instance_completed" => some (completed <$> processField <*> timeField)
  | "instance_stopped" =>
    some (stopped <$> processField <*> actorField <*> stopTypeField <*> groundField)
  | "instance_resumed" => some (resumed <$> processField <*> actorField)
  | _ => none

def tag : Event → String
  | .taskReady .. => "task_ready"
  | .taskCompleted .. => "task_completed"
  | .taskSkipped .. => "task_skipped"
  | .completed .. => "instance_completed"
  | .stopped .. => "instance_stopped"
  | .resumed .. => "instance_resumed"

def fields : Event → Fields
  | .taskReady process task template name assignee => { process, task, template, name, assignee }
  | .taskCompleted process task template assignee time =>
    { process, task, template, assignee, time }
  | .taskSkipped process task template reason => { process, task, template, reason }
  | .completed process time => { process, time }
  | .stopped process actor stopType ground => { process, actor, stopType, ground }
  | .resumed process actor => { process, actor }

def members (event : Event) : List (String × Json) :=
  match variant? event.tag with
  | some record => record.write event.fields
  | none => []

def readAs (room : Nat) (tag : Outline) (rest : Outline) : Reading Event := do
  let name ← Shape.text.read room tag
  let record ← Shape.accept (variant? name)
  record.readInside room rest

-- The whole value has to be readable before its kind is looked at.
def shape : Shape Event where
  write event := .record (("event", .text event.tag) :: event.members)
  read room o :=
    match o.json? room with
    | none => .error .malformed
    | some _ =>
      match o with
      | .list (tag :: rest) closed => readAs room tag (.list rest closed)
      | .record members closed =>
        match members.filter (·.1 = some "event") with
        | [(_, tag)] =>
          readAs room tag (.record (members.filter (·.1 ≠ some "event")) closed)
        | _ => .error .misshapen
      | _ => .error .misshapen

end Event

end Workflow
