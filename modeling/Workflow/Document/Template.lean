import Workflow.Document.Record
import Workflow.Graph.Basic
import Workflow.Template

set_option autoImplicit false

namespace Workflow

open Record
open Json (Outline Reading)

namespace Shape

def nodeKind : Shape NodeKind := word NodeKind.name NodeKind.ofName?

def taskType : Shape TaskType := word TaskType.name TaskType.ofName?

end Shape

def Position.record : Record Position Position :=
  Position.mk <$> required "x" Position.x Shape.double <*> required "y" Position.y Shape.double

def Node.record : Record Node Node :=
  Node.mk <$> required "id" Node.id Shape.text
    <*> required "type" Node.kind Shape.nodeKind
    <*> optional "name" Node.name Shape.text
    <*> optional "taskType" Node.taskType Shape.taskType
    <*> optional "description" Node.description Shape.text
    <*> optional "assigneeHint" Node.assigneeHint Shape.text
    <*> optional "stageLabel" Node.stageLabel Shape.text
    <*> optional "deadlineOffsetDays" Node.deadlineOffsetDays Shape.word32
    <*> optional "position" Node.position Position.record.shape

def Edge.record : Record Edge Edge :=
  Edge.mk <$> required "id" Edge.id Shape.text
    <*> required "source" Edge.source Shape.text
    <*> required "target" Edge.target Shape.text
    <*> optional "condition" Edge.condition Shape.text

def Graph.record : Record Graph Graph :=
  Graph.mk <$> withDefault [] "nodes" Graph.nodes (Shape.listOf Node.record.shape)
    <*> withDefault [] "edges" Graph.edges (Shape.listOf Edge.record.shape)

namespace Shape

def predecessorMode : Shape PredecessorMode := word PredecessorMode.name PredecessorMode.ofName?

def templateType : Shape TemplateType := word TemplateType.name TemplateType.ofName?

def visibility : Shape Visibility := word Visibility.name Visibility.ofName?

def texts? : List Json → Option (List String)
  | [] => some []
  | .text s :: rest => (texts? rest).map (s :: ·)
  | _ => none

def predecessorsOf? : Json → Option (List String)
  | .text s => some (Text.listed s)
  | .list items => (texts? items).map Text.cleaned
  | _ => none

def predecessors : Shape (List String) where
  write ids := .text (Text.joinCommas ids)
  read room o :=
    match o.json? room with
    | some json => accept (predecessorsOf? json)
    | none => .error .malformed

end Shape

def TaskTemplate.record : Record TaskTemplate TaskTemplate :=
  TaskTemplate.mk <$> required "id" TaskTemplate.id Shape.text
    <*> required "name" TaskTemplate.name Shape.text
    <*> withDefault .plain "taskType" TaskTemplate.taskType Shape.taskType
    <*> optional "stageLabel" TaskTemplate.stageLabel Shape.text
    <*> optional "description" TaskTemplate.description Shape.text
    <*> optional "assigneeHint" TaskTemplate.assigneeHint Shape.text
    <*> withDefault [] "predecessorIds" TaskTemplate.predecessorIds Shape.predecessors
    <*> withDefault .all "predecessorMode" TaskTemplate.predecessorMode Shape.predecessorMode
    <*> optional "deadlineOffsetDays" TaskTemplate.deadlineOffsetDays Shape.word32
    <*> withDefault 0 "orderHint" TaskTemplate.orderHint Shape.word32

def Shape.taskTemplates : Shape (List TaskTemplate) := listOf TaskTemplate.record.shape

def Template.record : Record Template Template :=
  Template.mk <$> required "id" Template.id Shape.uuid
    <*> required "title" Template.title Shape.text
    <*> withDefault "" "description" Template.description Shape.text
    <*> withDefault .recurring "type" Template.type Shape.templateType
    <*> required "tasks" Template.tasks Shape.taskTemplates
    <*> withDefault {} "graph" Template.graph Graph.record.shape
    <*> withDefault .everyone "visibility" Template.visibility Shape.visibility
    <*> required "createdAt" Template.createdAt Shape.time
    <*> required "updatedAt" Template.updatedAt Shape.time

def Draft.record : Record Draft Draft :=
  Draft.mk <$> nullable "id" Draft.id Shape.uuid
    <*> required "title" Draft.title Shape.text
    <*> withDefault "" "description" Draft.description Shape.text
    <*> withDefault .recurring "type" Draft.type Shape.templateType
    <*> nullable "graph" Draft.graph Graph.record.shape
    <*> nullable "tasks" Draft.tasks Shape.taskTemplates
    <*> withDefault .everyone "visibility" Draft.visibility Shape.visibility

end Workflow
