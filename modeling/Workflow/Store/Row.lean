import Workflow.Document.Run
import Workflow.Error

set_option autoImplicit false

namespace Workflow

structure TemplateRow where
  id : Uuid
  title : String
  templateType : String
  visibility : String
  document : Json
  createdAt : Instant
  updatedAt : Instant

structure RunRow where
  id : Uuid
  templateId : Uuid
  title : String
  status : String
  startedById : String
  startAt : Instant
  document : Json
  updatedAt : Instant

open Record

def TemplateRow.record : Record TemplateRow TemplateRow :=
  TemplateRow.mk <$> required "id" TemplateRow.id Shape.uuid
    <*> required "title" TemplateRow.title Shape.text
    <*> required "template_type" TemplateRow.templateType Shape.text
    <*> required "visibility" TemplateRow.visibility Shape.text
    <*> required "document" TemplateRow.document Shape.any
    <*> required "created_at" TemplateRow.createdAt Shape.time
    <*> required "updated_at" TemplateRow.updatedAt Shape.time

def RunRow.record : Record RunRow RunRow :=
  RunRow.mk <$> required "id" RunRow.id Shape.uuid
    <*> required "template_id" RunRow.templateId Shape.uuid
    <*> required "title" RunRow.title Shape.text
    <*> required "status" RunRow.status Shape.text
    <*> required "started_by_id" RunRow.startedById Shape.text
    <*> required "start_at" RunRow.startAt Shape.time
    <*> required "document" RunRow.document Shape.any
    <*> required "updated_at" RunRow.updatedAt Shape.time

def Template.row (template : Template) : TemplateRow where
  id := template.id
  title := template.title
  templateType := template.type.lower
  visibility := template.visibility.lower
  document := Template.record.shape.write template
  createdAt := template.createdAt
  updatedAt := template.updatedAt

def Run.row (run : Run) (savedAt : Instant) : RunRow where
  id := run.process.id
  templateId := run.process.templateId
  title := run.process.title
  status := run.process.status.lower
  startedById := run.process.startedById
  startAt := run.process.startAt
  document := Run.record.shape.write run
  updatedAt := savedAt

-- Only the document counts.
def TemplateRow.template (row : TemplateRow) : Except Error Template :=
  match Template.record.shape.decode row.document with
  | .ok template => .ok template
  | .error _ => .error .document

def RunRow.run (row : RunRow) : Except Error Run :=
  match Run.record.shape.decode row.document with
  | .ok run => .ok run
  | .error _ => .error .document

end Workflow
