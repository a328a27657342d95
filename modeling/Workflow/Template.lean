import Workflow.Graph.Basic
import Workflow.Task.Template
import Workflow.Time.Instant
import Workflow.Uuid

set_option autoImplicit false

namespace Workflow

inductive TemplateType where
  | recurring
  | project
deriving DecidableEq, Repr

namespace TemplateType

def name : TemplateType → String
  | .recurring => "RECURRING"
  | .project => "PROJECT"

def ofName? : String → Option TemplateType
  | "RECURRING" => some .recurring
  | "PROJECT" => some .project
  | _ => none

def lower : TemplateType → String
  | .recurring => "recurring"
  | .project => "project"

theorem ofName?_name (type : TemplateType) : ofName? type.name = some type := by
  cases type <;> rfl

end TemplateType

inductive Visibility where
  | everyone
  | restricted
deriving DecidableEq, Repr

namespace Visibility

def name : Visibility → String
  | .everyone => "PUBLIC"
  | .restricted => "PRIVATE"

def ofName? : String → Option Visibility
  | "PUBLIC" => some .everyone
  | "PRIVATE" => some .restricted
  | _ => none

def lower : Visibility → String
  | .everyone => "public"
  | .restricted => "private"

theorem ofName?_name (visibility : Visibility) : ofName? visibility.name = some visibility := by
  cases visibility <;> rfl

end Visibility

-- What processes are started from. The diagram is kept for editing and is empty for a template that
-- was stored as a task list.
structure Template where
  id : Uuid
  title : String
  description : String := ""
  type : TemplateType := .recurring
  tasks : List TaskTemplate
  graph : Graph := {}
  visibility : Visibility := .everyone
  createdAt : Instant
  updatedAt : Instant
deriving DecidableEq

def Template.task? (template : Template) (id : String) : Option TaskTemplate :=
  template.tasks.find? (·.id = id)

-- A template to store: under a new id, or over the one it names. Tasks beside a diagram are edits
-- of the compiled ones.
structure Draft where
  id : Option Uuid := none
  title : String
  description : String := ""
  type : TemplateType := .recurring
  graph : Option Graph := none
  tasks : Option (List TaskTemplate) := none
  visibility : Visibility := .everyone
deriving DecidableEq

end Workflow
