import Workflow.Document.Run
import Workflow.Document.Shape
import Workflow.Document.Template
import Workflow.Engine.Call
import Workflow.Process.Progress

set_option autoImplicit false

namespace Workflow

def Json.count (n : Nat) : Json := .int n

def Json.optionalText (text : Option String) : Json := Shape.text.optional.write text

namespace Counts

def members (counts : Counts) : List (String × Json) :=
  [("total", .count counts.total), ("completed", .count counts.completed),
    ("skipped", .count counts.skipped), ("inProgress", .count counts.inProgress),
    ("ready", .count counts.ready), ("waiting", .count counts.waiting),
    ("overdue", .count counts.overdue)]

end Counts

def AssigneeRow.json (row : AssigneeRow) : Json :=
  .record ([("assigneeId", .optionalText row.group.assignee),
    ("assigneeName", .optionalText row.name),
    ("organization", .optionalText row.group.organization)] ++ row.counts.members)

def OrganizationRows.json (rows : OrganizationRows) : Json :=
  .record [("organization", .optionalText rows.organization),
    ("assignees", .list (rows.assignees.map AssigneeRow.json))]

def Report.json (report : Report) : Json :=
  .record (report.counts.members ++ [("delayed", .bool report.delayed),
    ("allTerminal", .bool report.allTerminal),
    ("organizations", .list (report.organizations.map OrganizationRows.json))])

def Compiled.json (compiled : Compiled) : Json :=
  .record [("tasks", Shape.taskTemplates.write compiled.tasks),
    ("graph", Graph.record.shape.write compiled.graph),
    ("linearized", .bool compiled.linearized)]

def Process.json (process : Process) : Json := Shape.process.write process

def Run.members (run : Run) : List (String × Json) :=
  [("instance", run.process.json), ("tasks", Shape.tasks.write run.tasks)]

def View.members (view : View) : List (String × Json) :=
  [("instance", view.process.json), ("tasks", Shape.tasks.write view.tasks),
    ("progress", view.report.json)]

def Warning.json (warning : Warning) : Json :=
  .record [("kind", .text "missingAssignee"), ("taskTemplateId", .text warning.taskTemplateId),
    ("assigneeId", .text warning.assigneeId)]

end Workflow
