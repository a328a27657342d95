import Workflow.Directory
import Workflow.Document.Template
import Workflow.Process.Basic
import Workflow.Process.Staffing
import Workflow.Process.Transition

set_option autoImplicit false

namespace Workflow

open Record

namespace Shape

def processStatus : Shape ProcessStatus := word ProcessStatus.name ProcessStatus.ofName?

def taskStatus : Shape TaskStatus := word TaskStatus.name TaskStatus.ofName?

def stopType : Shape StopType := word StopType.name StopType.ofName?

def lifecycleAction : Shape LifecycleAction := word LifecycleAction.name LifecycleAction.ofName?

end Shape

def HistoryEntry.record : Record HistoryEntry HistoryEntry :=
  HistoryEntry.mk <$> required "at" HistoryEntry.time Shape.time
    <*> required "action" HistoryEntry.action Shape.lifecycleAction
    <*> optional "actorId" HistoryEntry.actorId Shape.text
    <*> optional "reason" HistoryEntry.reason Shape.text

def Process.record : Record Process Process :=
  Process.mk <$> required "id" Process.id Shape.uuid
    <*> required "templateId" Process.templateId Shape.uuid
    <*> required "title" Process.title Shape.text
    <*> required "status" Process.status Shape.processStatus
    <*> required "startAt" Process.startAt Shape.time
    <*> nullableInArray "expectedEndAt" Process.expectedEndAt Shape.time
    <*> nullableInArray "endAt" Process.endAt Shape.time
    <*> required "startedById" Process.startedById Shape.text
    <*> optional "itemCode" Process.itemCode Shape.text
    <*> optional "moldCode" Process.moldCode Shape.text
    <*> optional "carModelCode" Process.carModelCode Shape.text
    <*> optional "initiativeId" Process.initiativeId Shape.text
    <*> optional "stopType" Process.stopType Shape.stopType
    <*> optional "stopReason" Process.stopReason Shape.text
    <*> optional "stoppedById" Process.stoppedById Shape.text
    <*> optional "stoppedAt" Process.stoppedAt Shape.time
    <*> withDefault [] "history" Process.history (Shape.listOf HistoryEntry.record.shape)

def Task.record : Record Task Task :=
  Task.mk <$> required "id" Task.id Shape.uuid
    <*> required "processInstanceId" Task.processId Shape.uuid
    <*> required "taskTemplateId" Task.templateId Shape.text
    <*> required "name" Task.name Shape.text
    <*> required "taskType" Task.taskType Shape.taskType
    <*> optional "stageLabel" Task.stageLabel Shape.text
    <*> required "status" Task.status Shape.taskStatus
    <*> nullableInArray "assigneeId" Task.assigneeId Shape.text
    <*> optional "assigneeName" Task.assigneeName Shape.text
    <*> optional "organization" Task.organization Shape.text
    <*> nullableInArray "plannedStartAt" Task.plannedStartAt Shape.time
    <*> nullableInArray "plannedEndAt" Task.plannedEndAt Shape.time
    <*> nullableInArray "actualStartAt" Task.actualStartAt Shape.time
    <*> nullableInArray "actualEndAt" Task.actualEndAt Shape.time
    <*> nullableInArray "deadlineAt" Task.deadlineAt Shape.time

def Shape.process : Shape Process := Process.record.shape

def Shape.tasks : Shape (List Task) := listOf Task.record.shape

def Run.record : Record Run Run :=
  Run.mk <$> required "instance" Run.process Shape.process
    <*> required "tasks" Run.tasks Shape.tasks
    <*> required "templates" Run.templates Shape.taskTemplates

def Assignment.record : Record Assignment Assignment :=
  Assignment.mk <$> required "taskTemplateId" Assignment.taskTemplateId Shape.text
    <*> required "assigneeId" Assignment.assigneeId Shape.text

def Plan.record : Record Plan Plan :=
  Plan.mk <$> required "taskTemplateId" Plan.taskTemplateId Shape.text
    <*> nullable "plannedStartAt" Plan.plannedStartAt Shape.time
    <*> nullable "plannedEndAt" Plan.plannedEndAt Shape.time
    <*> nullable "deadlineAt" Plan.deadlineAt Shape.time

def StartRequest.record : Record StartRequest StartRequest :=
  StartRequest.mk <$> required "templateId" StartRequest.templateId Shape.uuid
    <*> required "title" StartRequest.title Shape.text
    <*> required "startedById" StartRequest.startedById Shape.text
    <*> nullable "itemCode" StartRequest.itemCode Shape.text
    <*> nullable "moldCode" StartRequest.moldCode Shape.text
    <*> nullable "carModelCode" StartRequest.carModelCode Shape.text
    <*> withDefault [] "taskAssignees" StartRequest.taskAssignees
      (Shape.listOf Assignment.record.shape)
    <*> withDefault [] "taskPlans" StartRequest.taskPlans (Shape.listOf Plan.record.shape)
    <*> nullable "initiativeId" StartRequest.initiativeId Shape.text

def StopRequest.record : Record StopRequest StopRequest :=
  StopRequest.mk <$> required "actorId" StopRequest.actorId Shape.text
    <*> required "stopType" StopRequest.stopType Shape.stopType
    <*> withDefault "" "reason" StopRequest.reason Shape.text

def ResumeRequest.record : Record ResumeRequest ResumeRequest :=
  ResumeRequest.mk <$> required "actorId" ResumeRequest.actorId Shape.text
    <*> nullable "reason" ResumeRequest.reason Shape.text

def User.record : Record User User :=
  User.mk <$> required "id" User.id Shape.text
    <*> required "name" User.name Shape.text
    <*> nullable "organization" User.organization Shape.text

end Workflow
