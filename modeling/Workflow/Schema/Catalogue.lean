import Workflow.Schema.Registry

namespace Workflow

/-!
# The built-in catalogue

The trigger and action types that are known without asking the server.
-/

namespace Catalogue

/-- The statuses of a client. -/
def clientStatus : FieldType := .choice ["LEAD", "ACTIVE", "INACTIVE", "ARCHIVED"]

/-- The priorities of a task. -/
def priority : FieldType := .choice ["LOW", "MEDIUM", "HIGH", "URGENT"]

/-- The units of a waiting time. -/
def durationUnit : FieldType := .choice ["MINUTES", "HOURS", "DAYS"]

/-- The built-in triggers. -/
def triggers : List NodeSchema := [
  .trigger "CLIENT_CREATED" "Client created",
  NodeSchema.trigger "CLIENT_UPDATED" "Client updated"
    |>.optional "field" "Changed field" .text,
  NodeSchema.trigger "CLIENT_STATUS_CHANGED" "Client status changed"
    |>.optional "fromStatus" "From status" clientStatus
    |>.required "toStatus" "To status" clientStatus,
  .trigger "TASK_CREATED" "Task created",
  .trigger "TASK_COMPLETED" "Task completed",
  NodeSchema.trigger "TASK_OVERDUE" "Task overdue"
    |>.optional "graceHours" "Grace period (hours)" .number,
  NodeSchema.trigger "APPOINTMENT_SCHEDULED" "Appointment scheduled"
    |>.optional "calendarId" "Calendar" (.reference "calendar"),
  NodeSchema.trigger "FORM_SUBMITTED" "Form submitted"
    |>.required "formId" "Form" (.reference "form"),
  NodeSchema.trigger "SCHEDULED" "On a schedule"
    |>.required "cron" "Cron expression" .text
    |>.optional "timezone" "Timezone" .text,
  .trigger "MANUAL" "Run manually",
  NodeSchema.trigger "WEBHOOK_RECEIVED" "Webhook received"
    |>.optional "secret" "Signing secret" .text]

/-- The built-in actions. -/
def actions : List NodeSchema := [
  NodeSchema.action "SEND_EMAIL" "Send email"
    |>.optional "templateId" "Template" (.reference "template")
    |>.requiredUnless "subject" "Subject" .text "templateId"
    |>.requiredUnless "body" "Body" .text "templateId"
    |>.optional "to" "Recipient override" .text,
  NodeSchema.action "SEND_SMS" "Send SMS"
    |>.required "message" "Message" .text
    |>.optional "to" "Recipient override" .text,
  NodeSchema.action "CREATE_TASK" "Create task"
    |>.required "title" "Title" .text
    |>.optional "description" "Description" .text
    |>.optional "priority" "Priority" priority
    |>.optional "dueInDays" "Due in (days)" .number
    |>.optional "assigneeId" "Assignee" (.reference "user"),
  NodeSchema.action "UPDATE_CLIENT" "Update client"
    |>.required "field" "Field" .text
    |>.required "value" "New value" .text,
  NodeSchema.action "ADD_TAG" "Add tag"
    |>.required "tagId" "Tag" (.reference "tag"),
  NodeSchema.action "REMOVE_TAG" "Remove tag"
    |>.required "tagId" "Tag" (.reference "tag"),
  NodeSchema.action "ASSIGN_USER" "Assign user"
    |>.required "userId" "User" (.reference "user"),
  NodeSchema.action "CREATE_NOTIFICATION" "Create notification"
    |>.required "message" "Message" .text
    |>.optional "userId" "Recipient" (.reference "user"),
  NodeSchema.action "SEND_WEBHOOK" "Send webhook"
    |>.required "url" "URL" .text
    |>.optional "method" "Method" (.choice ["POST", "PUT", "PATCH"]),
  NodeSchema.action "WAIT" "Wait"
    |>.required "duration" "Duration" .number
    |>.required "unit" "Unit" durationUnit]

end Catalogue

/-- The registry of the built-in catalogue. -/
def Registry.builtIn : Registry :=
  Registry.empty.registerAll (Catalogue.triggers ++ Catalogue.actions)

end Workflow
