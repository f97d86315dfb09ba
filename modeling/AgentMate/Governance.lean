import AgentMate.PlainText
import AgentMate.WorkItemStore

/-!
# The risk and decision ledger

`routers/governance.py` over the table `project_governance`, together with the work items of a
project and the risks that follow them. An endpoint validates in one step and writes in a later
one; the body of `create_action_task` runs under a lock. Access checks, notifications and the
activity log read nothing that a later check depends on and are left out.
-/

namespace AgentMate

open Interleaving PlainText

structure GovernanceFields (Value : Type) where
  title : Value
  description : Value
  status : Value
  severity : Value
  ownerId : Value
  response : Value
  rationale : Value
  workItemId : Value
  milestoneId : Value
  runId : Value
  artifactId : Value
  evidenceLabel : Value

/-- The body of an update: a key that is unset, `None`, or a text. -/
abbrev GovernanceChanges := GovernanceFields (Option (Option String))

def GovernanceFields.zipWith {Left Right Value : Type} (combine : Left → Right → Value)
    (left : GovernanceFields Left) (right : GovernanceFields Right) : GovernanceFields Value where
  title := combine left.title right.title
  description := combine left.description right.description
  status := combine left.status right.status
  severity := combine left.severity right.severity
  ownerId := combine left.ownerId right.ownerId
  response := combine left.response right.response
  rationale := combine left.rationale right.rationale
  workItemId := combine left.workItemId right.workItemId
  milestoneId := combine left.milestoneId right.milestoneId
  runId := combine left.runId right.runId
  artifactId := combine left.artifactId right.artifactId
  evidenceLabel := combine left.evidenceLabel right.evidenceLabel

/-- A row of `project_governance`. -/
structure GovernanceRow where
  id : String
  projectId : String
  recordType : String
  fields : GovernanceFields String
  createdBy : String
  createdAt : Time
  updatedAt : Time
  resolvedAt : Time

/-- The tables. `issued` holds every record identifier ever drawn; `members` are the projects'
member accounts. -/
structure GovernanceStore where
  records : List GovernanceRow
  work : WorkItemStore
  members : List (String × String)
  issued : List String

def GovernanceStore.record? (store : GovernanceStore) (recordId : String) : Option GovernanceRow :=
  Table.lookup GovernanceRow.id recordId store.records

def resolvedStatuses : List String := ["closed", "accepted", "superseded"]

/-- `{**current, **changes}`. -/
def mergeFields (current : GovernanceFields String) (changes : GovernanceChanges) :
    GovernanceFields (Option String) :=
  current.zipWith (fun old change => change.getD (some old)) changes

/-- The assignments of `update_project_governance`; `None` assigns nothing. -/
def GovernanceRow.assign (changes : GovernanceChanges) (now : Time) (row : GovernanceRow) :
    GovernanceRow :=
  { row with
    fields := row.fields.zipWith (fun old change => change.join.getD old) changes
    resolvedAt :=
      match changes.status with
      | none => row.resolvedAt
      | some status => if status.any (· ∈ resolvedStatuses) then now else 0
    updatedAt := now }

def GovernanceFields.unset : GovernanceChanges :=
  ⟨none, none, none, none, none, none, none, none, none, none, none, none⟩

def GovernanceFields.assignsNothing (changes : GovernanceChanges) : Bool :=
  changes.title.join.isNone && changes.description.join.isNone && changes.status.join.isNone &&
    changes.severity.join.isNone && changes.ownerId.join.isNone && changes.response.join.isNone &&
    changes.rationale.join.isNone && changes.workItemId.join.isNone &&
    changes.milestoneId.join.isNone && changes.runId.join.isNone &&
    changes.artifactId.join.isNone && changes.evidenceLabel.join.isNone

def updateProjectGovernance (store : GovernanceStore) (recordId : String)
    (changes : GovernanceChanges) (now : Time) : GovernanceStore :=
  if changes.assignsNothing then store
  else { store with
    records := Table.updateWhere (fun row => row.id = recordId) (GovernanceRow.assign changes now)
      store.records }

/-- `str(value or "").strip()`. -/
def strippedText (value : Option String) : String := strip (value.getD "")

def recordStatuses (recordType : String) : List String :=
  if recordType = "risk" then ["open", "mitigating", "closed"]
  else ["proposed", "accepted", "superseded"]

/-- `_validate`. -/
def validateRecord (recordType : String) (values : GovernanceFields (Option String)) :
    Except WorkItemError Unit :=
  if recordType ∉ ["risk", "decision"] then .error (.http 400 "invalid record_type")
  else if ¬values.status.any (· ∈ recordStatuses recordType) then
    .error (.http 400 "invalid status for record type")
  else if recordType = "risk" then
    if ¬values.severity.any (· ∈ ["low", "medium", "high", "critical"]) then
      .error (.http 400 "invalid risk severity")
    else .ok ()
  else if values.severity.any (· ≠ "") then
    .error (.http 400 "decision severity must be empty")
  else .ok ()

def validateRefs (store : GovernanceStore) (projectId : String)
    (values : GovernanceFields (Option String)) : Except WorkItemError Unit :=
  let ownerId := strippedText values.ownerId
  let workItemId := strippedText values.workItemId
  let milestoneId := strippedText values.milestoneId
  if ownerId ≠ "" ∧ (projectId, ownerId) ∉ store.members then
    .error (.http 400 "owner must be an existing project member")
  else if workItemId ≠ "" ∧ (store.work.projectItem? projectId workItemId).isNone then
    .error (.http 400 "work item must belong to the project")
  else if milestoneId ≠ "" ∧ ¬(store.work.milestone? milestoneId).any fun milestone =>
      milestone.projectId = projectId then
    .error (.http 400 "milestone must belong to the project")
  else .ok ()

/-- What `_validate_risk_closure` reads: of the merged values, of the linked work item its project
and status, and the Run of its acceptance. -/
structure ClosureReads where
  projectId : String
  recordType : String
  status : Option String
  response : Option String
  workItemId : Option String
  evidenceLabel : Option String
  runId : Option String
  item : Option (String × WorkItemStatus)
  acceptance : Option String
  deriving DecidableEq

/-- `get_work_item_acceptance`. -/
def WorkItemStore.acceptance? (store : WorkItemStore) (workItemId : String) : Option Acceptance :=
  store.acceptances.find? fun acceptance => acceptance.workItemId = workItemId

def closureReads (work : WorkItemStore) (projectId recordType : String)
    (values : GovernanceFields (Option String)) : ClosureReads where
  projectId := projectId
  recordType := recordType
  status := values.status
  response := values.response
  workItemId := values.workItemId
  evidenceLabel := values.evidenceLabel
  runId := values.runId
  item := (work.item? (strippedText values.workItemId)).map fun item =>
    (item.projectId, item.status)
  acceptance := (work.acceptance? (strippedText values.workItemId)).map Acceptance.runId

def ClosureReads.closes (reads : ClosureReads) : Prop :=
  reads.recordType = "risk" ∧ reads.status = some "closed"

instance (reads : ClosureReads) : Decidable reads.closes :=
  inferInstanceAs (Decidable (_ ∧ _))

/-- `_validate_risk_closure`: the Run of the acceptance of a risk that is closed. -/
def validateRiskClosure (reads : ClosureReads) : Except WorkItemError (Option String) :=
  if ¬reads.closes then .ok none
  else if strippedText reads.response = "" then .error (.http 409 "关闭风险前必须填写应对措施")
  else if strippedText reads.workItemId = "" then
    .error (.http 409 "关闭风险前必须关联处置任务")
  else
    match reads.item with
    | none => .error (.http 409 "关联的处置任务不存在")
    | some item =>
      if item.1 ≠ reads.projectId then .error (.http 409 "关联的处置任务不存在")
      else
        match reads.acceptance with
        | none => .error (.http 409 "处置任务通过真实交付验收后才能关闭风险")
        | some run =>
          if item.2 ≠ .done then
            .error (.http 409 "处置任务通过真实交付验收后才能关闭风险")
          else if strippedText reads.evidenceLabel = "" then
            .error (.http 409 "关闭风险前必须填写残余风险结论与证据说明")
          else if strippedText reads.runId ≠ "" ∧ strippedText reads.runId ≠ run then
            .error (.http 409 "风险证据 Run 必须与处置任务验收 Run 一致")
          else .ok (some run)

structure ActionTaskBody where
  title : String
  dueDate : String
  acceptanceCriteria : String

inductive GovernanceRequest where
  | createRecord (projectId actorId recordType : String) (fields : GovernanceFields String)
  | createActionTask (projectId recordId : String) (body : ActionTaskBody)
  | updateRecord (projectId recordId : String) (changes : GovernanceChanges)
  | deleteRecord (projectId recordId : String)
  | acceptItem (delivery : Delivery) (now : Time)
  /-- `update_item` with a status: the way an item is reopened. -/
  | setItemStatus (projectId workItemId : String) (status : WorkItemStatus)
  | deleteItem (projectId workItemId : String)

/-- What a request holds between two steps. `reads` is what the closure check read, `added` the
Run that it puts into a closed risk without one. -/
inductive GovernanceTicket where
  | insert (projectId actorId recordType : String) (fields : GovernanceFields String)
  | createTask (recordId : String) (draft : WorkItemDraft)
  | linkTask (recordId workItemId : String)
  | update (recordId : String) (changes : GovernanceChanges) (reads : ClosureReads)
      (added : Option String)
  | delete (recordId : String)
  | work (ticket : WorkItemTicket)
  | setStatus (projectId workItemId : String) (ticket : WorkItemTicket) (status : WorkItemStatus)
  | findLinked (projectId workItemId runId : String)
  | followItem (recordIds : List String) (runId : String)

def statusChange (status : WorkItemStatus) : WorkItemChanges where
  title := none
  status := some status
  source := none
  assignee := none
  description := none
  sort := none
  priority := none
  dueDate := none
  startDate := none
  labels := none
  estimateH := none
  spentH := none
  customFields := none
  refs := ⟨none, none, none, none⟩

def defaultFields (recordType : String) (fields : GovernanceFields String) :
    GovernanceFields String :=
  { fields with
    title := strip fields.title
    status :=
      if fields.status = "" then if recordType = "risk" then "open" else "proposed"
      else fields.status
    severity :=
      if recordType = "risk" ∧ fields.severity = "" then "medium" else fields.severity }

def GovernanceFields.values (fields : GovernanceFields String) : GovernanceFields (Option String) :=
  mergeFields fields .unset

def checkCreate (store : GovernanceStore) (projectId recordType : String)
    (fields : GovernanceFields String) : Except WorkItemError (GovernanceFields String) :=
  let values := defaultFields recordType fields
  if values.title = "" then .error (.http 400 "empty title")
  else do
    validateRecord recordType values.values
    validateRefs store projectId values.values
    .ok values

def stripTitle (changes : GovernanceChanges) : Except WorkItemError GovernanceChanges :=
  match changes.title with
  | none => .ok changes
  | some title =>
    if strippedText title = "" then .error (.http 400 "empty title")
    else .ok { changes with title := some (some (strippedText title)) }

def checkUpdate (store : GovernanceStore) (projectId recordId : String)
    (changes : GovernanceChanges) : Except WorkItemError GovernanceTicket :=
  match (store.record? recordId).filter fun row => row.projectId = projectId with
  | none => .error (.http 404 "governance record not found")
  | some current => do
      let changes ← stripTitle changes
      let merged := mergeFields current.fields changes
      validateRecord current.recordType merged
      validateRefs store projectId merged
      let reads := closureReads store.work projectId current.recordType merged
      let acceptance ← validateRiskClosure reads
      .ok (.update recordId changes reads
        (if strippedText merged.runId = "" then acceptance else none))

def taskSource (recordId : String) : String := "risk:" ++ recordId

def taskPriority (severity : String) : String :=
  if severity = "critical" then "urgent" else if severity = "" then "medium" else severity

def taskDescription (current : GovernanceRow) (criteria : String) : String :=
  let response := strip current.fields.response
  String.intercalate "\n\n" (["## 来源风险\n\n**" ++ current.fields.title ++ "**",
    strip current.fields.description,
    "## 应对措施\n\n" ++ (if response = "" then "- 待补充" else response),
    "## 验收标准\n\n" ++ criteria,
    "## 证据要求\n\n- [ ] 通过真实 Run 完成任务交付\n- [ ] 交付物完整性校验通过\n" ++
      "- [ ] 风险关闭前补充残余风险结论"].filter fun part => part ≠ "")

def taskDraft (projectId dueDate criteria title : String) (current : GovernanceRow) :
    WorkItemDraft where
  projectId := projectId
  title := title
  status := .todo
  source := taskSource current.id
  assignee := current.fields.ownerId
  description := taskDescription current criteria
  priority := taskPriority current.fields.severity
  dueDate := dueDate
  startDate := ""
  labels := ["风险处置"]
  parentId := ""
  milestoneId := current.fields.milestoneId
  estimateH := 0
  spentH := 0
  customFields := []
  dependencyIds := []
  sprintId := ""

variable (isDate : String → Bool)

/-- The body of `create_action_task` up to its first write; `none` is a task that is there. -/
def checkActionTask (store : GovernanceStore) (projectId recordId : String)
    (body : ActionTaskBody) : Except WorkItemError (Option GovernanceTicket) :=
  let title := strip body.title
  let criteria := strip body.acceptanceCriteria
  let dueDate := strip body.dueDate
  if title = "" ∨ criteria = "" then
    .error (.http 400 "task title and acceptance criteria are required")
  else if dueDate ≠ "" ∧ ¬isDate dueDate then .error (.http 400 "invalid due_date")
  else
    match (store.record? recordId).filter fun row => row.projectId = projectId with
    | none => .error (.http 404 "governance record not found")
    | some current =>
      if current.recordType ≠ "risk" ∨ current.fields.status = "closed" then
        .error (.http 409 "only an active risk can create an action task")
      else if current.fields.workItemId ≠ "" ∧
          (store.work.item? current.fields.workItemId).isSome then .ok none
      else
        match store.work.items.find? fun item =>
            item.projectId = projectId ∧ item.source = taskSource recordId with
        | some existing => .ok (some (.linkTask recordId existing.id))
        | none => .ok (some (.createTask recordId
            (taskDraft projectId dueDate criteria title current)))

def refused (store : GovernanceStore) (checked : Except WorkItemError (Option GovernanceTicket)) :
    GovernanceStore × Option GovernanceTicket :=
  match checked with
  | .ok ticket => (store, ticket)
  | .error _ => (store, none)

def callGovernance (store : GovernanceStore) :
    GovernanceRequest → Option (GovernanceStore × Option GovernanceTicket)
  | .createRecord projectId actorId recordType fields =>
    some (refused store ((checkCreate store projectId (strip recordType) fields).map fun values =>
      some (.insert projectId actorId (strip recordType) values)))
  | .createActionTask projectId recordId body =>
    some (refused store (checkActionTask isDate store projectId recordId body))
  | .updateRecord projectId recordId changes =>
    some (refused store ((checkUpdate store projectId recordId changes).map some))
  | .deleteRecord projectId recordId =>
    if (store.record? recordId).any fun row => row.projectId = projectId then
      some (store, some (.delete recordId))
    else some (store, none)
  | .acceptItem delivery now =>
    match acceptWorkItemDelivery store.work delivery now with
    | .error _ => some (store, none)
    | .ok work => some ({ store with work := work },
        some (.findLinked delivery.projectId delivery.workItemId delivery.runId))
  | .setItemStatus projectId workItemId status =>
    (callWorkItems strip store.work
      (.updateItem projectId workItemId (statusChange status))).map fun after =>
        ({ store with work := after.1 }, after.2.map fun ticket =>
          .setStatus projectId workItemId ticket status)
  | .deleteItem projectId workItemId =>
    (callWorkItems strip store.work (.deleteItem projectId workItemId)).map fun after =>
      ({ store with work := after.1 }, after.2.map .work)

/-- The links that the transaction of `delete_work_item` clears. -/
def clearLinks (records : List GovernanceRow) (workItemId projectId : String) (now : Time) :
    List GovernanceRow :=
  Table.updateWhere (fun row => row.fields.workItemId = workItemId ∧ row.projectId = projectId)
    (fun row => { row with fields := { row.fields with workItemId := "" }, updatedAt := now })
    records

def recordsAfter (records : List GovernanceRow) (ticket : WorkItemTicket) (now : Time) :
    List GovernanceRow :=
  match ticket with
  | .deleteItem workItemId (some projectId) => clearLinks records workItemId projectId now
  | _ => records

/-- The changes of `_sync_linked_risk`. -/
def followChanges (runId : String) : GovernanceChanges :=
  { GovernanceFields.unset with
    status := some (some "mitigating")
    runId := if runId = "" then none else some (some runId) }

def linkChanges (workItemId : String) : GovernanceChanges :=
  { GovernanceFields.unset with workItemId := some (some workItemId) }

/-- The changes that are written: the accepted Run is put into a closed risk without one. -/
def writtenChanges (changes : GovernanceChanges) (added : Option String) : GovernanceChanges :=
  { changes with runId := added.elim changes.runId fun run => some (some run) }

def resumeGovernance (store : GovernanceStore) (ticket : GovernanceTicket)
    (input : WorkItemInput) : Option (GovernanceStore × Option GovernanceTicket) :=
  match ticket with
  | .insert projectId actorId recordType fields =>
    if input.uuid = "" ∨ input.uuid ∈ store.issued then none
    else some ({ store with
      issued := store.issued ++ [input.uuid]
      records := store.records ++ [
        { id := input.uuid, projectId := projectId, recordType := recordType, fields := fields
          createdBy := actorId, createdAt := input.now, updatedAt := input.now
          resolvedAt := if fields.status ∈ resolvedStatuses then input.now else 0 }] }, none)
  | .createTask recordId draft =>
    (resumeWorkItems store.work (.create draft) input).map fun after =>
      ({ store with work := after.1 }, some (.linkTask recordId input.uuid))
  | .linkTask recordId workItemId =>
    some (updateProjectGovernance store recordId (linkChanges workItemId) input.now, none)
  | .update recordId changes _ added =>
    some (updateProjectGovernance store recordId (writtenChanges changes added) input.now, none)
  | .delete recordId =>
    some ({ store with records := store.records.filter fun row => row.id ≠ recordId }, none)
  | .work ticket =>
    (resumeWorkItems store.work ticket input).map fun after =>
      ({ store with
          work := after.1
          records := recordsAfter store.records ticket input.now }, after.2.map .work)
  | .setStatus projectId workItemId ticket status =>
    (resumeWorkItems store.work ticket input).map fun after =>
      ({ store with work := after.1 },
        if status ≠ .todo ∧ (after.1.item? workItemId).isSome then
          some (.findLinked projectId workItemId "")
        else none)
  | .findLinked projectId workItemId runId =>
    some (store, some (.followItem ((store.records.filter fun row =>
      row.projectId = projectId ∧ row.recordType = "risk" ∧ row.fields.status ≠ "closed" ∧
        row.fields.workItemId = workItemId).map GovernanceRow.id) runId))
  | .followItem recordIds runId =>
    match recordIds with
    | [] => some (store, none)
    | recordId :: rest =>
      some (updateProjectGovernance store recordId (followChanges runId) input.now,
        some (.followItem rest runId))

def governanceRoutine :
    Routine GovernanceStore GovernanceRequest WorkItemInput GovernanceTicket where
  call := callGovernance isDate
  resume := resumeGovernance

/-- A request that is inside the lock of `create_action_task`. -/
def GovernanceTicket.inLock : GovernanceTicket → Bool
  | .createTask _ _ => true
  | .linkTask _ _ => true
  | _ => false

/-- A call of `create_action_task` waits for the lock. -/
def lockFree (system : System GovernanceStore GovernanceTicket) :
    Event GovernanceRequest WorkItemInput → Bool
  | .call (.createActionTask _ _ _) => !system.pending.any GovernanceTicket.inLock
  | _ => true

end AgentMate
