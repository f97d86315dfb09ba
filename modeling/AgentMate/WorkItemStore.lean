import AgentMate.GraphSearch
import AgentMate.Interleaving
import AgentMate.RunStore

/-!
# Work item store

The work items of the projects, their milestones and sprints. A request to create or
to change an item validates its references in one step and writes in a later one; a
deletion reads the project of its row before it starts to write.
-/

namespace AgentMate

open GraphSearch Interleaving Table

structure WorkItemRow where
  id : String
  projectId : String
  title : String
  status : WorkItemStatus
  source : String
  assignee : String
  description : String
  priority : String
  dueDate : String
  startDate : String
  labels : List String
  parentId : String
  milestoneId : String
  estimateH : ℚ
  spentH : ℚ
  customFields : List (String × Json)
  dependencyIds : List String
  sprintId : String
  sort : Int
  version : Nat
  createdAt : Time
  updatedAt : Time

/-- A row of `milestones`, as far as work items refer to it. -/
structure Milestone where
  id : String
  projectId : String

/-- A row of `sprints`, as far as work items refer to it. -/
structure Sprint where
  id : String
  projectId : String
  milestoneId : String
  name : String
  status : String

/-- A row of `work_item_acceptances`. -/
structure Acceptance where
  workItemId : String
  projectId : String
  runId : String
  artifactCount : Nat
  acceptedBy : String
  acceptedAt : Time

structure WorkItemActivity where
  projectId : String
  workItemId : String
  actor : String
  kind : String
  detail : String
  createdAt : Time

/-- The tables. `issued` holds every work item identifier ever drawn. -/
structure WorkItemStore where
  items : List WorkItemRow
  milestones : List Milestone
  sprints : List Sprint
  acceptances : List Acceptance
  activity : List WorkItemActivity
  issued : List String

inductive WorkItemError where
  | http (status : Nat) (detail : String)
  | key (message : String)
  | versionConflict (message : String)
  | value (message : String)

def WorkItemStore.item? (store : WorkItemStore) (workItemId : String) : Option WorkItemRow :=
  lookup WorkItemRow.id workItemId store.items

def WorkItemStore.milestone? (store : WorkItemStore) (milestoneId : String) : Option Milestone :=
  lookup Milestone.id milestoneId store.milestones

def WorkItemStore.sprint? (store : WorkItemStore) (sprintId : String) : Option Sprint :=
  lookup Sprint.id sprintId store.sprints

/-- `list_work_items`. -/
def WorkItemStore.projectItem? (store : WorkItemStore) (projectId workItemId : String) :
    Option WorkItemRow :=
  (store.item? workItemId).filter fun item => item.projectId = projectId

def WorkItemStore.updateItems (store : WorkItemStore) (chosen : WorkItemRow → Prop)
    [DecidablePred chosen] (assign : WorkItemRow → WorkItemRow) : WorkItemStore :=
  { store with items := updateWhere chosen assign store.items }

/-- The references of a request; `none` is an absent key. -/
structure WorkItemRefs where
  parentId : Option String
  milestoneId : Option String
  sprintId : Option String
  dependencyIds : Option (List String)

section

variable (strip : String → String) (store : WorkItemStore) (projectId : String)

/-- `parents`, with the new parent of the item itself. -/
def WorkItemStore.parentMap (selfId parentId node : String) : String :=
  if node = selfId then parentId
  else ((store.projectItem? projectId node).map WorkItemRow.parentId).getD ""

/-- `graph`, with the new dependencies of the item itself. -/
def WorkItemStore.dependencyMap (selfId : String) (deps : List String) (node : String) :
    List String :=
  if node = selfId then deps
  else ((store.projectItem? projectId node).map WorkItemRow.dependencyIds).getD []

def WorkItemStore.searchBound : Nat := store.items.length + 3

def WorkItemStore.refers (selfId : Option String) (target : String) : Bool :=
  decide (target ≠ "") && decide (selfId ≠ some target) &&
    (store.projectItem? projectId target).isSome

def sanitizeParent (selfId : Option String) (parentId : String) : Except WorkItemError String :=
  let stripped := strip parentId
  let parent := if store.refers projectId selfId stripped then stripped else ""
  match selfId with
  | none => .ok parent
  | some selfId =>
    if climb (store.parentMap projectId selfId parent) "" selfId store.searchBound [] parent then
      .error (.http 409 "work item parent cycle")
    else .ok parent

def sanitizeMilestone (milestoneId : String) : String :=
  let stripped := strip milestoneId
  if (store.milestone? stripped).any fun milestone => milestone.projectId = projectId then
    stripped
  else ""

def sanitizeSprint (sprintId : String) : String :=
  let stripped := strip sprintId
  if (store.sprint? stripped).any fun sprint => sprint.projectId = projectId then stripped else ""

def collectDependencies (selfId : Option String) (raw : List String) : List String :=
  raw.foldl (fun deps text =>
    let target := strip text
    if store.refers projectId selfId target && decide (target ∉ deps) then deps ++ [target]
    else deps) []

def sanitizeDependencies (selfId : Option String) (raw : List String) :
    Except WorkItemError (List String) :=
  let deps := collectDependencies strip store projectId selfId raw
  match selfId with
  | none => .ok deps
  | some selfId =>
    if deps.any fun dep =>
        search (store.dependencyMap projectId selfId deps) selfId store.searchBound [] dep then
      .error (.http 409 "work item dependency cycle")
    else .ok deps

/-- `_sanitize_refs`, the custom fields aside. -/
def sanitizeRefs (selfId : Option String) (refs : WorkItemRefs) :
    Except WorkItemError WorkItemRefs := do
  let parentId ← refs.parentId.mapM (sanitizeParent strip store projectId selfId)
  let dependencyIds ← refs.dependencyIds.mapM (sanitizeDependencies strip store projectId selfId)
  return {
    parentId := parentId
    milestoneId := refs.milestoneId.map (sanitizeMilestone strip store projectId)
    sprintId := refs.sprintId.map (sanitizeSprint strip store projectId)
    dependencyIds := dependencyIds }

end

structure WorkItemDraft where
  projectId : String
  title : String
  status : WorkItemStatus
  source : String
  assignee : String
  description : String
  priority : String
  dueDate : String
  startDate : String
  labels : List String
  parentId : String
  milestoneId : String
  estimateH : ℚ
  spentH : ℚ
  customFields : List (String × Json)
  dependencyIds : List String
  sprintId : String

def createWorkItem (store : WorkItemStore) (draft : WorkItemDraft) (workItemId : String)
    (now : Time) : WorkItemStore :=
  let sorts := (store.items.filter fun item =>
    item.projectId = draft.projectId ∧ item.status = draft.status).map WorkItemRow.sort
  { store with
    issued := store.issued ++ [workItemId]
    items := store.items ++ [
      { id := workItemId, projectId := draft.projectId, title := draft.title
        status := draft.status, source := draft.source, assignee := draft.assignee
        description := draft.description, priority := draft.priority
        dueDate := draft.dueDate, startDate := draft.startDate, labels := draft.labels
        parentId := draft.parentId, milestoneId := draft.milestoneId
        estimateH := draft.estimateH, spentH := draft.spentH
        customFields := draft.customFields, dependencyIds := draft.dependencyIds
        sprintId := draft.sprintId, sort := sorts.max?.getD 0 + 1, version := 1
        createdAt := now, updatedAt := now }] }

/-- The keyword arguments of `update_work_item`; `none` is an absent one or `None`. -/
structure WorkItemChanges where
  title : Option String
  status : Option WorkItemStatus
  source : Option String
  assignee : Option String
  description : Option String
  sort : Option Int
  priority : Option String
  dueDate : Option String
  startDate : Option String
  labels : Option (List String)
  estimateH : Option ℚ
  spentH : Option ℚ
  customFields : Option (List (String × Json))
  refs : WorkItemRefs

def WorkItemRefs.isEmpty (refs : WorkItemRefs) : Bool :=
  refs.parentId.isNone && refs.milestoneId.isNone && refs.sprintId.isNone &&
    refs.dependencyIds.isNone

def WorkItemChanges.isEmpty (changes : WorkItemChanges) : Bool :=
  changes.title.isNone && changes.status.isNone && changes.source.isNone &&
    changes.assignee.isNone && changes.description.isNone && changes.sort.isNone &&
    changes.priority.isNone && changes.dueDate.isNone && changes.startDate.isNone &&
    changes.labels.isNone && changes.estimateH.isNone && changes.spentH.isNone &&
    changes.customFields.isNone && changes.refs.isEmpty

def WorkItemRow.change (changes : WorkItemChanges) (now : Time) (item : WorkItemRow) : WorkItemRow :=
  { item with
    title := changes.title.getD item.title
    status := changes.status.getD item.status
    source := changes.source.getD item.source
    assignee := changes.assignee.getD item.assignee
    description := changes.description.getD item.description
    sort := changes.sort.getD item.sort
    priority := changes.priority.getD item.priority
    dueDate := changes.dueDate.getD item.dueDate
    startDate := changes.startDate.getD item.startDate
    labels := changes.labels.getD item.labels
    estimateH := changes.estimateH.getD item.estimateH
    spentH := changes.spentH.getD item.spentH
    customFields := changes.customFields.getD item.customFields
    parentId := changes.refs.parentId.getD item.parentId
    milestoneId := changes.refs.milestoneId.getD item.milestoneId
    sprintId := changes.refs.sprintId.getD item.sprintId
    dependencyIds := changes.refs.dependencyIds.getD item.dependencyIds
    updatedAt := now
    version := item.version + 1 }

def updateWorkItem (store : WorkItemStore) (workItemId : String) (changes : WorkItemChanges)
    (now : Time) : WorkItemStore :=
  if changes.isEmpty then store
  else store.updateItems (fun item => item.id = workItemId) (WorkItemRow.change changes now)

structure PlanningRequest where
  projectId : String
  workItemId : String
  sprintId : String
  expectedVersion : Nat
  syncMilestone : Bool
  actorId : String
  actorName : String

def planningMilestone (store : WorkItemStore) (request : PlanningRequest) (item : WorkItemRow) :
    Except WorkItemError String :=
  if request.sprintId = "" then .ok item.milestoneId
  else
    match (store.sprint? request.sprintId).filter fun sprint =>
        sprint.projectId = request.projectId with
    | none => .error (.value "sprint not found in current project")
    | some sprint =>
      if sprint.status ≠ "planned" ∧ sprint.status ≠ "active" then
        .error (.value "closed sprint is read-only")
      else .ok (if request.syncMilestone then sprint.milestoneId else item.milestoneId)

def WorkItemRow.plan (sprintId milestoneId : String) (now : Time) (item : WorkItemRow) : WorkItemRow :=
  { item with
    sprintId := sprintId
    milestoneId := milestoneId
    version := item.version + 1
    updatedAt := now }

def planningDetail (request : PlanningRequest) (item : WorkItemRow) (milestoneId : String) :
    String :=
  "actor_id=" ++ request.actorId ++ "; old_sprint=" ++ item.sprintId ++ "; new_sprint=" ++
    request.sprintId ++ "; old_milestone=" ++ item.milestoneId ++ "; new_milestone=" ++
    milestoneId ++ "; from_version=" ++ toString item.version ++ "; to_version=" ++
    toString (item.version + 1)

def updateWorkItemPlanning (store : WorkItemStore) (request : PlanningRequest) (now : Time) :
    Except WorkItemError WorkItemStore :=
  match (store.item? request.workItemId).filter fun item =>
      item.projectId = request.projectId with
  | none => .error (.key "work item not found")
  | some item =>
    if item.version ≠ request.expectedVersion then
      .error (.versionConflict
        ("work item version conflict: expected " ++ toString request.expectedVersion ++
          ", current " ++ toString item.version))
    else do
      let milestoneId ← planningMilestone store request item
      return { store.updateItems
          (fun row => row.id = request.workItemId ∧ row.projectId = request.projectId ∧
            row.version = item.version)
          (WorkItemRow.plan request.sprintId milestoneId now) with
        activity := store.activity ++ [
          { projectId := request.projectId, workItemId := request.workItemId
            actor := request.actorName, kind := "planning_updated"
            detail := planningDetail request item milestoneId, createdAt := now }] }

def writeWorkItemStatus (store : WorkItemStore) (workItemId : String) (status : WorkItemStatus)
    (assignee : Option String) (now : Time) : WorkItemStore :=
  store.updateItems (fun item => item.id = workItemId) fun item =>
    { item with status := status, assignee := assignee.getD item.assignee, updatedAt := now }

structure Delivery where
  projectId : String
  workItemId : String
  runId : String
  artifactCount : Nat
  actorId : String
  actorName : String

def acceptWorkItemDelivery (store : WorkItemStore) (delivery : Delivery) (now : Time) :
    Except WorkItemError WorkItemStore :=
  match (store.item? delivery.workItemId).filter fun item =>
      item.projectId = delivery.projectId with
  | none => .error (.key "work item not found")
  | some item =>
    match store.acceptances.find? fun acceptance =>
        acceptance.workItemId = delivery.workItemId with
    | some acceptance =>
      if acceptance.runId ≠ delivery.runId ∨ acceptance.artifactCount ≠ delivery.artifactCount then
        .error (.value "work item was accepted with a different delivery")
      else .ok store
    | none =>
      if item.status ≠ .review then
        .error (.value "work item is not awaiting acceptance")
      else .ok { store.updateItems (fun row => row.id = delivery.workItemId) (fun row =>
            { row with status := .done, version := row.version + 1, updatedAt := now }) with
          acceptances := store.acceptances ++ [⟨delivery.workItemId, delivery.projectId,
            delivery.runId, delivery.artifactCount, delivery.actorId, now⟩]
          activity := store.activity ++ [⟨delivery.projectId, delivery.workItemId,
            delivery.actorName, "accepted", "run=" ++ delivery.runId ++ "; artifacts=" ++
              toString delivery.artifactCount, now⟩] }

/-- The transaction of `delete_work_item`: `projectId` is the project of the row that
was read before, if there was one. -/
def deleteWorkItem (store : WorkItemStore) (workItemId : String) (projectId : Option String)
    (now : Time) : WorkItemStore :=
  let repaired :=
    match projectId with
    | none => store
    | some projectId =>
      (store.updateItems (fun item => item.parentId = workItemId ∧ item.projectId = projectId)
        (fun item => { item with parentId := "", updatedAt := now })).updateItems
        (fun item => item.projectId = projectId ∧ item.id ≠ workItemId ∧
          workItemId ∈ item.dependencyIds)
        (fun item => { item with
          dependencyIds := item.dependencyIds.filter fun dep => dep ≠ workItemId
          updatedAt := now })
  { repaired with
    activity := repaired.activity.filter fun entry => entry.workItemId ≠ workItemId
    acceptances := repaired.acceptances.filter fun entry => entry.workItemId ≠ workItemId
    items := repaired.items.filter fun item => item.id ≠ workItemId }

/-- The transaction of `delete_milestone`. -/
def deleteMilestone (store : WorkItemStore) (milestoneId : String) (projectId : Option String) :
    WorkItemStore :=
  let unbound :=
    match projectId with
    | none => store
    | some projectId =>
      { store.updateItems (fun item => item.milestoneId = milestoneId ∧ item.projectId = projectId)
          (fun item => { item with milestoneId := "" }) with
        sprints := updateWhere
          (fun sprint => sprint.milestoneId = milestoneId ∧ sprint.projectId = projectId)
          (fun sprint => { sprint with milestoneId := "" }) store.sprints }
  { unbound with milestones := unbound.milestones.filter fun row => row.id ≠ milestoneId }

def deleteSprint (store : WorkItemStore) (sprintId projectId : String) (now : Time) :
    WorkItemStore :=
  { store.updateItems (fun item => item.sprintId = sprintId ∧ item.projectId = projectId)
      (fun item => { item with sprintId := "", version := item.version + 1, updatedAt := now })
      with sprints := store.sprints.filter fun sprint =>
        ¬(sprint.id = sprintId ∧ sprint.projectId = projectId) }

def closeActiveSprints (sprints : List Sprint) (projectId sprintId : String) : List Sprint :=
  updateWhere (fun sprint => sprint.projectId = projectId ∧ sprint.status = "active" ∧
      sprint.id ≠ sprintId)
    (fun sprint => { sprint with status := "closed" }) sprints

def createSprint (store : WorkItemStore) (sprint : Sprint) : WorkItemStore :=
  let sprints :=
    if sprint.status = "active" then
      closeActiveSprints store.sprints sprint.projectId sprint.id
    else store.sprints
  { store with sprints := sprints ++ [sprint] }

def updateSprint (store : WorkItemStore) (sprintId : String)
    (name status milestoneId : Option String) : WorkItemStore :=
  match store.sprint? sprintId with
  | none => store
  | some current =>
    let sprints :=
      if status = some "active" then
        closeActiveSprints store.sprints current.projectId sprintId
      else store.sprints
    { store with
      sprints := updateWhere (fun sprint => sprint.id = sprintId) (fun sprint => { sprint with
          name := name.getD sprint.name
          status := status.getD sprint.status
          milestoneId := milestoneId.getD sprint.milestoneId }) sprints }

/-- The work items that `delete_project_custom_field` cleans. -/
def deleteCustomField (store : WorkItemStore) (fieldId projectId : String) (now : Time) :
    WorkItemStore :=
  store.updateItems
    (fun item => item.projectId = projectId ∧ fieldId ∈ item.customFields.map Prod.fst)
    (fun item => { item with
      customFields := item.customFields.filter fun field => field.1 ≠ fieldId
      updatedAt := now })

inductive WorkItemRequest where
  | createItem (draft : WorkItemDraft)
  | createActionTask (draft : WorkItemDraft)
  | updateItem (projectId workItemId : String) (changes : WorkItemChanges)
  | updatePlanning (request : PlanningRequest) (now : Time)
  | writeStatus (workItemId : String) (status : WorkItemStatus) (assignee : Option String)
      (now : Time)
  | accept (delivery : Delivery) (now : Time)
  | deleteItem (projectId workItemId : String)
  | createMilestone (milestone : Milestone)
  | deleteMilestone (milestoneId : String)
  | createSprint (sprint : Sprint)
  | updateSprint (sprintId : String) (name status milestoneId : Option String)
  | deleteSprint (sprintId projectId : String) (now : Time)
  | deleteCustomField (fieldId projectId : String) (now : Time)

inductive WorkItemTicket where
  | create (draft : WorkItemDraft)
  | update (projectId workItemId : String) (changes : WorkItemChanges)
  | findDeleted (workItemId : String)
  | deleteItem (workItemId : String) (projectId : Option String)
  | deleteMilestone (milestoneId : String) (projectId : Option String)

structure WorkItemInput where
  now : Time
  uuid : String

def WorkItemDraft.refs (draft : WorkItemDraft) : WorkItemRefs where
  parentId := some draft.parentId
  milestoneId := some draft.milestoneId
  sprintId := some draft.sprintId
  dependencyIds := some draft.dependencyIds

def WorkItemDraft.withRefs (draft : WorkItemDraft) (refs : WorkItemRefs) : WorkItemDraft :=
  { draft with
    parentId := refs.parentId.getD ""
    milestoneId := refs.milestoneId.getD ""
    sprintId := refs.sprintId.getD ""
    dependencyIds := refs.dependencyIds.getD [] }

/-- The checks of `update_item`, once the scalar fields are validated. -/
def checkUpdateItem (strip : String → String) (store : WorkItemStore)
    (projectId workItemId : String) (changes : WorkItemChanges) :
    Except WorkItemError WorkItemChanges :=
  match store.projectItem? projectId workItemId with
  | none => .error (.http 404 "work item not found")
  | some item =>
    if changes.status = some .done ∧ item.status = .review then
      .error (.http 409 "review work item requires delivery acceptance")
    else do
      let refs ← sanitizeRefs strip store projectId (some workItemId) changes.refs
      return { changes with refs := refs }

def callWorkItems (strip : String → String) (store : WorkItemStore) :
    WorkItemRequest → Option (WorkItemStore × Option WorkItemTicket)
  | .createItem draft =>
    match sanitizeRefs strip store draft.projectId none draft.refs with
    | .ok refs => some (store, some (.create (draft.withRefs refs)))
    | .error _ => some (store, none)
  | .createActionTask draft =>
    some (store, some (.create { draft with
      parentId := "", sprintId := "", dependencyIds := [] }))
  | .updateItem projectId workItemId changes =>
    match checkUpdateItem strip store projectId workItemId changes with
    | .ok changes => some (store, some (.update projectId workItemId changes))
    | .error _ => some (store, none)
  | .updatePlanning request now =>
    match updateWorkItemPlanning store request now with
    | .ok planned => some (planned, none)
    | .error _ => some (store, none)
  | .writeStatus workItemId status assignee now =>
    some (writeWorkItemStatus store workItemId status assignee now, none)
  | .accept delivery now =>
    match acceptWorkItemDelivery store delivery now with
    | .ok accepted => some (accepted, none)
    | .error _ => some (store, none)
  | .deleteItem projectId workItemId =>
    if (store.projectItem? projectId workItemId).isSome then
      some (store, some (.findDeleted workItemId))
    else some (store, none)
  | .createMilestone milestone =>
    some ({ store with milestones := store.milestones ++ [milestone] }, none)
  | .deleteMilestone milestoneId =>
    some (store, some (.deleteMilestone milestoneId
      ((store.milestone? milestoneId).map Milestone.projectId)))
  | .createSprint sprint => some (createSprint store sprint, none)
  | .updateSprint sprintId name status milestoneId =>
    some (updateSprint store sprintId name status milestoneId, none)
  | .deleteSprint sprintId projectId now =>
    some (deleteSprint store sprintId projectId now, none)
  | .deleteCustomField fieldId projectId now =>
    some (deleteCustomField store fieldId projectId now, none)

/-- The write of a request. A new identifier was never drawn before. -/
def resumeWorkItems (store : WorkItemStore) (ticket : WorkItemTicket) (input : WorkItemInput) :
    Option (WorkItemStore × Option WorkItemTicket) :=
  match ticket with
  | .create draft =>
    if input.uuid = "" ∨ input.uuid ∈ store.issued then none
    else some (createWorkItem store draft input.uuid input.now, none)
  | .update _ workItemId changes =>
    some (updateWorkItem store workItemId changes input.now, none)
  | .findDeleted workItemId =>
    some (store, some (.deleteItem workItemId ((store.item? workItemId).map WorkItemRow.projectId)))
  | .deleteItem workItemId projectId =>
    some (deleteWorkItem store workItemId projectId input.now, none)
  | .deleteMilestone milestoneId projectId =>
    some (deleteMilestone store milestoneId projectId, none)

def workItemRoutine (strip : String → String) :
    Routine WorkItemStore WorkItemRequest WorkItemInput WorkItemTicket where
  call := callWorkItems strip
  resume := resumeWorkItems

def WorkItemStore.Empty (store : WorkItemStore) : Prop := store.items = [] ∧ store.issued = []

def emptyWorkItems : WorkItemStore := ⟨[], [], [], [], [], []⟩

def sampleDraft (projectId parentId milestoneId : String) (dependencyIds : List String) :
    WorkItemDraft where
  projectId := projectId
  title := "Ship"
  status := .todo
  source := "manual"
  assignee := ""
  description := ""
  priority := ""
  dueDate := ""
  startDate := ""
  labels := []
  parentId := parentId
  milestoneId := milestoneId
  estimateH := 0
  spentH := 0
  customFields := []
  dependencyIds := dependencyIds
  sprintId := ""

end AgentMate
