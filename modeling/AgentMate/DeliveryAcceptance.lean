import AgentMate.RunStore
import AgentMate.TransitionSystem

/-! # Acceptance of a delivery -/

namespace AgentMate.DeliveryAcceptance

open TransitionSystem List

structure WorkItem where
  id : String
  projectId : String
  status : String
  version : Nat
  updatedAt : Time

/-- A row of `work_item_acceptances`; its key is the work item. -/
structure Acceptance where
  workItemId : String
  projectId : String
  runId : String
  artifactCount : Nat
  acceptedBy : String
  acceptedAt : Time

structure BusinessRun where
  id : String
  projectId : Option String
  workItemId : Option String
  status : String
  deleted : Bool

structure BusinessAsset where
  id : String
  runId : Option String
  projectId : Option String
  storageState : String
  validationStatus : String
  acceptanceStatus : String
  acceptedBy : Option String
  acceptedAt : Option Time
  version : Nat
  updatedAt : Time
  deleted : Bool

structure Activity where
  id : String
  projectId : String
  workItemId : String
  actor : String
  kind : String
  detail : String
  createdAt : Time

structure ServerTables where
  workItems : List WorkItem
  runs : List BusinessRun
  assets : List BusinessAsset
  acceptances : List Acceptance
  activity : List Activity

structure AcceptRequest where
  projectId : String
  workItemId : String
  runId : String
  actorId : String
  actorName : String
  now : Time
  activityId : String

def ServerTables.workItem (tables : ServerTables) (request : AcceptRequest) : Option WorkItem :=
  tables.workItems.find? fun item =>
    decide (item.id = request.workItemId) && decide (item.projectId = request.projectId)

def ServerTables.acceptanceOf (tables : ServerTables) (workItemId : String) : Option Acceptance :=
  tables.acceptances.find? fun acceptance => decide (acceptance.workItemId = workItemId)

def AcceptRequest.owns (request : AcceptRequest) (asset : BusinessAsset) : Bool :=
  decide (asset.runId = some request.runId) && decide (asset.projectId = some request.projectId) &&
    !asset.deleted

/-- The part that both operations of the Server have: the acceptance found, or a new one. -/
def ServerTables.attest (tables : ServerTables) (request : AcceptRequest) (item : WorkItem)
    (count : Nat) : Except String (ServerTables × Option Acceptance) :=
  match tables.acceptanceOf request.workItemId with
  | some acceptance =>
    if acceptance.runId ≠ request.runId ∨ acceptance.artifactCount ≠ count then
      .error "work item was accepted with a different delivery"
    else .ok (tables, some acceptance)
  | none =>
    if item.status ≠ "review" then .error "work item is not awaiting acceptance"
    else if tables.acceptances.any (fun acceptance =>
        decide (acceptance.projectId = request.projectId) &&
          decide (acceptance.runId = request.runId)) then
      .error "UNIQUE constraint failed"
    else
      .ok ({ tables with
          workItems := tables.workItems.map fun row =>
            if row.id = request.workItemId then
              { row with status := "done", version := row.version + 1, updatedAt := request.now }
            else row
          acceptances := tables.acceptances ++
            [⟨request.workItemId, request.projectId, request.runId, count, request.actorId,
              request.now⟩]
          activity := tables.activity ++
            [⟨request.activityId, request.projectId, request.workItemId, request.actorName,
              "accepted", "run=" ++ request.runId ++ "; artifacts=" ++ toString count,
              request.now⟩] }, none)

def acceptWorkItemDelivery (tables : ServerTables) (request : AcceptRequest)
    (artifactCount : Nat) : Except String (ServerTables × Bool) :=
  match tables.workItem request with
  | none => .error "work item not found"
  | some item =>
    (tables.attest request item artifactCount).map fun done => (done.1, done.2.isSome)

/-- The checks of `accept_server_work_item_delivery`. -/
def ServerTables.delivery (tables : ServerTables) (request : AcceptRequest)
    (expected : Option Nat) : Except String (WorkItem × List BusinessAsset) :=
  let assets := tables.assets.filter request.owns
  match tables.workItem request, tables.runs.find? (fun run =>
      decide (run.id = request.runId) && decide (run.projectId = some request.projectId) &&
        decide (run.workItemId = some request.workItemId) && !run.deleted) with
  | none, _ => .error "work item not found"
  | some _, none => .error "run not found"
  | some item, some run =>
    if run.status ∉ ["completed", "succeeded"] then .error "run is not completed"
    else if assets.isEmpty then .error "run has no artifacts"
    else if expected.any (fun count => decide (assets.length ≠ count)) then
      .error "artifact count does not match Server delivery"
    else if assets.any (fun asset => decide (asset.storageState ≠ "committed") ||
        decide (asset.validationStatus ≠ "verified")) then
      .error "artifact integrity verification failed"
    else .ok (item, assets)

def AcceptRequest.stamp (request : AcceptRequest) (acceptedAt : Time) (asset : BusinessAsset) :
    BusinessAsset :=
  if request.owns asset then
    { asset with
      acceptanceStatus := "accepted", acceptedBy := some request.actorId
      acceptedAt := some acceptedAt, version := asset.version + 1, updatedAt := acceptedAt }
  else asset

def acceptServerWorkItemDelivery (tables : ServerTables) (request : AcceptRequest)
    (expected : Option Nat) : Except String (ServerTables × Bool) :=
  (tables.delivery request expected).bind fun delivery =>
    (tables.attest request delivery.1 delivery.2.length).map fun done =>
      let acceptedAt := (done.2.map Acceptance.acceptedAt).getD request.now
      ({ done.1 with assets := done.1.assets.map (request.stamp acceptedAt) }, done.2.isSome)

inductive Role where
  | owner | admin | mem | viewer
  deriving DecidableEq

structure LocalWorkItem where
  id : String
  projectId : String
  status : String
  updatedAt : Time

structure LocalRun where
  id : String
  projectId : Option String
  workItemId : Option String
  status : String
  endedAt : Option Time
  updatedAt : Time

structure Artifact where
  id : String
  runId : String
  validationStatus : String
  acceptanceStatus : String
  acceptedBy : Option String
  acceptedAt : Option Time
  updatedAt : Time

structure ProjectMember where
  projectId : String
  userId : String
  role : Role

/-- `projects` has the owner of each project. -/
structure LocalTables where
  workItems : List LocalWorkItem
  runs : List LocalRun
  artifacts : List Artifact
  projects : List (String × String)
  members : List ProjectMember

def LocalTables.projectAccessRole (tables : LocalTables) (projectId userId : String) :
    Option Role :=
  (tables.projects.find? fun project => decide (project.1 = projectId)).bind fun project =>
    if project.2 = userId then some .owner
    else
      (tables.members.find? fun mem =>
        decide (mem.projectId = projectId) && decide (mem.userId = userId)).map ProjectMember.role

/-- The checks of the local `accept_work_item_delivery`. -/
def LocalTables.delivery (tables : LocalTables) (request : AcceptRequest) :
    Except String (LocalWorkItem × LocalRun) :=
  let rows := tables.artifacts.filter fun row => decide (row.runId = request.runId)
  match tables.workItems.find? (fun item => decide (item.id = request.workItemId)),
    tables.runs.find? (fun run => decide (run.id = request.runId)) with
  | some item, some run =>
    if tables.projectAccessRole item.projectId request.actorId ∈ [none, some .viewer] ∨
        run.projectId ≠ some item.projectId ∨ run.workItemId ≠ some item.id then
      .error "work item delivery scope mismatch"
    else if run.status ∉ ["completed", "accepted"] then
      .error "only completed runs can be accepted"
    else if rows.isEmpty then .error "run has no artifacts"
    else if rows.any (fun row => decide (row.validationStatus ≠ "passed")) then
      .error "run has invalid artifacts"
    else .ok (item, run)
  | _, _ => .error "work item or run not found"

def acceptLocalDelivery (tables : LocalTables) (request : AcceptRequest) :
    Except String LocalTables :=
  (tables.delivery request).map fun delivery =>
    { tables with
      artifacts := tables.artifacts.map fun row =>
        if row.runId = request.runId then
          { row with
            acceptanceStatus := "accepted", acceptedBy := some request.actorId
            acceptedAt := some request.now, updatedAt := request.now }
        else row
      runs :=
        if delivery.2.status = "completed" then
          tables.runs.map fun run =>
            if run.id = request.runId then
              { run with
                status := "accepted", endedAt := some (run.endedAt.getD request.now)
                updatedAt := request.now }
            else run
        else tables.runs
      workItems := tables.workItems.map fun item =>
        if item.id = request.workItemId then
          { item with status := "done", updatedAt := request.now }
        else item }

structure Planes where
  server : ServerTables
  localPlane : LocalTables

inductive Operation where
  | attested (artifactCount : Nat)
  | verified (expected : Option Nat)
  | localPlane

def Operation.onServer : Operation → Bool
  | .localPlane => false
  | _ => true

def Planes.accept (planes : Planes) (request : AcceptRequest) : Operation → Except String Planes
  | .attested artifactCount =>
    (acceptWorkItemDelivery planes.server request artifactCount).map fun done =>
      { planes with server := done.1 }
  | .verified expected =>
    (acceptServerWorkItemDelivery planes.server request expected).map fun done =>
      { planes with server := done.1 }
  | .localPlane =>
    (acceptLocalDelivery planes.localPlane request).map fun tables =>
      { planes with localPlane := tables }

def Planes.accepted (planes : Planes) (request : AcceptRequest) (operation : Operation) : Planes :=
  match planes.accept request operation with
  | .ok next => next
  | .error _ => planes

structure Facts where
  statuses : List (String × String × Nat)
  acceptances : List Acceptance
  assets : List (String × Option String × Option Time × Nat)
  activity : List Activity
  localStatuses : List (String × String)
  artifacts : List (String × Option String × Option Time)

def WorkItem.facts (item : WorkItem) : String × String × Nat := (item.id, item.status, item.version)

def BusinessAsset.facts (asset : BusinessAsset) : String × Option String × Option Time × Nat :=
  (asset.id, asset.acceptedBy, asset.acceptedAt, asset.version)

def LocalWorkItem.facts (item : LocalWorkItem) : String × String := (item.id, item.status)

def Artifact.facts (row : Artifact) : String × Option String × Option Time :=
  (row.id, row.acceptedBy, row.acceptedAt)

def Planes.facts (planes : Planes) : Facts where
  statuses := planes.server.workItems.map WorkItem.facts
  acceptances := planes.server.acceptances
  assets := planes.server.assets.map BusinessAsset.facts
  activity := planes.server.activity
  localStatuses := planes.localPlane.workItems.map LocalWorkItem.facts
  artifacts := planes.localPlane.artifacts.map Artifact.facts

structure Attempt where
  request : AcceptRequest
  operation : Operation
  replay : Bool
  committed : Bool
  before : Planes
  after : Planes

/-- `known` has every identifier that a work item of the Server ever had. -/
structure DeliveryRun where
  planes : Planes
  known : List String
  log : List Attempt

def DeliveryRun.replays (run : DeliveryRun) (request : AcceptRequest) (operation : Operation) :
    Bool :=
  run.log.any fun attempt =>
    attempt.committed && decide (attempt.operation.onServer = operation.onServer) &&
      decide (attempt.request.workItemId = request.workItemId) &&
        decide (attempt.request.runId = request.runId)

inductive DeliveryAction where
  | accept (request : AcceptRequest) (operation : Operation)
  | createItem (item : WorkItem)
  | deleteItem (workItemId : String)
  | rewrite (next : Planes)

def ServerTables.deleteWorkItem (tables : ServerTables) (workItemId : String) : ServerTables :=
  { tables with
    workItems := tables.workItems.filter fun item => decide (item.id ≠ workItemId)
    activity := tables.activity.filter fun entry => decide (entry.workItemId ≠ workItemId)
    acceptances := tables.acceptances.filter fun row => decide (row.workItemId ≠ workItemId) }

def DeliveryRun.attempted (run : DeliveryRun) (request : AcceptRequest) (operation : Operation) :
    DeliveryRun :=
  let after := run.planes.accepted request operation
  { run with
    planes := after
    log := ⟨request, operation, run.replays request operation,
      (run.planes.accept request operation).toBool, run.planes, after⟩ :: run.log }

/-- All other writes may change anything but the acceptances and the work items there are. -/
inductive DeliveryStep : DeliveryRun → DeliveryAction → DeliveryRun → Prop
  | accept (run : DeliveryRun) (request : AcceptRequest) (operation : Operation) :
      DeliveryStep run (.accept request operation) (run.attempted request operation)
  | createItem (run : DeliveryRun) (item : WorkItem) (fresh : item.id ∉ run.known) :
      DeliveryStep run (.createItem item)
        { run with
          known := item.id :: run.known
          planes.server.workItems := item :: run.planes.server.workItems }
  | deleteItem (run : DeliveryRun) (workItemId : String) : DeliveryStep run (.deleteItem workItemId)
        { run with planes.server := run.planes.server.deleteWorkItem workItemId }
  | rewrite (run : DeliveryRun) (next : Planes)
      (acceptances : next.server.acceptances = run.planes.server.acceptances)
      (items : next.server.workItems.map WorkItem.id =
        run.planes.server.workItems.map WorkItem.id) :
      DeliveryStep run (.rewrite next) { run with planes := next }

def deliveryMachine : Machine DeliveryRun DeliveryAction where
  Initial run := run.log = [] ∧ ∀ item ∈ run.planes.server.workItems, item.id ∈ run.known
  Step := DeliveryStep

/-- When a repeated request leaves the facts alone. -/
def Operation.Harmless (request : AcceptRequest) (planes : Planes) : Operation → Prop
  | .attested _ => True
  | .verified expected =>
    ∀ delivery, planes.server.delivery request expected = .ok delivery →
      ∀ acceptance, planes.server.acceptanceOf request.workItemId = some acceptance →
        acceptance.artifactCount ≠ delivery.2.length
  | .localPlane =>
    ∀ delivery, planes.localPlane.delivery request = .ok delivery →
      (∀ item ∈ planes.localPlane.workItems, item.id = request.workItemId → item.status = "done") ∧
        ∀ row ∈ planes.localPlane.artifacts, row.runId = request.runId →
          row.acceptedBy = some request.actorId ∧ row.acceptedAt = some request.now

def HarmlessReplay (run : DeliveryRun) : DeliveryAction → Prop
  | .accept request operation =>
    run.replays request operation = true → operation.Harmless request run.planes
  | _ => True

structure Attempt.Once (attempt : Attempt) : Prop where
  refused : attempt.committed = false → attempt.after = attempt.before
  replay : attempt.replay = true → attempt.after.facts = attempt.before.facts

def ServerTables.Recorded (tables : ServerTables) (workItemId runId : String) : Prop :=
  workItemId ∈ tables.workItems.map WorkItem.id →
    ∃ acceptance, tables.acceptanceOf workItemId = some acceptance ∧ acceptance.runId = runId

/-- What a committed request of the Server has done to the work items and the acceptances. -/
structure Attested (tables : ServerTables) (request : AcceptRequest) (next : ServerTables) :
    Prop where
  present : request.workItemId ∈ tables.workItems.map WorkItem.id
  ids : next.workItems.map WorkItem.id = tables.workItems.map WorkItem.id
  kept : ∀ workItemId acceptance, tables.acceptanceOf workItemId = some acceptance →
    next.acceptanceOf workItemId = some acceptance
  recorded : ∃ acceptance, next.acceptanceOf request.workItemId = some acceptance ∧
    acceptance.runId = request.runId

section

variable {tables : ServerTables} {request : AcceptRequest} {item : WorkItem} {count : Nat}

theorem work_item_present (found : tables.workItem request = some item) :
    request.workItemId ∈ tables.workItems.map WorkItem.id := by
  have matched := find?_some found
  rw [Bool.and_eq_true, decide_eq_true_eq] at matched
  exact mem_map.mpr ⟨item, mem_of_find?_eq_some found, matched.1⟩

theorem attest_found {acceptance : Acceptance}
    (found : tables.acceptanceOf request.workItemId = some acceptance)
    (same : acceptance.runId = request.runId) :
    tables.attest request item count =
      if acceptance.artifactCount ≠ count then
        .error "work item was accepted with a different delivery"
      else .ok (tables, some acceptance) := by
  simp [ServerTables.attest, found, same]

theorem attest_attested {next : ServerTables × Option Acceptance}
    (present : tables.workItem request = some item)
    (done : tables.attest request item count = .ok next) : Attested tables request next.1 := by
  have known := work_item_present present
  unfold ServerTables.attest at done
  split at done
  · next acceptance found =>
    split at done
    · cases done
    · next agree =>
      cases done
      rw [not_or, not_not] at agree
      exact ⟨known, rfl, fun _ _ kept => kept, acceptance, found, agree.1⟩
  · next missing =>
    split at done
    · cases done
    · split at done
      · cases done
      · cases done
        refine ⟨known, ?_, ?_, ⟨request.workItemId, request.projectId, request.runId, count,
          request.actorId, request.now⟩, ?_, rfl⟩
        · rw [map_map]
          refine map_congr_left fun row _ => ?_
          rw [Function.comp_apply]
          split <;> rfl
        · intro workItemId acceptance kept
          rw [ServerTables.acceptanceOf] at kept ⊢
          rw [find?_append, kept, Option.some_or]
        · rw [ServerTables.acceptanceOf] at missing ⊢
          rw [find?_append, missing, Option.none_or]
          simp

theorem delivery_item {expected : Option Nat} {delivery : WorkItem × List BusinessAsset}
    (checked : tables.delivery request expected = .ok delivery) :
    tables.workItem request = some delivery.1 ∧
      ∃ asset ∈ tables.assets, request.owns asset = true := by
  simp only [ServerTables.delivery] at checked
  split at checked
  · cases checked
  · cases checked
  · next item run found _ =>
    split at checked
    · cases checked
    · split at checked
      · cases checked
      · next nonempty =>
        split at checked
        · cases checked
        · split at checked
          · cases checked
          · cases checked
            refine ⟨found, ?_⟩
            rw [List.isEmpty_iff] at nonempty
            obtain ⟨asset, mem⟩ := exists_mem_of_ne_nil _ nonempty
            exact ⟨asset, mem_filter.mp mem⟩

end

theorem accept_attested {planes next : Planes} {request : AcceptRequest} {operation : Operation}
    (server : operation.onServer = true) (done : planes.accept request operation = .ok next) :
    Attested planes.server request next.server := by
  cases operation with
  | localPlane => cases server
  | attested artifactCount =>
    simp only [Planes.accept, acceptWorkItemDelivery] at done
    split at done
    · cases done
    · next item present =>
      cases attested : planes.server.attest request item artifactCount with
      | error message =>
        rw [attested] at done
        cases done
      | ok found =>
        rw [attested] at done
        cases done
        exact attest_attested present attested
  | verified expected =>
    simp only [Planes.accept, acceptServerWorkItemDelivery] at done
    cases checked : planes.server.delivery request expected with
    | error message =>
      rw [checked] at done
      cases done
    | ok delivery =>
      cases attested : planes.server.attest request delivery.1 delivery.2.length with
      | error message =>
        rw [checked, Except.bind, attested] at done
        cases done
      | ok found =>
        rw [checked, Except.bind, attested] at done
        cases done
        obtain ⟨present, ids, kept, recorded⟩ :=
          attest_attested (delivery_item checked).1 attested
        exact ⟨present, ids, kept, recorded⟩

structure DeliveryRun.Inv (run : DeliveryRun) : Prop where
  known : ∀ workItemId ∈ run.planes.server.workItems.map WorkItem.id, workItemId ∈ run.known
  recorded : ∀ attempt ∈ run.log, attempt.committed = true → attempt.operation.onServer = true →
    attempt.request.workItemId ∈ run.known ∧
      run.planes.server.Recorded attempt.request.workItemId attempt.request.runId

theorem recorded_attested {tables next : ServerTables} {request : AcceptRequest}
    (attested : Attested tables request next) {workItemId runId : String}
    (recorded : tables.Recorded workItemId runId) : next.Recorded workItemId runId := by
  intro present
  rw [attested.ids] at present
  obtain ⟨acceptance, found, same⟩ := recorded present
  exact ⟨acceptance, attested.kept _ _ found, same⟩

theorem recorded_deleted {tables : ServerTables} {deleted workItemId runId : String}
    (recorded : tables.Recorded workItemId runId) :
    (tables.deleteWorkItem deleted).Recorded workItemId runId := by
  intro present
  obtain ⟨item, mem, rfl⟩ := mem_map.mp present
  obtain ⟨old, other⟩ := mem_filter.mp mem
  obtain ⟨acceptance, found, same⟩ := recorded (mem_map.mpr ⟨item, old, rfl⟩)
  refine ⟨acceptance, ?_, same⟩
  rw [ServerTables.acceptanceOf] at found ⊢
  rw [ServerTables.deleteWorkItem, find?_filter, ← found]
  congr 1
  funext row
  by_cases owner : row.workItemId = item.id
  · simpa [owner] using other
  · simp [owner]

theorem delivery_step_inv {run next : DeliveryRun} {action : DeliveryAction} (inv : run.Inv)
    (step : DeliveryStep run action next) : next.Inv := by
  cases step with
  | createItem item fresh =>
    constructor
    · intro workItemId mem
      rcases mem_cons.mp mem with rfl | old
      · exact mem_cons_self
      · exact mem_cons_of_mem _ (inv.known workItemId old)
    · intro attempt logged committed server
      obtain ⟨known, recorded⟩ := inv.recorded attempt logged committed server
      refine ⟨mem_cons_of_mem _ known, fun present => ?_⟩
      rcases mem_cons.mp present with same | old
      · exact absurd (same ▸ known) fresh
      · exact recorded old
  | deleteItem workItemId =>
    constructor
    · intro other mem
      obtain ⟨item, kept, rfl⟩ := mem_map.mp mem
      exact inv.known _ (mem_map.mpr ⟨item, mem_of_mem_filter kept, rfl⟩)
    · intro attempt logged committed server
      obtain ⟨known, recorded⟩ := inv.recorded attempt logged committed server
      exact ⟨known, recorded_deleted recorded⟩
  | rewrite next acceptances items =>
    constructor
    · intro workItemId mem
      exact inv.known workItemId (items ▸ mem)
    · intro attempt logged committed server
      obtain ⟨known, recorded⟩ := inv.recorded attempt logged committed server
      refine ⟨known, fun present => ?_⟩
      rw [ServerTables.acceptanceOf, acceptances]
      exact recorded (items ▸ present)
  | accept request operation =>
    -- a refused or local request leaves the Server's tables, any other one has its record
    have moved : (run.planes.accepted request operation).server = run.planes.server ∨
        Attested run.planes.server request (run.planes.accepted request operation).server := by
      rw [Planes.accepted]
      split
      · next after done =>
        cases server : operation.onServer with
        | true => exact .inr (accept_attested server done)
        | false =>
          cases operation with
          | localPlane =>
            left
            simp only [Planes.accept] at done
            cases accepted : acceptLocalDelivery run.planes.localPlane request with
            | error message =>
              rw [accepted] at done
              cases done
            | ok tables =>
              rw [accepted] at done
              cases done
              rfl
          | attested artifactCount => cases server
          | verified expected => cases server
      · exact .inl rfl
    constructor
    · intro workItemId mem
      rcases moved with same | attested
      · exact inv.known workItemId (same ▸ mem)
      · exact inv.known workItemId (attested.ids ▸ mem)
    · intro attempt logged committed server
      rcases mem_cons.mp logged with rfl | old
      · cases done : run.planes.accept request operation with
        | error message => simp [done, Except.toBool] at committed
        | ok after =>
          have attested := accept_attested server done
          refine ⟨inv.known _ attested.present, fun _ => ?_⟩
          simp only [DeliveryRun.attempted, Planes.accepted, done]
          exact attested.recorded
      · obtain ⟨known, recorded⟩ := inv.recorded attempt old committed server
        refine ⟨known, ?_⟩
        simp only [DeliveryRun.attempted]
        rcases moved with same | attested
        · rwa [same]
        · exact recorded_attested attested recorded

section

variable {run : DeliveryRun} {request : AcceptRequest}

variable {operation : Operation}

theorem replay_recorded (inv : run.Inv)
    (server : operation.onServer = true) (replay : run.replays request operation = true) :
    run.planes.server.Recorded request.workItemId request.runId := by
  obtain ⟨attempt, logged, same⟩ := any_eq_true.mp replay
  simp only [Bool.and_eq_true, decide_eq_true_eq, server] at same
  obtain ⟨⟨⟨committed, onServer⟩, workItem⟩, runId⟩ := same
  exact workItem ▸ runId ▸ (inv.recorded attempt logged committed onServer).2

theorem attested_replay_kept {artifactCount : Nat} (inv : run.Inv)
    (replay : run.replays request (.attested artifactCount) = true) :
    run.planes.accepted request (.attested artifactCount) = run.planes := by
  simp only [Planes.accepted, Planes.accept, acceptWorkItemDelivery]
  cases present : run.planes.server.workItem request with
  | none => rfl
  | some item =>
    obtain ⟨acceptance, found, same⟩ := replay_recorded inv rfl replay (work_item_present present)
    simp only [attest_found found same]
    by_cases agree : acceptance.artifactCount = artifactCount
    · rw [if_neg (not_not.mpr agree)]
      rfl
    · rw [if_pos agree]
      rfl

theorem verified_replay_iff {expected : Option Nat} (inv : run.Inv)
    (replay : run.replays request (.verified expected) = true) :
    (run.planes.accepted request (.verified expected)).facts = run.planes.facts ↔
      (Operation.verified expected).Harmless request run.planes := by
  simp only [Planes.accepted, Planes.accept, acceptServerWorkItemDelivery, Operation.Harmless]
  cases checked : run.planes.server.delivery request expected with
  | error message => exact iff_of_true rfl (by rintro _ ⟨⟩)
  | ok delivery =>
    obtain ⟨present, asset, mem, owned⟩ := delivery_item checked
    obtain ⟨acceptance, found, same⟩ := replay_recorded inv rfl replay (work_item_present present)
    rw [Except.bind, attest_found found same]
    by_cases agree : acceptance.artifactCount = delivery.2.length
    · rw [if_neg (not_not.mpr agree)]
      apply iff_of_false
      · intro kept
        have assets := congrArg Facts.assets kept
        simp only [Except.map, Planes.facts, map_map] at assets
        have version := congrArg (fun facts => facts.2.2.2) (map_inj_left.mp assets asset mem)
        simp [BusinessAsset.facts, AcceptRequest.stamp, owned] at version
      · exact fun harmless => harmless delivery rfl acceptance found agree
    · rw [if_pos agree]
      refine iff_of_true rfl ?_
      rintro _ ⟨⟩ other known
      rw [found] at known
      cases known
      exact agree

theorem local_replay_iff : (run.planes.accepted request .localPlane).facts = run.planes.facts ↔
      Operation.localPlane.Harmless request run.planes := by
  simp only [Planes.accepted, Planes.accept, acceptLocalDelivery, Operation.Harmless]
  cases checked : run.planes.localPlane.delivery request with
  | error message => exact iff_of_true rfl (by rintro _ ⟨⟩)
  | ok delivery =>
    simp only [Except.map, Planes.facts, Facts.mk.injEq, map_map, map_inj_left, true_and]
    constructor
    · rintro ⟨items, rows⟩ _ ⟨⟩
      constructor
      · intro item mem owner
        have status := congrArg Prod.snd (items item mem)
        simpa [LocalWorkItem.facts, owner] using status.symm
      · intro row mem owner
        have marks := congrArg Prod.snd (rows row mem)
        simpa [Artifact.facts, owner, eq_comm] using marks
    · intro harmless
      obtain ⟨done, stamped⟩ := harmless delivery rfl
      constructor
      · intro item mem
        rw [Function.comp_apply]
        split
        · next owner => rw [LocalWorkItem.facts, LocalWorkItem.facts, done item mem owner]
        · rfl
      · intro row mem
        rw [Function.comp_apply]
        split
        · next owner =>
          obtain ⟨actor, time⟩ := stamped row mem owner
          rw [Artifact.facts, Artifact.facts, actor, time]
        · rfl

theorem harmless_iff (inv : run.Inv) (replay : run.replays request operation = true) :
    (run.planes.accepted request operation).facts = run.planes.facts ↔
      operation.Harmless request run.planes := by
  cases operation with
  | attested artifactCount =>
    exact iff_of_true (congrArg Planes.facts (attested_replay_kept inv replay)) trivial
  | verified expected => exact verified_replay_iff inv replay
  | localPlane => exact local_replay_iff

theorem refused_kept (refused : (run.planes.accept request operation).toBool = false) :
    run.planes.accepted request operation = run.planes := by
  rw [Planes.accepted]
  cases done : run.planes.accept request operation with
  | error message => rfl
  | ok next => simp [done, Except.toBool] at refused

end

theorem initial_inv {run : DeliveryRun} (initial : deliveryMachine.Initial run) : run.Inv := by
  refine ⟨fun workItemId mem => ?_, fun attempt logged => ?_⟩
  · obtain ⟨item, old, rfl⟩ := mem_map.mp mem
    exact initial.2 item old
  · rw [initial.1] at logged
    cases logged

/-- In a run whose repeated requests are harmless every acceptance happened once; and a repeated
request is harmless exactly where it leaves the facts alone. -/
theorem acceptance_once (run : DeliveryRun) :
    (deliveryMachine.Reachable HarmlessReplay run → ∀ attempt ∈ run.log, attempt.Once) ∧
    (deliveryMachine.Reachable Anything run → ∀ request operation,
      run.replays request operation = true →
        ((run.planes.accepted request operation).facts = run.planes.facts ↔
          operation.Harmless request run.planes)) := by
  constructor
  · intro reachable
    refine (reachable_invariant (fun run => run.Inv ∧ ∀ attempt ∈ run.log, attempt.Once)
      (fun start initial => ⟨initial_inv initial, ?_⟩) ?_ reachable).2
    · rw [initial.1]
      rintro _ ⟨⟩
    · rintro state action next ⟨inv, once⟩ guarded step
      refine ⟨delivery_step_inv inv step, ?_⟩
      cases step with
      | createItem item fresh => exact once
      | deleteItem workItemId => exact once
      | rewrite next acceptances items => exact once
      | accept request operation =>
        intro attempt logged
        rcases mem_cons.mp logged with rfl | old
        · exact ⟨refused_kept, fun replay => (harmless_iff inv replay).mpr (guarded replay)⟩
        · exact once attempt old
  · intro reachable request operation replay
    exact harmless_iff (reachable_invariant DeliveryRun.Inv (fun _ => initial_inv)
      (fun _ _ _ inv _ step => delivery_step_inv inv step) reachable) replay

def sampleRun : DeliveryRun where
  planes := {
    server := {
      workItems := [⟨"w1", "p1", "review", 1, 0⟩]
      runs := [⟨"r1", some "p1", some "w1", "completed", false⟩]
      assets := [⟨"a1", some "r1", some "p1", "committed", "verified", "pending", none, none, 1, 0,
        false⟩]
      acceptances := []
      activity := [] }
    localPlane := ⟨[], [], [], [], []⟩ }
  known := ["w1"]
  log := []

def acceptedBy (actorId : String) : AcceptRequest :=
  ⟨"p1", "w1", "r1", actorId, actorId, 5, "e1"⟩

def Planes.reopened (planes : Planes) : Planes :=
  { planes with
    server.workItems := planes.server.workItems.map fun item => { item with status := "doing" } }

def acceptedRun (operation : Operation) : DeliveryRun :=
  sampleRun.attempted (acceptedBy "u1") operation

def reopenedRun (operation : Operation) : DeliveryRun :=
  { acceptedRun operation with planes := (acceptedRun operation).planes.reopened }

theorem reopened_reached (operation : Operation) :
    deliveryMachine.Reachable HarmlessReplay (reopenedRun operation) := by
  refine ⟨sampleRun, ⟨rfl, ?_⟩, .step (.step (.refl _) ?_ (DeliveryStep.accept _ _ operation)) ?_
    (DeliveryStep.rewrite _ (acceptedRun operation).planes.reopened rfl ?_)⟩
  · intro item mem
    rw [mem_singleton.mp mem]
    exact mem_singleton.mpr rfl
  · rintro ⟨⟩
  · trivial
  · simp only [Planes.reopened, map_map]
    rfl

theorem second_attestation_once :
    ((reopenedRun (.attested 1)).attempted (acceptedBy "u2") (.attested 1)).log.map
      (fun attempt => (attempt.replay, attempt.committed)) = [(true, true), (false, true)] ∧
    (∀ attempt ∈ ((reopenedRun (.attested 1)).attempted (acceptedBy "u2") (.attested 1)).log,
      attempt.Once) ∧
    ((reopenedRun (.attested 1)).planes.accepted (acceptedBy "u2") (.attested 1)).facts =
      (reopenedRun (.attested 1)).planes.facts := by
  have reached := reopened_reached (.attested 1)
  have again : deliveryMachine.Reachable HarmlessReplay
      ((reopenedRun (.attested 1)).attempted (acceptedBy "u2") (.attested 1)) :=
    reachable_step reached (by exact fun _ => trivial) (DeliveryStep.accept _ _ _)
  refine ⟨by decide +kernel, (acceptance_once _).1 again, ?_⟩
  exact ((acceptance_once _).2 (reachable_weaken (fun _ _ _ => trivial) reached) (acceptedBy "u2")
    (.attested 1) (by decide +kernel)).mpr trivial

theorem second_acceptance_stamped : deliveryMachine.Reachable Anything
      ((reopenedRun (.verified (some 1))).attempted (acceptedBy "u2") (.verified (some 1))) ∧
    ((reopenedRun (.verified (some 1))).attempted (acceptedBy "u2") (.verified (some 1))).log.map
      (fun attempt => (attempt.replay, attempt.committed, attempt.before.facts.assets,
        attempt.after.facts.assets)) =
      [(true, true, [("a1", some "u1", some 5, 2)], [("a1", some "u2", some 5, 3)]),
        (false, true, [("a1", none, none, 1)], [("a1", some "u1", some 5, 2)])] := by
  refine ⟨?_, by rfl⟩
  exact reachable_step (reachable_weaken (fun _ _ _ => trivial) (reopened_reached _)) trivial
    (DeliveryStep.accept _ _ _)

end AgentMate.DeliveryAcceptance
