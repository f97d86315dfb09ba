import AgentMate.Interleaving
import AgentMate.JsonText
import AgentMate.RunStore

/-!
# Runs and artifacts of the local plane

The `runs` and `artifacts` tables of the local database with every function that writes
`runs.status` or `artifacts.acceptance_status`. A function that reads a row and writes it in a
later statement takes one step for each; a `BEGIN IMMEDIATE` block is one step. The endpoints,
the execution coroutine and the recoveries are requests of one system, in any order.

The scope checks before an insert write nothing and are left out. Which Runs a recovery of
automation fires looks at is decided by the fires, so it may come for any Run.
-/

namespace AgentMate.LocalRuns

open Table Interleaving TransitionSystem

inductive RunStatus where
  | draft | planning | waitingApproval | running | paused
  | failed | completed | accepted | cancelled
  deriving DecidableEq, Repr

def runTransitions : RunStatus → List RunStatus
  | .draft => [.planning, .running, .cancelled]
  | .planning => [.waitingApproval, .running, .paused, .failed, .completed, .cancelled]
  | .waitingApproval => [.running, .paused, .failed, .cancelled]
  | .running => [.waitingApproval, .paused, .failed, .completed, .cancelled]
  | .paused => [.running, .failed, .cancelled]
  | .failed => []
  | .completed => [.accepted]
  | .accepted => []
  | .cancelled => []

def RunStatus.isEnded : RunStatus → Bool
  | .failed | .completed | .accepted | .cancelled => true
  | _ => false

structure SessionRow where
  id : String
  kind : String
  status : String
  updatedAt : Time

/-- A row of `runs`; `checkpoint` holds the decoded object. -/
structure RunRow where
  id : String
  sessionId : String
  projectId : Option String
  workItemId : Option String
  status : RunStatus
  errorCode : Option String
  errorMessage : Option String
  checkpoint : List (String × Json)
  startedAt : Option Time
  endedAt : Option Time
  createdAt : Time
  updatedAt : Time

inductive AcceptanceStatus where
  | pending | accepted | rejected
  deriving DecidableEq, Repr

structure ArtifactRow where
  id : String
  runId : String
  path : String
  sourceTool : String
  validationStatus : String
  previewPath : Option String
  isPrimary : Bool
  displayOrder : Nat
  acceptanceStatus : AcceptanceStatus
  acceptedBy : Option String
  acceptedAt : Option Time
  createdAt : Time
  updatedAt : Time

/-- A row of `work_items`. -/
structure ItemRow where
  id : String
  projectId : String
  status : String
  updatedAt : Time

structure RunStore where
  sessions : List SessionRow
  runs : List RunRow
  artifacts : List ArtifactRow
  items : List ItemRow
  issued : List String

variable {store next : RunStore}

def RunStore.run? (store : RunStore) (runId : String) : Option RunRow :=
  lookup RunRow.id runId store.runs

def RunStore.artifactsOf (store : RunStore) (runId : String) : List ArtifactRow :=
  store.artifacts.filter fun artifact => artifact.runId = runId

inductive RunMode where
  | chat | plan
  deriving DecidableEq, Repr

structure NewRun where
  id : String
  sessionId : String
  projectId : Option String
  workItemId : Option String
  mode : RunMode
  /-- `create_retry_run` asks for a paused Run -/
  retry : Bool

def NewRun.initial (request : NewRun) : RunStatus :=
  if request.retry then .paused else if request.mode = .plan then .planning else .running

/-- The insert of `create_run`. -/
def createRun (store : RunStore) (request : NewRun) (now : Time) : Option RunStore :=
  if request.id ∉ store.issued ∧ ∃ session ∈ store.sessions, session.id = request.sessionId then
    some { store with
      runs := store.runs ++ [{
        id := request.id, sessionId := request.sessionId, projectId := request.projectId
        workItemId := request.workItemId, status := request.initial, errorCode := none
        errorMessage := none, checkpoint := []
        startedAt := if request.initial = .paused then none else some now
        endedAt := none, createdAt := now, updatedAt := now }]
      issued := request.id :: store.issued }
  else none

def deleteSession (store : RunStore) (sessionId : String) : RunStore :=
  { store with
    sessions := store.sessions.filter fun session => session.id ≠ sessionId
    runs := store.runs.filter fun run => run.sessionId ≠ sessionId
    artifacts := store.artifacts.filter fun artifact =>
      ∀ run ∈ store.runs, run.sessionId = sessionId → run.id ≠ artifact.runId }

/-- The arguments of `set_run_status`. -/
structure StatusCall where
  runId : String
  status : RunStatus
  errorCode : Option String
  errorMessage : Option String
  checkpoint : Option (List (String × Json))

def transitionAllowed (seen status : RunStatus) : Bool :=
  status = seen || status ∈ runTransitions seen

def writeStatus (store : RunStore) (seen : RunRow) (call : StatusCall) (now : Time) : RunStore :=
  { store with
    runs := updateWhere (fun run => run.id = call.runId) (fun run =>
      { run with
        status := call.status, errorCode := call.errorCode, errorMessage := call.errorMessage
        checkpoint := call.checkpoint.getD seen.checkpoint
        endedAt := if call.status.isEnded then some now else run.endedAt
        updatedAt := now }) store.runs }

def statusName : RunStatus → String
  | .draft => "draft"
  | .planning => "planning"
  | .waitingApproval => "waiting_approval"
  | .running => "running"
  | .paused => "paused"
  | .failed => "failed"
  | .completed => "completed"
  | .accepted => "accepted"
  | .cancelled => "cancelled"

/-- The Runs that `recover_stale_runs` selects. -/
def RunStore.Stale (store : RunStore) (run : RunRow) : Prop :=
  (run.status = .planning ∨ run.status = .waitingApproval ∨ run.status = .running) ∧
    ∃ session ∈ store.sessions, session.id = run.sessionId ∧ session.kind ≠ "automation"

instance (run : RunRow) : Decidable (store.Stale run) := by
  unfold RunStore.Stale
  infer_instance

/-- `timeJson` stands for the number that `recovered_at` is stored as. -/
def recoverStaleRuns (store : RunStore) (timeJson : Time → Json) (now : Time) : RunStore :=
  { store with
    runs := updateWhere store.Stale (fun run =>
      { run with
        status := .paused, errorCode := some "process_restarted"
        errorMessage := some "Backend restarted before the Run finished"
        checkpoint := [("reason", .str "process_restarted"),
          ("previous_status", .str (statusName run.status)),
          ("recovered_at", timeJson now)].foldl insertField run.checkpoint
        updatedAt := now }) store.runs
    sessions := updateWhere (fun session => ∃ run ∈ store.runs, store.Stale run ∧
        run.sessionId = session.id) (fun session =>
      { session with status := "idle", updatedAt := now }) store.sessions }

structure NewArtifact where
  runId : String
  path : String
  sourceTool : String
  previewPath : Option String
  isPrimary : Bool
  displayOrder : Option Int

def NewArtifact.order (request : NewArtifact) (before : Nat) : Nat :=
  (request.displayOrder.map fun order => (max 0 order).toNat).getD before

/-- The transaction of `upsert_artifact`; a Run that was deleted since rolls it back. -/
def upsertArtifact (store : RunStore) (request : NewArtifact) (artifactId : String)
    (now : Time) : RunStore :=
  if (store.run? request.runId).isNone then store
  else
    let own := store.artifactsOf request.runId
    let demoted (primary : Bool) := updateWhere
      (fun artifact : ArtifactRow => primary ∧ artifact.runId = request.runId)
      (fun artifact => { artifact with isPrimary := false }) store.artifacts
    match own.find? fun artifact => artifact.path = request.path with
    | some old =>
      let primary := old.isPrimary || request.isPrimary
      { store with
        artifacts := updateWhere
          (fun artifact => artifact.runId = request.runId ∧ artifact.path = request.path)
          (fun artifact =>
            { artifact with
              sourceTool := request.sourceTool, validationStatus := "passed"
              previewPath := request.previewPath.orElse fun _ => artifact.previewPath
              isPrimary := primary, displayOrder := request.order old.displayOrder
              acceptanceStatus := .pending, acceptedBy := none, acceptedAt := none
              updatedAt := now }) (demoted primary) }
    | none =>
      let primary := own.isEmpty || request.isPrimary
      let last := own.foldl (fun order artifact => max order (artifact.displayOrder + 1)) 0
      { store with
        artifacts := demoted primary ++ [{
          id := artifactId, runId := request.runId, path := request.path
          sourceTool := request.sourceTool, validationStatus := "passed"
          previewPath := request.previewPath, isPrimary := primary
          displayOrder := request.order last, acceptanceStatus := .pending
          acceptedBy := none, acceptedAt := none, createdAt := now, updatedAt := now }] }

/-- The update of `review_artifact`. -/
def writeReview (store : RunStore) (artifactId : String) (status : AcceptanceStatus)
    (actorId : String) (now : Time) : RunStore :=
  { store with
    artifacts := updateWhere (fun artifact => artifact.id = artifactId) (fun artifact =>
      { artifact with
        acceptanceStatus := status
        acceptedBy := if status = .pending then none else some actorId
        acceptedAt := if status = .pending then none else some now
        updatedAt := now }) store.artifacts }

def RunStore.remaining (store : RunStore) (runId : String) : Nat :=
  (store.artifactsOf runId).countP fun artifact => artifact.acceptanceStatus ≠ .accepted

structure DeliveryCall where
  workItemId : String
  runId : String
  actorId : String
  /-- the actor's role in the project of the item is one that edits -/
  mayEdit : Bool

/-- What the transaction of `accept_work_item_delivery` asks of the rows it read. -/
def deliverable (store : RunStore) (call : DeliveryCall) (item : ItemRow) (run : RunRow) : Prop :=
  call.mayEdit ∧ run.projectId = some item.projectId ∧ run.workItemId = some item.id ∧
    (run.status = .completed ∨ run.status = .accepted) ∧ store.artifactsOf run.id ≠ [] ∧
      ∀ artifact ∈ store.artifactsOf run.id, artifact.validationStatus = "passed"

instance (call : DeliveryCall) (item : ItemRow) (run : RunRow) :
    Decidable (deliverable store call item run) := by
  unfold deliverable
  infer_instance

def acceptDelivery (store : RunStore) (call : DeliveryCall) (now : Time) : Option RunStore := do
  let item ← lookup ItemRow.id call.workItemId store.items
  let run ← store.run? call.runId
  if deliverable store call item run then
    some { store with
      artifacts := updateWhere (fun artifact => artifact.runId = run.id) (fun artifact =>
        { artifact with
          acceptanceStatus := .accepted, acceptedBy := some call.actorId
          acceptedAt := some now, updatedAt := now }) store.artifacts
      runs := updateWhere (fun other => run.status = .completed ∧ other.id = run.id) (fun other =>
          { other with
            status := .accepted, endedAt := other.endedAt.orElse fun _ => some now
            updatedAt := now }) store.runs
      items := updateWhere (fun other => other.id = item.id) (fun other =>
        { other with status := "done", updatedAt := now }) store.items }
  else none

inductive RunRequest where
  | createSession (id kind : String)
  | createRun (request : NewRun)
  | deleteSession (sessionId : String)
  /-- a call of `set_run_status`, or of a caller that first looks for one of `expected`; only a
  review asks for `accepted` -/
  | setStatus (expected : Option (List RunStatus)) (call : StatusCall)
      (direct : call.status ≠ .accepted)
  | recoverStaleRuns
  | upsertArtifact (request : NewArtifact)
  | reviewArtifact (artifactId : String) (status : AcceptanceStatus) (actorId : String)
  | acceptDelivery (call : DeliveryCall)

inductive RunTicket where
  /-- before `set_run_status` reads the Run -/
  | read (call : StatusCall)
  /-- after it checked the transition from the row it read -/
  | write (seen : RunRow) (call : StatusCall)
  | upsert (request : NewArtifact)
  | reviewed (artifactId : String) (status : AcceptanceStatus)
  | counting (runId : String)
  | judging (runId : String) (remaining : Nat)

structure RunInput where
  now : Time
  artifactId : String

theorem failed_direct : RunStatus.failed ≠ .accepted := by decide

/-- `recover_stale_automation_fires`, for the Run of a fire. -/
def recoverFire (runId : String) : RunRequest :=
  .setStatus (some [.planning, .waitingApproval, .running, .paused])
    ⟨runId, .failed, some "scheduler_restarted",
      some "Automation worker stopped before the attempt finished", none⟩ failed_direct

def takeOverAttempt (runId : String) : RunRequest :=
  .setStatus (some [.running, .planning, .waitingApproval])
    ⟨runId, .failed, some "worker_restarted", some "后台任务租约失效，已由恢复尝试接管", none⟩
    failed_direct

/-- `set_run_status` up to its check. -/
def readStatus (store : RunStore) (call : StatusCall) : Option RunTicket := do
  let run ← store.run? call.runId
  if transitionAllowed run.status call.status then some (.write run call) else none

def acceptanceCall (runId : String) : StatusCall := ⟨runId, .accepted, none, none, none⟩

structure TimedRequest where
  now : Time
  request : RunRequest

def callRuns (timeJson : Time → Json) (store : RunStore) (timed : TimedRequest) :
    Option (RunStore × Option RunTicket) :=
  let now := timed.now
  match timed.request with
  | .createSession id kind => some ({ store with
      sessions := store.sessions ++ [⟨id, kind, "idle", now⟩] }, none)
  | .createRun request => (createRun store request now).map fun next => (next, none)
  | .deleteSession sessionId => some (deleteSession store sessionId, none)
  | .setStatus none call _ => some (store, readStatus store call)
  | .setStatus (some expected) call _ =>
    match store.run? call.runId with
    | some run => some (store, if run.status ∈ expected then some (.read call) else none)
    | none => some (store, none)
  | .recoverStaleRuns => some (recoverStaleRuns store timeJson now, none)
  | .upsertArtifact request =>
    some (store, if (store.run? request.runId).isSome then some (.upsert request) else none)
  | .reviewArtifact artifactId status actorId =>
    some (writeReview store artifactId status actorId now, some (.reviewed artifactId status))
  | .acceptDelivery call => (acceptDelivery store call now).map fun next => (next, none)

def resumeRuns (store : RunStore) (ticket : RunTicket) (input : RunInput) :
    Option (RunStore × Option RunTicket) :=
  match ticket with
  | .read call => some (store, readStatus store call)
  | .write seen call => some (writeStatus store seen call input.now, none)
  | .upsert request => some (upsertArtifact store request input.artifactId input.now, none)
  | .reviewed artifactId status =>
    some (store, match lookup ArtifactRow.id artifactId store.artifacts with
      | some artifact => if status = .accepted then some (.counting artifact.runId) else none
      | none => none)
  | .counting runId => some (store, some (.judging runId (store.remaining runId)))
  | .judging runId remaining =>
    some (store, match store.run? runId with
      | some run =>
        if remaining = 0 ∧ run.status = .completed then some (.read (acceptanceCall runId))
        else none
      | none => none)

def runRoutine (timeJson : Time → Json) : Routine RunStore TimedRequest RunInput RunTicket where
  call := callRuns timeJson
  resume := resumeRuns

end AgentMate.LocalRuns
