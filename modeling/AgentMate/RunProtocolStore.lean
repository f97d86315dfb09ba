import AgentMate.TerminalOutput

/-!
# Operations of the run protocol store

Each operation is one `BEGIN IMMEDIATE` transaction: it takes the store and the
clock reading `now` and returns the new store with its reply, or an error, in
which case the caller keeps the old store. Fresh identifiers (`db.new_uuid()`)
are arguments; a reused one runs into the primary key.
-/

namespace AgentMate

open Table

variable {Hash : Type}

abbrev Transaction (Value : Type) := Except ProtocolError Value

def Store.run? (store : Store Hash) (runId : String) : Option Run :=
  lookup Run.id runId store.runs

def Store.updateRun (store : Store Hash) (runId : String) (assign : Run → Run) : Store Hash :=
  { store with runs := updateWhere (fun run => run.id = runId) assign store.runs }

def Store.updateLease (store : Store Hash) (leaseId : String) (assign : Lease → Lease) :
    Store Hash :=
  { store with leases := updateWhere (fun lease => lease.id = leaseId) assign store.leases }

/-- `updated_at=?,version=version+1`. -/
def RunReport.touch (report : RunReport) (now : Time) : RunReport :=
  { report with updatedAt := now, version := report.version + 1 }

def Run.setStatus (run : Run) (status : RunStatus) (now : Time) : Run :=
  { run with status := status, report := run.report.touch now }

def Lease.setStatus (status : LeaseStatus) (lease : Lease) : Lease :=
  { lease with status := status }

def Lease.complete (terminalEventId : String) (lease : Lease) : Lease :=
  { lease with status := .completed, terminalEventId := terminalEventId }

def Lease.acknowledge (ack : Nat) (lease : Lease) : Lease := { lease with ackHighWater := ack }

def Lease.renew (expiresAt now : Time) (lease : Lease) : Lease :=
  { lease with expiresAt := expiresAt, renewedAt := now }

/-- `status='active' AND expires_at>now`. -/
def Lease.isLive (lease : Lease) (now : Time) : Bool :=
  lease.status = .active && now < lease.expiresAt

/-- The primary key and the unique columns of `run_leases`. -/
def Store.insertLease (store : Store Hash) (lease : Lease) : Transaction (Store Hash) :=
  if store.leases.any fun other => other.id = lease.id then .error (.integrity "run_leases.id")
  else if store.leases.any fun other =>
      other.runId = lease.runId && other.leaseEpoch = lease.leaseEpoch then
    .error (.integrity "run_leases.run_id,lease_epoch")
  else if store.leases.any fun other => other.runId = lease.runId && other.status = .active then
    .error (.integrity "idx_run_leases_one_active")
  else .ok { store with leases := store.leases ++ [lease] }

/-- The primary key and the unique columns of `run_commands`. -/
def Store.insertCommand (store : Store Hash) (command : Command) : Transaction (Store Hash) :=
  if store.commands.any fun other => other.id = command.id then
    .error (.integrity "run_commands.id")
  else if store.commands.any fun other => other.runId = command.runId &&
      other.commandType = command.commandType && other.version = command.version then
    .error (.integrity "run_commands.run_id,command_type,version")
  else .ok { store with commands := store.commands ++ [command] }

def RunStatus.text : RunStatus → String
  | .queued => "queued" | .leased => "leased" | .running => "running"
  | .waitingUser => "waiting_user" | .paused => "paused" | .recoverable => "recoverable"
  | .completed => "completed" | .succeeded => "succeeded" | .failed => "failed"
  | .cancelled => "cancelled"

def serverTerminal (text : PyText) (store : Store Hash) (run : Run) (status : RunStatus)
    (errorCode errorMessage : String) (now : Time) : Transaction (Store Hash) := do
  let event : TerminalEvent :=
    { eventId := "server-terminal:" ++ status.text ++ ":" ++ run.id
      leaseEpoch := run.leaseEpoch
      payload := .obj [("error_code", .str errorCode), ("error_message", .str errorMessage)] }
  let (output, business) ← commitTerminalOutput text store.events store.business run event
    (status ≠ .completed) (status = .cancelled) now
  return { store with business := business }.updateRun run.id fun row =>
    { row with
      status := status
      report := { row.report.touch now with
        endedAt := some now, errorCode := clip 200 errorCode
        errorMessage := output.errorMessage, promptTokens := output.promptTokens
        completionTokens := output.completionTokens } }

/-- `_recover_run`. A paused Run stays paused: only a user resumes it. -/
def recoverRun (text : PyText) (store : Store Hash) (runId : String) (now : Time) :
    Transaction (Store Hash) :=
  match store.run? runId with
  | none => .ok store
  | some run =>
    if run.status.isTerminal then .ok store
    else if run.status = .paused then
      .ok (store.updateRun runId fun row => { row with report := row.report.touch now })
    else if run.recoveryCount + 1 > run.maxRecoveries then do
      let ended ← serverTerminal text store run .failed "lease_recovery_exhausted"
        "Run lease recovery limit exceeded" now
      return ended.updateRun runId fun row =>
        { row with recoveryCount := run.recoveryCount + 1 }
    else .ok (store.updateRun runId fun row =>
      { row.setStatus .recoverable now with recoveryCount := run.recoveryCount + 1 })

/-- One pass of the loop in `_expire_leases` and in `revoke_device`. -/
def releaseLease (text : PyText) (now : Time) (status : LeaseStatus) (store : Store Hash)
    (lease : Lease) : Transaction (Store Hash) :=
  recoverRun text (store.updateLease lease.id (Lease.setStatus status)) lease.runId now

def expireLeases (text : PyText) (store : Store Hash) (ownerId : Option String) (now : Time) :
    Transaction (Store Hash) :=
  (store.leases.filter fun lease => lease.status = .active && lease.expiresAt ≤ now &&
    ownerId.all fun owner => lease.ownerId = owner).foldlM (releaseLease text now .expired) store

def revokeDevice (text : PyText) (store : Store Hash) (ownerId deviceId : String) (now : Time) :
    Transaction (Store Hash × Bool) :=
  if store.devices.any fun device => device.id = deviceId && device.ownerId = ownerId then do
    let revoked : Store Hash := { store with
      devices := updateWhere (fun device => device.id = deviceId)
        (fun device => { device with status := .revoked, revokedAt := now, updatedAt := now })
        store.devices
      tokens := updateWhere (fun token => token.deviceId = deviceId ∧ token.revokedAt = 0)
        (fun token => { token with revokedAt := now }) store.tokens }
    let released ← (store.leases.filter fun lease =>
      lease.deviceId = deviceId && lease.status = .active).foldlM
        (releaseLease text now .revoked) revoked
    return (released, true)
  else .ok (store, false)

def capabilitySet (capabilities : Json) : List String :=
  let declared := (capabilities.listField "capabilities").filterMap fun item =>
    match item with
    | .str name => some name
    | _ => none
  let tools := match capabilities.dictField "supported_tools" with
    | .obj fields => fields.map fun field => "tool:" ++ field.1
    | _ => []
  declared ++ tools

/-- `int(capabilities.get(key) or default)`, a failed conversion giving the default. -/
def declaredCapacity (text : PyText) (capabilities : Json) (key : String) (default : Int) : Int :=
  match capabilities.getTruthy key with
  | some value => (value.pyInt text).getD default
  | none => default

def parallelCapacity (text : PyText) (capabilities : Json) : Int :=
  max 1 (min 8 (declaredCapacity text capabilities "max_parallel_runs" 1))

def residentCapacity (text : PyText) (capabilities : Json) : Int :=
  let compute := parallelCapacity text capabilities
  max compute (min 32 (declaredCapacity text capabilities "max_resident_runs" (compute * 4)))

/-- `_workspace_scope` on the two columns it reads. -/
def workspaceScopeOf (projectId : Option String) (workspace : String) : String :=
  let projectId := projectId.getD ""
  if projectId ≠ "" then "project:" ++ projectId
  else
    let workspace := if workspace = "" then "default" else workspace
    if (afterPrefix? "project:" workspace).isSome || (afterPrefix? "dedicated:" workspace).isSome
    then workspace
    else "default"

def workspaceScope (run : Run) : String := workspaceScopeOf run.projectId run.workspace

/-- `run_leases l JOIN business_runs r` over unexpired active leases of resident Runs. -/
def Store.residentRuns (store : Store Hash) (chosen : Lease → Bool) (now : Time) : List Run :=
  store.leases.filterMap fun lease =>
    if chosen lease && lease.isLive now then
      (store.run? lease.runId).filter fun run => run.status.isResident
    else none

def scopeConflicts (store : Store Hash) (candidate : Run) (now : Time) : Bool :=
  (store.residentRuns (fun lease => lease.ownerId = candidate.ownerId) now).any fun item =>
    workspaceScope item = workspaceScope candidate && (candidate.mode.writes || item.mode.writes)

/-- `ORDER BY created_at,id`. -/
def Run.CreatedBefore (left right : Run) : Prop :=
  left.createdAt < right.createdAt ∨ (left.createdAt = right.createdAt ∧ ¬right.id < left.id)

instance : DecidableRel Run.CreatedBefore := fun _ _ => inferInstanceAs (Decidable (_ ∨ _))

/-- The claimable rows `lease_run` walks through. -/
def claimableRuns (store : Store Hash) (ownerId : String) : List Run :=
  ((store.runs.filter fun run => run.ownerId = ownerId && run.deletedAt = 0 &&
    run.status.isClaimable).insertionSort Run.CreatedBefore).take 100

/-- The tests `lease_run` puts to one claimable row. -/
def leaseAdmits (store : Store Hash) (principal : DevicePrincipal) (now : Time) (run : Run) :
    Bool :=
  (run.targetDeviceId = "" || run.targetDeviceId = principal.deviceId) &&
    (run.requiredCapabilities.all fun name =>
      (capabilitySet principal.capabilities).contains name) &&
    !scopeConflicts store run now

/-- The Run that `lease_run` selects once expired leases are released. -/
def leaseCandidate (text : PyText) (store : Store Hash) (principal : DevicePrincipal)
    (now : Time) : Option Run :=
  let resident := store.residentRuns
    (fun lease => lease.ownerId = principal.ownerId && lease.deviceId = principal.deviceId) now
  if ((resident.filter fun run => run.status.isActive).length : Int) ≥
      parallelCapacity text principal.capabilities then none
  else if (resident.length : Int) ≥ residentCapacity text principal.capabilities then none
  else (claimableRuns store principal.ownerId).find? (leaseAdmits store principal now)

structure LeaseGrant where
  leaseId : String
  leaseEpoch : Nat
  expiresAt : Time
  run : Run
  ackHighWater : Nat

/-- `now + max(5, min(300, lease_seconds))`. -/
def leaseDeadline (now : Time) (leaseSeconds : Int) : Time := now + (max 5 (min 300 leaseSeconds) : Int)

/-- The two writes of `lease_run` that grant a lease. -/
def grantLease (store : Store Hash) (principal : DevicePrincipal) (run : Run) (leaseId : String)
    (expiresAt now : Time) : Transaction (Store Hash) :=
  (store.updateRun run.id fun row =>
    { row.setStatus .leased now with leaseEpoch := run.leaseEpoch + 1 }).insertLease
      { id := leaseId, runId := run.id, ownerId := principal.ownerId
        deviceId := principal.deviceId, leaseEpoch := run.leaseEpoch + 1, status := .active
        issuedAt := now, expiresAt := expiresAt, renewedAt := now, ackHighWater := 0
        terminalEventId := "" }

def leaseRun (text : PyText) (store : Store Hash) (principal : DevicePrincipal)
    (leaseSeconds : Int) (leaseId : String) (now : Time) :
    Transaction (Store Hash × Option LeaseGrant) := do
  let expired ← expireLeases text store (some principal.ownerId) now
  match leaseCandidate text expired principal now with
  | none => return (expired, none)
  | some run =>
    let expiresAt := leaseDeadline now leaseSeconds
    let granted ← grantLease expired principal run leaseId expiresAt now
    match granted.run? run.id with
    | none => throw (.notFound run.id)
    | some row =>
      return (granted, some
        { leaseId := leaseId, leaseEpoch := run.leaseEpoch + 1, expiresAt := expiresAt
          run := row, ackHighWater := 0 })

def currentLease (store : Store Hash) (principal : DevicePrincipal) (runId leaseId : String)
    (leaseEpoch : Nat) : Transaction Lease :=
  let found := store.leases.find? fun lease => lease.id = leaseId && lease.runId = runId &&
    lease.deviceId = principal.deviceId && lease.ownerId = principal.ownerId
  match found, store.run? runId with
  | some lease, some run =>
    if lease.leaseEpoch = leaseEpoch ∧ run.leaseEpoch = leaseEpoch then .ok lease
    else .error (.conflict "stale or foreign Run lease")
  | _, _ => .error (.conflict "stale or foreign Run lease")

/-- `ORDER BY version,id`. -/
def Command.Before (left right : Command) : Prop :=
  left.version < right.version ∨ (left.version = right.version ∧ ¬right.id < left.id)

instance : DecidableRel Command.Before := fun _ _ => inferInstanceAs (Decidable (_ ∨ _))

def pendingCommands (store : Store Hash) (runId : String) : List Command :=
  (store.commands.filter fun command => command.runId = runId && command.status = .pending)
    |>.insertionSort Command.Before

structure LeaseRenewal where
  expiresAt : Time
  ackHighWater : Nat
  commands : List Command

/-- `renew_lease`. The writes of its expired branch are rolled back with the raise. -/
def renewLease (store : Store Hash) (principal : DevicePrincipal) (runId leaseId : String)
    (leaseEpoch : Nat) (leaseSeconds : Int) (now : Time) :
    Transaction (Store Hash × LeaseRenewal) := do
  let lease ← currentLease store principal runId leaseId leaseEpoch
  if lease.isLive now then
    let expiresAt := leaseDeadline now leaseSeconds
    let renewed := store.updateLease leaseId (Lease.renew expiresAt now)
    return (renewed, ⟨expiresAt, lease.ackHighWater, pendingCommands renewed runId⟩)
  else throw (.conflict "Run lease expired or inactive")

def listEvents (store : Store Hash) (runId : String) (afterEpoch afterSequence limit : Nat) :
    List (EventRow Hash) :=
  let after := store.events.filter fun row => row.runId = runId &&
    if 0 < afterEpoch then
      afterEpoch < row.leaseEpoch || (row.leaseEpoch = afterEpoch && afterSequence < row.sequence)
    else afterSequence < row.sequence
  (after.insertionSort fun left right => left.leaseEpoch < right.leaseEpoch ∨
    (left.leaseEpoch = right.leaseEpoch ∧ left.sequence ≤ right.sequence)).take
      (max 1 (min 1000 limit))

/-- The event types that `_apply_event` tells apart. -/
inductive EventKind where
  | started | waitingUser | pauseAck | checkpoint | completed | failed | cancelled
  | commandAck | other
  deriving DecidableEq, Repr

def eventKind (eventType : String) : EventKind :=
  if eventType = "run.started" then .started
  else if eventType = "run.waiting_user" then .waitingUser
  else if eventType = "run.paused" ∨ eventType = "run.pause_ack" then .pauseAck
  else if eventType = "run.checkpoint" then .checkpoint
  else if eventType = "run.completed" then .completed
  else if eventType = "run.failed" then .failed
  else if eventType = "run.cancelled" ∨ eventType = "run.cancel_ack" then .cancelled
  else if eventType = "command.ack" then .commandAck
  else .other

def EventKind.status : EventKind → Option RunStatus
  | .started => some .running
  | .waitingUser => some .waitingUser
  | .pauseAck => some .paused
  | .completed => some .completed
  | .failed => some .failed
  | .cancelled => some .cancelled
  | .checkpoint | .commandAck | .other => none

def EventKind.isTerminal : EventKind → Bool
  | .completed | .failed | .cancelled => true
  | _ => false

def EventKind.acknowledges (kind : EventKind) (text : PyText) (payload : Json) (runId : String)
    (command : Command) : Bool :=
  command.runId = runId &&
    match kind with
    | .pauseAck => command.commandType = .pause && command.status = .pending
    | .cancelled => command.commandType = .cancel && command.status = .pending
    | .commandAck => command.id = payload.strField text "command_id"
    | _ => false

def eventReport (text : PyText) (kind : EventKind) (event : RunEvent Hash)
    (output : TerminalOutput) (now : Time) (report : RunReport) : RunReport :=
  let touched := report.touch now
  match kind with
  | .started => { touched with startedAt := some event.occurredAt }
  | .checkpoint => { touched with checkpoint := event.payload }
  | .completed => { touched with
      endedAt := some event.occurredAt, errorCode := "", errorMessage := ""
      promptTokens := output.promptTokens, completionTokens := output.completionTokens }
  | .failed => { touched with
      endedAt := some event.occurredAt
      errorCode := clip 200 ((event.payload.getTruthy "error_code").elim "run_failed"
        (Json.pyStr text))
      errorMessage := output.errorMessage
      promptTokens := output.promptTokens, completionTokens := output.completionTokens }
  | .cancelled => { touched with
      endedAt := some event.occurredAt
      promptTokens := output.promptTokens, completionTokens := output.completionTokens }
  | _ => touched

/-- What an event writes outside the protocol tables: a terminal event commits
the transcript, `run.started` moves a queued automation fire to running. -/
def eventBusiness (text : PyText) (store : Store Hash) (runId : String) (leaseEpoch : Nat)
    (event : RunEvent Hash) (now : Time) : Transaction (TerminalOutput × Business) :=
  let kind := eventKind event.eventType
  if kind.isTerminal then
    match store.run? runId with
    | none => .error (.notFound runId)
    | some run => commitTerminalOutput text store.events store.business run
        ⟨event.eventId, leaseEpoch, event.payload⟩ (kind ≠ .completed) (kind = .cancelled) now
  else if kind = .started then
    .ok (⟨0, 0, ""⟩, { store.business with
      fires := updateWhere (fun fire => fire.runId = runId ∧ fire.status = .queued)
        (fun fire => { fire with status := .running, updatedAt := now }) store.business.fires })
  else .ok (⟨0, 0, ""⟩, store.business)

/-- The writes of `_apply_event` to `run_commands` and `business_runs`. -/
def Store.applied (text : PyText) (store : Store Hash) (runId : String) (event : RunEvent Hash)
    (output : TerminalOutput) (business : Business) (now : Time) : Store Hash :=
  let kind := eventKind event.eventType
  { store with
    business := business
    commands := updateWhere (fun command => kind.acknowledges text event.payload runId command)
      (fun command => { command with status := .acknowledged, acknowledgedAt := now })
      store.commands
    runs := updateWhere (fun run => run.id = runId) (fun run => { run with
        status := kind.status.getD run.status
        report := eventReport text kind event output now run.report }) store.runs }

/-- `_apply_event`; the reply tells whether the event is terminal. -/
def applyEvent (text : PyText) (store : Store Hash) (runId : String) (leaseEpoch : Nat)
    (event : RunEvent Hash) (now : Time) : Transaction (Store Hash × Bool) := do
  let (output, business) ← eventBusiness text store runId leaseEpoch event now
  return (store.applied text runId event output business now,
    (eventKind event.eventType).isTerminal)

def maxEventBytes : Nat := 256 * 1024

def RunEvent.envelope (text : PyText) (event : RunEvent Hash) (runId deviceId : String)
    (leaseEpoch : Nat) : Envelope :=
  { runId := runId, deviceId := deviceId, leaseEpoch := leaseEpoch, sequence := event.sequence
    eventType := event.eventType, occurredAt := event.occurredAt
    payload := text.dumps event.payload }

def RunEvent.row (event : RunEvent Hash) (lease : Lease) (hash : Hash) (now : Time) :
    EventRow Hash :=
  { eventId := event.eventId, runId := lease.runId, leaseId := lease.id, ownerId := lease.ownerId
    deviceId := lease.deviceId, leaseEpoch := lease.leaseEpoch, sequence := event.sequence
    eventType := event.eventType, occurredAt := event.occurredAt, payload := event.payload
    payloadHash := hash, createdAt := now }

/-- The local variables of the loop in `submit_events`. -/
structure Batch (Hash : Type) where
  store : Store Hash
  ack : Nat
  terminalEventId : String

section

variable [DecidableEq Hash]

/-- The row that answers `event_id=? OR (run_id=? AND lease_epoch=? AND sequence=?)`. -/
def existingEvent (store : Store Hash) (lease : Lease) (event : RunEvent Hash) :
    Option (EventRow Hash) :=
  store.events.find? fun row => row.eventId = event.eventId ||
    (row.runId = lease.runId && row.leaseEpoch = lease.leaseEpoch && row.sequence = event.sequence)

/-- The checks `submit_events` puts to an event before it reads the log. -/
def checkEvent (host : Host Hash) (lease : Lease) (event : RunEvent Hash) : Transaction Unit :=
  if (host.dumps event.payload).utf8ByteSize > maxEventBytes then
    .error (.conflict "Run event payload exceeds size limit")
  else if containsSecretKey event.payload then
    .error (.conflict "Run event payload must not contain credentials or secrets")
  else if host.digest (event.envelope host.toPyText lease.runId lease.deviceId lease.leaseEpoch) ≠
      event.hash then
    .error (.conflict "Run event hash mismatch")
  else .ok ()

/-- One pass of the loop in `submit_events`. `lease` is the row read before the
loop: neither its status nor its expiry is read again between events. -/
def submitEvent (host : Host Hash) (lease : Lease) (now : Time) (batch : Batch Hash)
    (event : RunEvent Hash) : Transaction (Batch Hash) := do
  checkEvent host lease event
  match existingEvent batch.store lease event with
  | some row =>
    if row.eventId ≠ event.eventId ∨ row.payloadHash ≠ event.hash ∨
        row.eventType ≠ event.eventType then
      throw (.conflict "Run event id or sequence was reused with different content")
    else if event.sequence > batch.ack then
      if event.sequence ≠ batch.ack + 1 then throw (.sequenceGap (batch.ack + 1))
      else return { batch with ack := event.sequence }
    else return batch
  | none =>
    if !lease.isLive now then throw (.conflict "Run lease expired or inactive")
    else if event.sequence ≠ batch.ack + 1 then throw (.sequenceGap (batch.ack + 1))
    else
      let stored : Store Hash := { batch.store with
        events := batch.store.events ++ [event.row lease event.hash now] }
      let (applied, terminal) ← applyEvent host.toPyText stored lease.runId lease.leaseEpoch
        event now
      if terminal then
        return ⟨applied.updateLease lease.id (Lease.complete event.eventId),
          event.sequence, event.eventId⟩
      else return ⟨applied, event.sequence, batch.terminalEventId⟩

structure SubmitReply where
  ackHighWater : Nat
  terminalEventId : String
  commands : List Command

def submitEvents (host : Host Hash) (store : Store Hash) (principal : DevicePrincipal)
    (runId leaseId : String) (leaseEpoch : Nat) (events : List (RunEvent Hash)) (now : Time) :
    Transaction (Store Hash × SubmitReply) := do
  let lease ← currentLease store principal runId leaseId leaseEpoch
  let batch ← events.foldlM (submitEvent host lease now)
    ⟨store, lease.ackHighWater, lease.terminalEventId⟩
  let final := batch.store.updateLease leaseId (Lease.acknowledge batch.ack)
  return (final, ⟨batch.ack, batch.terminalEventId, pendingCommands final runId⟩)

end

/-- `SELECT COALESCE(MAX(version),0)+1 FROM run_commands WHERE run_id=?`. -/
def nextCommandVersion (store : Store Hash) (runId : String) : Nat :=
  (store.commands.filter fun command => command.runId = runId).foldl
    (fun highest command => max highest command.version) 0 + 1

def newCommand (commandId runId ownerId : String) (commandType : CommandType) (version : Nat)
    (payload : Json) (now : Time) : Command :=
  { id := commandId, runId := runId, ownerId := ownerId, commandType := commandType
    version := version, payload := payload, status := .pending, createdAt := now
    acknowledgedAt := 0 }

/-- `SELECT .. WHERE run_id=? AND status='active' AND expires_at>now`. -/
def Store.hasLiveLease (store : Store Hash) (runId : String) (now : Time) : Bool :=
  store.leases.any fun lease => lease.runId = runId && lease.isLive now

/-- `SELECT .. WHERE run_id=? AND command_type=? AND status='pending'`. -/
def Store.hasPendingCommand (store : Store Hash) (runId : String) (commandType : CommandType) :
    Bool :=
  store.commands.any fun command => command.runId = runId &&
    command.commandType = commandType && command.status = .pending

def ownedRun (store : Store Hash) (runId ownerId : String) : Transaction Run :=
  match store.run? runId with
  | none => .error (.notFound runId)
  | some run => if run.ownerId = ownerId then .ok run else .error (.notFound runId)

def requestCancel (text : PyText) (store : Store Hash) (runId ownerId commandId : String)
    (now : Time) : Transaction (Store Hash) := do
  let run ← ownedRun store runId ownerId
  if run.status.isTerminal then return store
  else if (run.status.isClaimable || run.status = .paused) && !store.hasLiveLease runId now then
    serverTerminal text store run .cancelled "cancelled_by_user"
      "Run cancelled before local execution" now
  else
    let version := run.cancelVersion + 1
    (store.updateRun runId fun row => { row with
      cancelVersion := version, cancelRequestedAt := now
      report := row.report.touch now }).insertCommand
        (newCommand commandId runId ownerId .cancel version (.obj []) now)

/-- The insert that `request_pause` and `request_resume` share. -/
def requestCommand (store : Store Hash) (runId ownerId commandId : String)
    (commandType : CommandType) (now : Time) : Transaction (Store Hash) :=
  if store.hasPendingCommand runId commandType then .ok store
  else store.insertCommand (newCommand commandId runId ownerId commandType
    (nextCommandVersion store runId) (.obj []) now)

def requestPause (store : Store Hash) (runId ownerId commandId : String) (now : Time) :
    Transaction (Store Hash) := do
  let run ← ownedRun store runId ownerId
  if run.status.isTerminal then throw (.conflict "terminal Run cannot be paused")
  else if run.status = .paused then return store
  else if run.status.isClaimable then
    return store.updateRun runId fun row => row.setStatus .paused now
  else if run.status.isActive then requestCommand store runId ownerId commandId .pause now
  else throw (.conflict ("Run in " ++ run.status.text ++ " cannot be paused"))

/-- `UPDATE run_leases SET status='expired' WHERE run_id=? AND status='active'`. -/
def Store.expireLeasesOf (store : Store Hash) (runId : String) : Store Hash :=
  { store with
    leases := updateWhere (fun lease => lease.runId = runId ∧ lease.status = .active)
      (Lease.setStatus .expired) store.leases }

def requestResume (text : PyText) (store : Store Hash) (runId ownerId commandId : String)
    (now : Time) : Transaction (Store Hash) := do
  let run ← ownedRun store runId ownerId
  if run.status ≠ .paused then throw (.conflict "only a paused Run can be resumed")
  else if store.hasLiveLease runId now then
    requestCommand store runId ownerId commandId .resume now
  else
    let expired := store.expireLeasesOf runId
    if run.leaseEpoch = 0 then
      return expired.updateRun runId fun row => row.setStatus .recoverable now
    else
      serverTerminal text expired run .failed "resume_checkpoint_unavailable"
        ("Local Agent lease ended while paused; safe resume is unavailable. " ++
          "Retry this Run explicitly to start a new execution.") now

/-- The payload of an `ask_user_answer` command. -/
def answerPayload (questionEventId : String) (answers : List String) : Json :=
  .obj [("question_event_id", .str questionEventId),
    ("answers", .arr ((answers.take 20).map fun answer => .str (clip 20000 answer)))]

def answerUser (store : Store Hash) (runId ownerId questionEventId : String)
    (answers : List String) (commandId : String) (now : Time) : Transaction (Store Hash) := do
  let run ← ownedRun store runId ownerId
  let asked := store.events.any fun row => row.eventId = questionEventId && row.runId = runId &&
    row.eventType = "run.waiting_user"
  if !asked || run.status ≠ .waitingUser then
    throw (.conflict "Run is not waiting for that question")
  else store.insertCommand (newCommand commandId runId ownerId .askUserAnswer
    (nextCommandVersion store runId) (answerPayload questionEventId answers) now)

structure RunDraft where
  id : String
  sessionId : String
  ownerId : String
  projectId : Option String
  workItemId : Option String
  mode : RunMode
  workspace : String
  targetDeviceId : String
  requiredCapabilities : List String
  requestSnapshot : Json
  maxRecoveries : Nat

/-- The insert into `business_runs` of `create_record` and `create_turn`; the
protocol columns take their defaults. -/
def createRun (store : Store Hash) (draft : RunDraft) (now : Time) : Transaction (Store Hash) :=
  if store.runs.any fun run => run.id = draft.id then .error (.integrity "business_runs.id")
  else .ok { store with runs := store.runs ++ [
    { id := draft.id, sessionId := draft.sessionId, ownerId := draft.ownerId
      projectId := draft.projectId, workItemId := draft.workItemId, mode := draft.mode
      workspace := draft.workspace, targetDeviceId := draft.targetDeviceId
      requiredCapabilities := draft.requiredCapabilities
      requestSnapshot := draft.requestSnapshot, maxRecoveries := draft.maxRecoveries
      createdAt := now, deletedAt := 0, status := .queued, leaseEpoch := 0, recoveryCount := 0
      cancelVersion := 0, cancelRequestedAt := 0
      report := ⟨.obj [], none, none, "", "", 0, 0, now, 1⟩ }] }

end AgentMate
