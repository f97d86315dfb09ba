import AgentMate.Rollback
import AgentMate.RunProtocolStore
import AgentMate.TransitionSystem

/-!
# Business records

Sessions, messages and Runs with their idempotency keys. Every operation is one
`BEGIN IMMEDIATE` transaction: an exception in any statement rolls all of them back.
-/

namespace AgentMate

/-- A row of `business_sessions`. -/
structure BusinessSession where
  id : String
  ownerId : String
  projectId : Option String
  title : String
  kind : String
  status : String
  space : Option String
  version : Nat
  clientRequestId : String
  requestHash : String
  createdAt : Time
  updatedAt : Time
  deletedAt : Time

/-- A row of `business_messages`. -/
structure BusinessMessage where
  id : String
  sessionId : String
  ownerId : String
  runId : Option String
  role : MessageRole
  content : String
  actorId : String
  trace : List Json
  usage : Option Usage
  error : Option String
  sequence : Nat
  clientRequestId : String
  requestHash : String
  createdAt : Time

/-- The columns of `business_runs` that the creator of a Run chooses. -/
structure RunFields where
  workItemId : Option String
  mode : RunMode
  workspace : String
  retryOf : Option String
  modelRef : Option String
  modelId : Option String
  modelSnapshot : Json
  permissionSnapshot : Json
  targetDeviceId : String
  requiredCapabilities : List String
  requestSnapshot : Json
  maxRecoveries : Nat

/-- A row of `business_runs`. -/
structure BusinessRun extends Run where
  retryOf : Option String
  modelRef : Option String
  modelId : Option String
  modelSnapshot : Json
  permissionSnapshot : Json
  clientRequestId : String
  requestHash : String

structure BusinessStore where
  sessions : List BusinessSession
  messages : List BusinessMessage
  runs : List BusinessRun

inductive BusinessError where
  | idempotencyConflict (message : String)
  | versionConflict (message : String)
  | notFound (recordId : String)
  | incomplete (message : String)
  | integrity (constraint : String)
  | badRequest (message : String)
  | database

/-- The columns that `create_record` reads in every table. -/
structure Columns (Row : Type) where
  table : String
  id : Row → String
  ownerId : Row → String
  clientRequestId : Row → String
  requestHash : Row → String

section

variable {Row : Type} (columns : Columns Row)

def Columns.hasKey (ownerId clientRequestId : String) (row : Row) : Bool :=
  columns.ownerId row = ownerId && columns.clientRequestId row = clientRequestId

def Columns.insert (rows : List Row) (row : Row) : Except BusinessError (List Row) :=
  if rows.any fun other => columns.id other = columns.id row then
    .error (.integrity (columns.table ++ ".id"))
  else if columns.clientRequestId row ≠ "" ∧
      rows.any (columns.hasKey (columns.ownerId row) (columns.clientRequestId row)) then
    .error (.integrity (columns.table ++ ".owner_id,client_request_id"))
  else .ok (rows ++ [row])

/-- `create_record`: a repeated key answers with the row it named first. -/
def Columns.create (rows : List Row) (row : Row) : Except BusinessError (List Row × Bool) :=
  let existing :=
    if columns.clientRequestId row = "" then none
    else rows.find? (columns.hasKey (columns.ownerId row) (columns.clientRequestId row))
  match existing with
  | some other =>
    if columns.requestHash other ≠ columns.requestHash row then
      .error (.idempotencyConflict "idempotency key payload mismatch")
    else .ok (rows, true)
  | none => do
      let inserted ← columns.insert rows row
      return (inserted, false)

end

def sessionColumns : Columns BusinessSession :=
  ⟨"business_sessions", BusinessSession.id, BusinessSession.ownerId,
    BusinessSession.clientRequestId, BusinessSession.requestHash⟩

def messageColumns : Columns BusinessMessage :=
  ⟨"business_messages", BusinessMessage.id, BusinessMessage.ownerId,
    BusinessMessage.clientRequestId, BusinessMessage.requestHash⟩

def runColumns : Columns BusinessRun :=
  ⟨"business_runs", fun run => run.id, fun run => run.ownerId, BusinessRun.clientRequestId,
    BusinessRun.requestHash⟩

/-- The arguments of `create_turn`; `sessionId` is empty for a new Session. -/
structure TurnRequest where
  actorId : String
  ownerId : String
  projectId : Option String
  sessionId : String
  sessionTitle : String
  sessionKind : String
  sessionSpace : Option String
  userText : String
  run : RunFields
  clientRequestId : String
  requestHash : String

structure TurnDraw where
  sessionId : String
  runId : String
  messageId : String
  now : Time

/-- The statements of `create_turn` that write. The audit entry of a row goes with it. -/
inductive TurnStatement where
  | insertSession | insertRun | insertMessage | updateSession | commit
  deriving DecidableEq

structure TurnResult where
  session : BusinessSession
  message : BusinessMessage
  run : BusinessRun
  duplicate : Bool

def TurnRequest.newSession (request : TurnRequest) (draw : TurnDraw) : BusinessSession where
  id := draw.sessionId
  ownerId := request.ownerId
  projectId := request.projectId
  title := request.sessionTitle
  kind := request.sessionKind
  status := "running"
  space := request.sessionSpace
  version := 1
  clientRequestId := request.clientRequestId ++ ":session"
  requestHash := request.requestHash
  createdAt := draw.now
  updatedAt := draw.now
  deletedAt := 0

def TurnRequest.newRun (request : TurnRequest) (sessionId : String) (draw : TurnDraw) :
    BusinessRun where
  id := draw.runId
  sessionId := sessionId
  ownerId := request.ownerId
  projectId := request.projectId
  workItemId := request.run.workItemId
  mode := request.run.mode
  workspace := request.run.workspace
  targetDeviceId := request.run.targetDeviceId
  requiredCapabilities := request.run.requiredCapabilities
  requestSnapshot := request.run.requestSnapshot
  maxRecoveries := request.run.maxRecoveries
  createdAt := draw.now
  deletedAt := 0
  status := .queued
  leaseEpoch := 0
  recoveryCount := 0
  cancelVersion := 0
  cancelRequestedAt := 0
  report := ⟨.obj [], none, none, "", "", 0, 0, draw.now, 1⟩
  retryOf := request.run.retryOf
  modelRef := request.run.modelRef
  modelId := request.run.modelId
  modelSnapshot := request.run.modelSnapshot
  permissionSnapshot := request.run.permissionSnapshot
  clientRequestId := request.clientRequestId
  requestHash := request.requestHash

def TurnRequest.newMessage (request : TurnRequest) (sessionId : String) (sequence : Nat)
    (draw : TurnDraw) : BusinessMessage where
  id := draw.messageId
  sessionId := sessionId
  ownerId := request.ownerId
  runId := some draw.runId
  role := .user
  content := request.userText
  actorId := request.actorId
  trace := []
  usage := none
  error := none
  sequence := sequence
  clientRequestId := request.clientRequestId ++ ":message"
  requestHash := request.requestHash
  createdAt := draw.now

def BusinessStore.liveSession? (store : BusinessStore) (sessionId : String) :
    Option BusinessSession :=
  store.sessions.find? fun session => session.id = sessionId && session.deletedAt = 0

def BusinessStore.runByKey? (store : BusinessStore) (ownerId clientRequestId : String) :
    Option BusinessRun :=
  store.runs.find? (runColumns.hasKey ownerId clientRequestId)

/-- `WHERE run_id=? AND role='user' ORDER BY sequence LIMIT 1`. -/
def BusinessStore.userMessage? (store : BusinessStore) (runId : String) : Option BusinessMessage :=
  ((store.messages.filter fun message => message.runId = some runId && message.role = .user)
    |>.insertionSort fun left right => left.sequence ≤ right.sequence).head?

/-- `SELECT COALESCE(MAX(sequence),0)+1`. -/
def BusinessStore.nextSequence (store : BusinessStore) (sessionId : String) : Nat :=
  ((store.messages.filter fun message => message.sessionId = sessionId).map
    BusinessMessage.sequence).max?.getD 0 + 1

/-- `status='running',updated_at=?,version=version+1`. -/
def BusinessSession.start (now : Time) (session : BusinessSession) : BusinessSession :=
  { session with status := "running", updatedAt := now, version := session.version + 1 }

section

variable (raises : TurnStatement → Bool) (store : BusinessStore) (request : TurnRequest)
  (draw : TurnDraw)

def TurnStatement.execute {Value : Type} (statement : TurnStatement)
    (work : Except BusinessError Value) : Except BusinessError Value :=
  if raises statement then .error .database else work

def openTurnSession : Except BusinessError (BusinessStore × BusinessSession) :=
  if request.sessionId ≠ "" then
    match store.liveSession? request.sessionId with
    | some session => .ok (store, session)
    | none => .error (.notFound request.sessionId)
  else do
    let session := request.newSession draw
    let sessions ← TurnStatement.insertSession.execute raises
      (sessionColumns.insert store.sessions session)
    return ({ store with sessions := sessions }, session)

/-- The part of `create_turn` that writes. -/
def writeTurn : Except BusinessError (BusinessStore × TurnResult) := do
  let (opened, session) ← openTurnSession raises store request draw
  let run := request.newRun session.id draw
  let runs ← TurnStatement.insertRun.execute raises (runColumns.insert opened.runs run)
  let message := request.newMessage session.id (opened.nextSequence session.id) draw
  let messages ← TurnStatement.insertMessage.execute raises
    (messageColumns.insert opened.messages message)
  let sessions ← TurnStatement.updateSession.execute raises
    (.ok (Table.updateWhere (fun row => row.id = session.id) (BusinessSession.start draw.now)
      opened.sessions))
  TurnStatement.commit.execute raises
    (.ok (⟨sessions, messages, runs⟩, ⟨session.start draw.now, message, run, false⟩))

/-- `create_turn`. The key belongs to the Run. -/
def createTurn : Except BusinessError (BusinessStore × TurnResult) :=
  match store.runByKey? request.ownerId request.clientRequestId with
  | none => writeTurn raises store request draw
  | some existing =>
    if existing.requestHash ≠ request.requestHash then
      .error (.idempotencyConflict "idempotency key payload mismatch")
    else
      match store.liveSession? existing.sessionId, store.userMessage? existing.id with
      | some session, some message =>
        TurnStatement.commit.execute raises (.ok (store, ⟨session, message, existing, true⟩))
      | _, _ => .error (.incomplete "committed turn graph is incomplete")

end

/-- The fields of `SessionPatch`; `none` is an absent one. -/
structure SessionPatch where
  title : Option String
  status : Option String
  space : Option String

def BusinessSession.patch (patch : SessionPatch) (now : Time) (session : BusinessSession) :
    BusinessSession :=
  { session with
    title := patch.title.getD session.title
    status := patch.status.getD session.status
    space := patch.space.or session.space
    updatedAt := now
    version := session.version + 1 }

/-- The row that `update_record` and `soft_delete` write. -/
def BusinessStore.versioned (store : BusinessStore) (sessionId : String) (expectedVersion : Nat)
    (assign : BusinessSession → BusinessSession) : Except BusinessError BusinessStore :=
  let chosen (session : BusinessSession) : Prop :=
    session.id = sessionId ∧ session.version = expectedVersion ∧ session.deletedAt = 0
  if store.sessions.any fun session => session.id = sessionId && session.version =
      expectedVersion && session.deletedAt = 0 then
    have : DecidablePred chosen := fun _ => inferInstanceAs (Decidable (_ ∧ _))
    .ok { store with sessions := Table.updateWhere chosen assign store.sessions }
  else if (store.liveSession? sessionId).isNone then .error (.notFound sessionId)
  else .error (.versionConflict "stale record version")

/-- The message that a Run's terminal event stores, unless the Run has one already. -/
def BusinessStore.terminalMessages (store : BusinessStore) (run : BusinessRun)
    (messageId content eventId : String) (now : Time) :
    Except BusinessError (List BusinessMessage) :=
  if store.messages.any fun message => message.runId = some run.id && message.role = .assistant then
    .ok store.messages
  else messageColumns.insert store.messages
    { id := messageId, sessionId := run.sessionId, ownerId := run.ownerId, runId := some run.id
      role := .assistant, content := content, actorId := "assistant", trace := [], usage := none
      error := none, sequence := store.nextSequence run.sessionId
      clientRequestId := "run-terminal:" ++ run.id, requestHash := eventId, createdAt := now }

def BusinessRun.setStatus (status : RunStatus) (now : Time) (run : BusinessRun) : BusinessRun :=
  { run with toRun := run.toRun.setStatus status now }

inductive BusinessRequest where
  | createTurn (request : TurnRequest) (draw : TurnDraw) (raises : TurnStatement → Bool)
  | createSession (session : BusinessSession)
  | createMessage (message : BusinessMessage)
  | createRun (run : BusinessRun)
  | updateSession (sessionId : String) (expectedVersion : Nat) (patch : SessionPatch) (now : Time)
  | deleteSession (sessionId : String) (expectedVersion : Nat) (now : Time)
  | moveRun (runId : String) (status : RunStatus) (now : Time)
  | endRun (runId : String) (status : RunStatus) (messageId content eventId : String) (now : Time)

/-- A message of a Run belongs to the Run's Session, which a Run never leaves. -/
def BusinessStore.admitsMessage (store : BusinessStore) (message : BusinessMessage) : Bool :=
  message.runId.all fun runId =>
    store.runs.any fun run => run.id = runId && run.sessionId = message.sessionId

def BusinessStore.hasSession (store : BusinessStore) (sessionId : String) : Bool :=
  store.sessions.any fun session => session.id = sessionId

def BusinessStore.perform (store : BusinessStore) :
    BusinessRequest → Except BusinessError BusinessStore
  | .createTurn request draw raises => do
      let (next, _) ← AgentMate.createTurn raises store request draw
      return next
  | .createSession session => do
      let (sessions, _) ← sessionColumns.create store.sessions session
      return { store with sessions := sessions }
  | .createMessage message =>
    if !store.hasSession message.sessionId then
      .error (.integrity "business_messages.session_id")
    else if store.admitsMessage message then do
      let (messages, _) ← messageColumns.create store.messages
        { message with sequence := store.nextSequence message.sessionId }
      return { store with messages := messages }
    else .error (.badRequest "run does not belong to session")
  | .createRun run =>
    if store.hasSession run.sessionId then do
      let (runs, _) ← runColumns.create store.runs run
      return { store with runs := runs }
    else .error (.integrity "business_runs.session_id")
  | .updateSession sessionId expectedVersion patch now =>
    store.versioned sessionId expectedVersion (BusinessSession.patch patch now)
  | .deleteSession sessionId expectedVersion now =>
    store.versioned sessionId expectedVersion fun session =>
      { session with deletedAt := now, updatedAt := now, version := session.version + 1 }
  | .moveRun runId status now =>
    .ok { store with
      runs := Table.updateWhere (fun run => run.id = runId) (BusinessRun.setStatus status now)
        store.runs }
  | .endRun runId status messageId content eventId now =>
    match store.runs.find? fun run => run.id = runId with
    | none => .error (.notFound runId)
    | some run => do
        let messages ← store.terminalMessages run messageId content eventId now
        return {
          messages := messages
          sessions := Table.updateWhere (fun session => session.id = run.sessionId)
            (fun session => { session with
              status := if status = .failed then "error" else "done"
              updatedAt := now, version := session.version + 1 }) store.sessions
          runs := Table.updateWhere (fun row => row.id = runId)
            (BusinessRun.setStatus status now) store.runs }

def BusinessStore.serve (store : BusinessStore) (request : BusinessRequest) : BusinessStore :=
  Rollback.commit store (store.perform request)

def businessMachine : TransitionSystem.Machine BusinessStore BusinessRequest where
  Initial store := store.sessions = [] ∧ store.messages = [] ∧ store.runs = []
  Step store request next := next = store.serve request

end AgentMate
