import AgentMate.Json
import AgentMate.Table

/-!
# Tables of the Server run protocol

Rows of the tables that `run_protocol_store` reads and writes. A status column
is an inductive type. Columns that no protocol decision reads (checkpoint,
outcome, token counts, row version) sit together in `RunReport`. Audit rows,
notifications and work-item activity are written but never read here and are
left out.
-/

namespace AgentMate

/-- Readings of `time.time()`. -/
abbrev Time := ℚ

inductive RunStatus where
  | queued | leased | running | waitingUser | paused | recoverable
  | completed | succeeded | failed | cancelled
  deriving DecidableEq, Repr

/-- `TERMINAL_STATUSES`. -/
def RunStatus.isTerminal : RunStatus → Bool
  | .completed | .succeeded | .failed | .cancelled => true
  | _ => false

/-- `('leased','running','waiting_user','paused')`: a Run that a device holds. -/
def RunStatus.isResident : RunStatus → Bool
  | .leased | .running | .waitingUser | .paused => true
  | _ => false

/-- `('leased','running')`: a Run that uses a parallel slot of its device. -/
def RunStatus.isActive : RunStatus → Bool
  | .leased | .running => true
  | _ => false

/-- `('queued','recoverable')`: a Run that may be claimed. -/
def RunStatus.isClaimable : RunStatus → Bool
  | .queued | .recoverable => true
  | _ => false

inductive RunMode where
  | exec | plan | ask
  deriving DecidableEq, Repr

/-- `mode not in {"ask", "plan"}`. -/
def RunMode.writes : RunMode → Bool
  | .exec => true
  | _ => false

structure RunReport where
  checkpoint : Json
  startedAt : Option Time
  endedAt : Option Time
  errorCode : String
  errorMessage : String
  promptTokens : Int
  completionTokens : Int
  updatedAt : Time
  version : Nat

structure Run where
  id : String
  sessionId : String
  ownerId : String
  projectId : Option String
  workItemId : Option String
  mode : RunMode
  workspace : String
  targetDeviceId : String
  requiredCapabilities : List String
  requestSnapshot : Json
  maxRecoveries : Nat
  createdAt : Time
  deletedAt : Time
  status : RunStatus
  leaseEpoch : Nat
  recoveryCount : Nat
  cancelVersion : Nat
  cancelRequestedAt : Time
  report : RunReport

inductive LeaseStatus where
  | active | completed | expired | revoked
  deriving DecidableEq, Repr

/-- A row of `run_leases`. -/
structure Lease where
  id : String
  runId : String
  ownerId : String
  deviceId : String
  leaseEpoch : Nat
  status : LeaseStatus
  issuedAt : Time
  expiresAt : Time
  renewedAt : Time
  ackHighWater : Nat
  terminalEventId : String
  deriving DecidableEq

/-- The fields that `event_digest` hashes; the payload as its canonical text. -/
structure Envelope where
  runId : String
  deviceId : String
  leaseEpoch : Nat
  sequence : Nat
  eventType : String
  occurredAt : Time
  payload : String
  deriving DecidableEq

/-- What the store takes from the interpreter and from `hashlib`: the text
conversions and the SHA-256 digest of an envelope, assumed free of collisions. -/
structure Host (Hash : Type) extends PyText where
  digest : Envelope → Hash
  digest_injective : Function.Injective digest

/-- An entry of a submitted batch (`RunEvent`). -/
structure RunEvent (Hash : Type) where
  eventId : String
  sequence : Nat
  eventType : String
  occurredAt : Time
  payload : Json
  hash : Hash

/-- A row of `run_events`. -/
structure EventRow (Hash : Type) where
  eventId : String
  runId : String
  leaseId : String
  ownerId : String
  deviceId : String
  leaseEpoch : Nat
  sequence : Nat
  eventType : String
  occurredAt : Time
  payload : Json
  payloadHash : Hash
  createdAt : Time

inductive CommandType where
  | cancel | pause | resume | askUserAnswer
  deriving DecidableEq, Repr

inductive CommandStatus where
  | pending | acknowledged
  deriving DecidableEq, Repr

/-- A row of `run_commands`. -/
structure Command where
  id : String
  runId : String
  ownerId : String
  commandType : CommandType
  version : Nat
  payload : Json
  status : CommandStatus
  createdAt : Time
  acknowledgedAt : Time

inductive DeviceStatus where
  | pending | active | revoked
  deriving DecidableEq, Repr

structure Device where
  id : String
  ownerId : String
  capabilities : Json
  status : DeviceStatus
  lastSeenAt : Time
  revokedAt : Time
  updatedAt : Time

structure DeviceToken where
  tokenHash : String
  deviceId : String
  ownerId : String
  expiresAt : Time
  lastUsedAt : Time
  revokedAt : Time

structure DevicePrincipal where
  deviceId : String
  ownerId : String
  capabilities : Json
  protocolVersion : Nat

inductive SessionStatus where
  | running | done | error
  deriving DecidableEq, Repr

structure Session where
  id : String
  status : SessionStatus
  updatedAt : Time
  version : Nat

inductive MessageRole where
  | user | assistant | tool | system
  deriving DecidableEq, Repr

structure Usage where
  prompt : Int
  completion : Int
  deriving DecidableEq, Repr

/-- A row of `business_messages`; `trace` holds the decoded JSON array. -/
structure Message where
  sessionId : String
  ownerId : String
  runId : String
  role : MessageRole
  content : String
  actorId : String
  trace : List Json
  usage : Option Usage
  error : Option String
  sequence : Nat
  clientRequestId : String
  requestHash : String
  createdAt : Time

inductive AutomationStatus where
  | queued | ok | error | retrying | cancelled
  deriving DecidableEq, Repr

structure Automation where
  id : String
  ownerId : String
  retryBackoffSec : Nat
  lastRunAt : Time
  lastSessionId : String
  lastStatus : Option AutomationStatus
  deletedAt : Time
  updatedAt : Time
  version : Nat

inductive FireStatus where
  | queued | running | retryWait | succeeded | ignored | deadLetter
  deriving DecidableEq, Repr

/-- A row of `business_automation_fires`. -/
structure Fire where
  id : String
  automationId : String
  ownerId : String
  runId : String
  status : FireStatus
  attempt : Nat
  maxAttempts : Nat
  errorCode : String
  errorMessage : String
  promptTokens : Int
  completionTokens : Int
  nextAttemptAt : Option Time
  updatedAt : Time
  finishedAt : Time

inductive WorkItemStatus where
  | todo | doing | review | paused | done
  deriving DecidableEq, Repr

structure WorkItem where
  id : String
  projectId : String
  status : WorkItemStatus
  updatedAt : Time

/-- A row of `business_assets`, as far as the delivery check counts it. -/
structure Asset where
  runId : String
  projectId : String
  deletedAt : Time
  committed : Bool
  verified : Bool

/-- The business tables that a Run's terminal commit writes. -/
structure Business where
  sessions : List Session
  messages : List Message
  automations : List Automation
  fires : List Fire
  workItems : List WorkItem
  assets : List Asset

structure Store (Hash : Type) where
  runs : List Run
  leases : List Lease
  events : List (EventRow Hash)
  commands : List Command
  devices : List Device
  tokens : List DeviceToken
  business : Business

/-- Why a transaction is rolled back. -/
inductive ProtocolError where
  | conflict (message : String)
  | sequenceGap (expected : Nat)
  | notFound (runId : String)
  | integrity (constraint : String)
  | value
  deriving DecidableEq

end AgentMate
