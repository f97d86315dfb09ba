import AgentMate.Interleaving
import AgentMate.RunStore
import Mathlib.Data.List.Sort
import Mathlib.Data.List.Dedup

/-!
# Relay store

Events that a service account sends to a device, and their delivery by leases: a
device pulls due events under fresh lease tokens and acknowledges each with its
token. A terminal event is kept for a while and then removed.
-/

namespace AgentMate

open Interleaving

inductive RelayStatus where
  | pending
  | leased
  | succeeded
  | failed
  | deadLetter
  deriving DecidableEq

/-- `_TERMINAL`. -/
def RelayStatus.isTerminal : RelayStatus → Bool
  | .succeeded | .failed | .deadLetter => true
  | .pending | .leased => false

structure RelayEvent where
  id : String
  serviceAccountId : String
  ownerId : String
  deviceId : String
  automationId : String
  eventKey : String
  payload : String
  payloadSha256 : String
  status : RelayStatus
  attempt : Nat
  maxAttempts : Nat
  availableAt : Time
  leaseTokenHash : Option String
  leaseUntil : Option Time
  errorCode : Option String
  errorMessage : Option String
  createdAt : Time
  updatedAt : Time
  acknowledgedAt : Option Time
  payloadTombstonedAt : Option Time
  deriving DecidableEq

structure RelayDevice where
  ownerId : String
  deviceId : String
  name : String
  createdAt : Time
  lastSeen : Time

structure LeasedEvent where
  event : RelayEvent
  leaseToken : String

/-- The relay tables. `issued` holds every event identifier ever drawn, and `handed`
every item of a pull response. -/
structure Relay where
  devices : List RelayDevice
  events : List RelayEvent
  issued : List String
  handed : List LeasedEvent

structure RelaySettings where
  leaseSeconds : Nat
  maxAttempts : Nat
  payloadRetentionSeconds : Nat
  terminalRetentionSeconds : Nat
  maxTerminalRowsPerOwner : Nat
  lease_bound : 10 ≤ leaseSeconds
  attempts_bound : 1 ≤ maxAttempts
  payload_bound : 60 ≤ payloadRetentionSeconds
  terminal_bound : payloadRetentionSeconds ≤ terminalRetentionSeconds
  rows_bound : 100 ≤ maxTerminalRowsPerOwner

inductive RelayError where
  | value (message : String)
  | lookup (message : String)

def Relay.event? (relay : Relay) (eventId : String) : Option RelayEvent :=
  Table.lookup RelayEvent.id eventId relay.events

def Relay.updateEvents (relay : Relay) (chosen : RelayEvent → Prop) [DecidablePred chosen]
    (assign : RelayEvent → RelayEvent) : Relay :=
  { relay with events := Table.updateWhere chosen assign relay.events }

def isKeyLetter (letter : Char) : Bool :=
  letter.isAlphanum || letter = '.' || letter = '_' || letter = ':' || letter = '-'

/-- An alphanumeric and then from `least` to `most` key letters. -/
def matchesKey (least most : Nat) (text : String) : Bool :=
  match text.toList with
  | [] => false
  | first :: rest =>
    first.isAlphanum && rest.all isKeyLetter &&
      decide (least ≤ rest.length) && decide (rest.length ≤ most)

def deviceRe : String → Bool := matchesKey 7 119

def eventKeyRe : String → Bool := matchesKey 0 119

def Relay.device? (relay : Relay) (ownerId deviceId : String) : Option RelayDevice :=
  relay.devices.find? fun device => device.ownerId = ownerId ∧ device.deviceId = deviceId

/-- `name[:80]`. -/
def deviceName (name : String) : String := String.ofList (name.toList.take 80)

/-- `register_device`. -/
def registerRelayDevice (relay : Relay) (ownerId deviceId name : String) (now : Time) :
    Except RelayError Relay :=
  if !deviceRe deviceId then .error (.value "invalid device id")
  else match relay.device? ownerId deviceId with
    | some _ =>
      .ok { relay with
        devices := Table.updateWhere
          (fun device => device.ownerId = ownerId ∧ device.deviceId = deviceId)
          (fun device => { device with name := deviceName name, lastSeen := now })
          relay.devices }
    | none =>
      .ok { relay with
        devices := relay.devices ++ [⟨ownerId, deviceId, deviceName name, now, now⟩] }

structure EventDraft where
  serviceId : String
  ownerId : String
  eventKey : String
  deviceId : String
  automationId : String
  payload : String
  payloadSha256 : String

/-- `create_event`, up to its INSERT. -/
def checkRelayEvent (relay : Relay) (draft : EventDraft) : Except RelayError Unit :=
  if !eventKeyRe draft.eventKey then .error (.value "invalid event key")
  else if (relay.device? draft.ownerId draft.deviceId).isNone then
    .error (.lookup "relay device not registered")
  else .ok ()

def EventDraft.event (settings : RelaySettings) (draft : EventDraft) (eventId : String)
    (now : Time) : RelayEvent where
  id := eventId
  serviceAccountId := draft.serviceId
  ownerId := draft.ownerId
  deviceId := draft.deviceId
  automationId := draft.automationId
  eventKey := draft.eventKey
  payload := draft.payload
  payloadSha256 := draft.payloadSha256
  status := .pending
  attempt := 0
  maxAttempts := settings.maxAttempts
  availableAt := now
  leaseTokenHash := none
  leaseUntil := none
  errorCode := none
  errorMessage := none
  createdAt := now
  updatedAt := now
  acknowledgedAt := none
  payloadTombstonedAt := none

structure CreateReply where
  event : RelayEvent
  created : Bool
  conflict : Bool

/-- `create_event`, from its INSERT on: the key of a service account is unique. -/
def insertRelayEvent (settings : RelaySettings) (relay : Relay) (draft : EventDraft)
    (eventId : String) (now : Time) : Relay × CreateReply :=
  match relay.events.find? fun event =>
      event.serviceAccountId = draft.serviceId ∧ event.eventKey = draft.eventKey with
  | some row => (relay,
      { event := row
        created := false
        conflict := decide (row.payloadSha256 ≠ draft.payloadSha256) ||
          decide (row.deviceId ≠ draft.deviceId) || decide (row.automationId ≠ draft.automationId) })
  | none =>
    let event := draft.event settings eventId now
    ({ relay with events := relay.events ++ [event], issued := relay.issued ++ [eventId] },
      ⟨event, true, false⟩)

def RelayEvent.leaseExpired (now : Time) (event : RelayEvent) : Bool :=
  event.leaseUntil.any fun leaseUntil => leaseUntil ≤ now

def RelayEvent.release (now : Time) (event : RelayEvent) : RelayEvent :=
  { event with
    status := .pending, leaseTokenHash := none, leaseUntil := none
    availableAt := now, updatedAt := now }

def RelayEvent.exhaust (now : Time) (event : RelayEvent) : RelayEvent :=
  { event with status := .deadLetter, errorCode := some "lease_exhausted", updatedAt := now }

def RelayEvent.lease (tokenHash : String) (leaseUntil now : Time) (event : RelayEvent) :
    RelayEvent :=
  { event with
    status := .leased, attempt := event.attempt + 1, leaseTokenHash := some tokenHash
    leaseUntil := some leaseUntil, updatedAt := now }

def Relay.expireLeases (relay : Relay) (ownerId deviceId : String) (now : Time) : Relay :=
  (relay.updateEvents (fun event => event.ownerId = ownerId ∧ event.deviceId = deviceId ∧
      event.status = .leased ∧ event.leaseExpired now = true ∧ event.attempt < event.maxAttempts)
    (RelayEvent.release now)).updateEvents
    (fun event => event.ownerId = ownerId ∧ event.deviceId = deviceId ∧
      event.status = .leased ∧ event.leaseExpired now = true ∧ event.maxAttempts ≤ event.attempt)
    (RelayEvent.exhaust now)

def Relay.dueEvents (relay : Relay) (ownerId deviceId : String) (limit : Nat) (now : Time) :
    List String :=
  (((relay.events.filter fun event => event.ownerId = ownerId ∧ event.deviceId = deviceId ∧
      event.status = .pending ∧ event.availableAt ≤ now).insertionSort
        fun left right => left.createdAt ≤ right.createdAt).take (max 1 (min limit 25))).map
    RelayEvent.id

section

variable (hash : String → String) (settings : RelaySettings)

/-- One pass of the loop of `lease_events`. -/
def leaseEvent (now : Time) (relay : Relay) (due : String × String) : Relay :=
  match relay.event? due.1 with
  | none => relay
  | some event =>
    if event.status = .pending then
      let leaseUntil := now + settings.leaseSeconds
      { relay.updateEvents (fun row => row.id = due.1 ∧ row.status = .pending)
          (RelayEvent.lease (hash due.2) leaseUntil now) with
        handed := relay.handed ++ [⟨event.lease (hash due.2) leaseUntil now, due.2⟩] }
    else relay

/-- `lease_events`, from its first UPDATE on. The items of the response are those that
are new in `handed`. -/
def leaseEvents (relay : Relay) (ownerId deviceId : String) (limit : Nat)
    (tokens : List String) (now : Time) : Relay :=
  let expired := relay.expireLeases ownerId deviceId now
  ((expired.dueEvents ownerId deviceId limit now).zip tokens).foldl
    (leaseEvent hash settings now) expired

/-- `secrets.token_urlsafe` never draws a token twice. -/
def freshTokens (relay : Relay) (tokens : List String) : Bool :=
  decide (tokens.map hash).Nodup &&
    tokens.all fun token => relay.handed.all fun lease => hash lease.leaseToken ≠ hash token

def Relay.dueCount (relay : Relay) (ownerId deviceId : String) (limit : Nat) (now : Time) : Nat :=
  ((relay.expireLeases ownerId deviceId now).dueEvents ownerId deviceId limit now).length

end

inductive AckStatus where
  | succeeded
  | failed
  deriving DecidableEq

def AckStatus.target : AckStatus → RelayStatus
  | .succeeded => .succeeded
  | .failed => .failed

structure Acknowledgement where
  eventId : String
  ownerId : String
  deviceId : String
  leaseToken : String
  status : AckStatus
  errorCode : String
  errorMessage : String

/-- `text[:count] or None`. -/
def textOrNone (count : Nat) (text : String) : Option String :=
  if text.toList.take count = [] then none else some (String.ofList (text.toList.take count))

/-- `acknowledge`, up to its UPDATE: the row it read. -/
def checkAcknowledgement (hash : String → String) (relay : Relay)
    (acknowledgement : Acknowledgement) (now : Time) : Option RelayEvent :=
  (relay.events.find? fun event =>
      event.id = acknowledgement.eventId ∧ event.ownerId = acknowledgement.ownerId ∧
        event.deviceId = acknowledgement.deviceId ∧ event.status = .leased ∧
        event.leaseUntil.any (fun leaseUntil => now < leaseUntil) = true).filter fun event =>
    event.leaseTokenHash = some (hash acknowledgement.leaseToken)

def RelayEvent.settle (acknowledgement : Acknowledgement) (now : Time) (event : RelayEvent) :
    RelayEvent :=
  { event with
    status := acknowledgement.status.target, leaseTokenHash := none, leaseUntil := none
    errorCode := textOrNone 80 acknowledgement.errorCode
    errorMessage := textOrNone 500 acknowledgement.errorMessage
    acknowledgedAt := some now, updatedAt := now }

/-- `acknowledge`, from its UPDATE on. -/
def writeAcknowledgement (relay : Relay) (acknowledgement : Acknowledgement) (now : Time) :
    Relay :=
  relay.updateEvents (fun event => event.id = acknowledgement.eventId)
    (RelayEvent.settle acknowledgement now)

/-- `COALESCE(acknowledged_at,updated_at,created_at)`. -/
def RelayEvent.settledAt (event : RelayEvent) : Time := event.acknowledgedAt.getD event.updatedAt

def RelayEvent.tombstone (now : Time) (event : RelayEvent) : RelayEvent :=
  { event with payload := "\x7b\x7d", payloadTombstonedAt := some now, updatedAt := now }

/-- The terminal rows of an owner beyond its cap, newest first. -/
def Relay.overflow (cap : Nat) (relay : Relay) (ownerId : String) : List String :=
  (((relay.events.filter fun event => event.ownerId = ownerId ∧
      event.status.isTerminal = true).insertionSort fun left right =>
        right.settledAt < left.settledAt ∨
          (left.settledAt = right.settledAt ∧ right.id ≤ left.id)).drop cap).map RelayEvent.id

def Relay.discard (relay : Relay) (keep : RelayEvent → Bool) : Relay :=
  { relay with events := relay.events.filter keep }

def Relay.trimOwner (cap : Nat) (relay : Relay) (ownerId : String) : Relay :=
  relay.discard fun event => event.id ∉ relay.overflow cap ownerId

structure CleanupResult where
  payloadsTombstoned : Nat
  rowsDeleted : Nat

def cleanupTerminalEvents (settings : RelaySettings) (relay : Relay) (now : Time) :
    Relay × CleanupResult :=
  let payloadCutoff := now - settings.payloadRetentionSeconds
  let rowCutoff := now - settings.terminalRetentionSeconds
  let retained := relay.discard fun event =>
    !(event.status.isTerminal && decide (event.settledAt ≤ rowCutoff))
  let expired := fun event : RelayEvent => event.status.isTerminal = true ∧
    event.settledAt ≤ payloadCutoff ∧ event.payloadTombstonedAt = none
  let tombstoned := retained.updateEvents expired (RelayEvent.tombstone now)
  let owners := ((tombstoned.events.filter fun event => event.status.isTerminal).map
    RelayEvent.ownerId).dedup
  let trimmed := owners.foldl (Relay.trimOwner settings.maxTerminalRowsPerOwner) tombstoned
  (trimmed,
    { payloadsTombstoned := (retained.events.filter fun event => expired event).length
      rowsDeleted := relay.events.length - trimmed.events.length })

def deleteRelayAccount (relay : Relay) (accountId : String) : Relay :=
  { relay.discard fun event => event.ownerId ≠ accountId with
    devices := relay.devices.filter fun device => device.ownerId ≠ accountId }

inductive RelayRequest where
  | registerDevice (ownerId deviceId name : String) (now : Time)
  | createEvent (draft : EventDraft)
  | leaseEvents (ownerId deviceId : String) (limit : Nat) (now : Time)
  | acknowledge (acknowledgement : Acknowledgement) (now : Time)
  | cleanup (now : Time)
  | deleteAccount (accountId : String)

/-- What a call still holds between its first commit or SELECT and its write. -/
inductive RelayTicket where
  | createEvent (draft : EventDraft)
  | leaseEvents (ownerId deviceId : String) (limit : Nat)
  | acknowledge (acknowledgement : Acknowledgement) (row : RelayEvent)

inductive RelayInput where
  | event (eventId : String) (now : Time)
  | tokens (tokens : List String) (now : Time)
  | clock (now : Time)

def callRelay (hash : String → String) (settings : RelaySettings) (relay : Relay) :
    RelayRequest → Option (Relay × Option RelayTicket)
  | .registerDevice ownerId deviceId name now =>
    match registerRelayDevice relay ownerId deviceId name now with
    | .ok registered => some (registered, none)
    | .error _ => some (relay, none)
  | .createEvent draft =>
    match checkRelayEvent relay draft with
    | .ok _ => some (relay, some (.createEvent draft))
    | .error _ => some (relay, none)
  | .leaseEvents ownerId deviceId limit now =>
    match registerRelayDevice relay ownerId deviceId "" now with
    | .ok registered => some (registered, some (.leaseEvents ownerId deviceId limit))
    | .error _ => some (relay, none)
  | .acknowledge acknowledgement now =>
    some (relay, (checkAcknowledgement hash relay acknowledgement now).map
      (.acknowledge acknowledgement))
  | .cleanup now => some ((cleanupTerminalEvents settings relay now).1, none)
  | .deleteAccount accountId => some (deleteRelayAccount relay accountId, none)

def resumeRelay (hash : String → String) (settings : RelaySettings) (relay : Relay) :
    RelayTicket → RelayInput → Option (Relay × Option RelayTicket)
  | .createEvent draft, .event eventId now =>
    if eventId ∈ relay.issued then none
    else some ((insertRelayEvent settings relay draft eventId now).1, none)
  | .leaseEvents ownerId deviceId limit, .tokens tokens now =>
    if freshTokens hash relay tokens &&
        decide (tokens.length = relay.dueCount ownerId deviceId limit now) then
      some (leaseEvents hash settings relay ownerId deviceId limit tokens now, none)
    else none
  | .acknowledge acknowledgement _, .clock now =>
    some (writeAcknowledgement relay acknowledgement now, none)
  | _, _ => none

def relayRoutine (hash : String → String) (settings : RelaySettings) :
    Routine Relay RelayRequest RelayInput RelayTicket where
  call := callRelay hash settings
  resume := resumeRelay hash settings

def Relay.Fresh (relay : Relay) : Prop :=
  relay.devices = [] ∧ relay.events = [] ∧ relay.issued = [] ∧ relay.handed = []

end AgentMate
