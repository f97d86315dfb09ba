import AgentMate.ProtocolMachine

/-!
# The local event transport

`run_transport` keeps the newest lease of a Run in `run_transport_leases`, the events
the Server has not acknowledged in `run_event_wal` and those of older epochs in
`retired_run_event_wal`. Modelled are the rows that one Run of one device owns; what
other Runs hold in the WAL is a number of bytes. `written` lists every row ever
appended: no operation reads it, except that it numbers the fresh identifiers.
-/

namespace AgentMate

variable {Hash : Type}

inductive TransportStatus where
  | active | fenced | completed
  deriving DecidableEq, Repr

/-- A row of `run_transport_leases`. -/
structure LocalLease where
  leaseId : String
  leaseEpoch : Nat
  expiresAt : Time
  ackHighWater : Nat
  status : TransportStatus
  deriving DecidableEq

/-- A row of `run_event_wal`. -/
structure WalRow (Hash : Type) where
  leaseEpoch : Nat
  event : RunEvent Hash

structure Transport (Hash : Type) where
  lease : Option LocalLease
  wal : List (WalRow Hash)
  retired : List (WalRow Hash)
  written : List (WalRow Hash)
  otherBytes : Nat

/-- The device and the Run, what the device takes from `hashlib` and `json`, its
draws of `uuid.uuid4()`, assumed distinct, and `RUN_EVENT_WAL_MAX_BYTES`. -/
structure LocalAgent (Hash : Type) where
  host : Host Hash
  deviceId : String
  runId : String
  uuid : Nat → String
  uuid_injective : Function.Injective uuid
  walMaxBytes : Nat

inductive TransportError where
  | value (message : String)
  | walCapacityExceeded
  | leaseFenced (message : String)

/-- `str(exc)`. -/
def TransportError.message : TransportError → String
  | .value message => message
  | .walCapacityExceeded => "Run event WAL is full; execution must pause until Server ACK"
  | .leaseFenced message => message

section

variable (agent : LocalAgent Hash) (clock : Time)

/-- `byte_size`. -/
def eventBytes (eventType : String) (payload : Json) : Nat :=
  (agent.host.dumps payload).utf8ByteSize + eventType.utf8ByteSize + 256

/-- `SELECT COALESCE(SUM(byte_size),0) FROM run_event_wal`. -/
def Transport.walBytes (transport : Transport Hash) : Nat :=
  transport.otherBytes +
    (transport.wal.map fun row => eventBytes agent row.event.eventType row.event.payload).sum

/-- The sequence number `append_event` allocates. -/
def Transport.nextSequence (transport : Transport Hash) (lease : LocalLease) : Nat :=
  let queued := (transport.wal.filter fun row => row.leaseEpoch = lease.leaseEpoch).foldl
    (fun highest row => max highest row.event.sequence) 0
  max (queued + 1) (lease.ackHighWater + 1)

/-- The row `append_event` inserts. -/
def Transport.newRow (transport : Transport Hash) (lease : LocalLease) (eventType : String)
    (payload : Json) : WalRow Hash :=
  let sequence := transport.nextSequence lease
  { leaseEpoch := lease.leaseEpoch
    event :=
      { eventId := agent.uuid transport.written.length, sequence := sequence
        eventType := eventType, occurredAt := clock, payload := payload
        hash := agent.host.digest ⟨agent.runId, agent.deviceId, lease.leaseEpoch, sequence,
          eventType, clock, agent.host.dumps payload⟩ } }

def Transport.push (transport : Transport Hash) (row : WalRow Hash) : Transport Hash :=
  { transport with wal := transport.wal ++ [row], written := transport.written ++ [row] }

def appendEvent (transport : Transport Hash) (eventType : String) (payload : Json) :
    Except TransportError (Transport Hash) :=
  if (agent.host.dumps payload).utf8ByteSize > maxEventBytes then
    .error (.value "Run event payload exceeds size limit")
  else if containsSecretKey payload then
    .error (.value "Run event payload must not contain credentials or secrets")
  else match transport.lease with
    | none => .error (.leaseFenced "Run has no active local lease")
    | some lease =>
      if lease.status ≠ .active then .error (.leaseFenced "Run has no active local lease")
      else if transport.walBytes agent + eventBytes agent eventType payload >
          agent.walMaxBytes then .error .walCapacityExceeded
      else .ok (transport.push (transport.newRow agent clock lease eventType payload))

def appendEvents (transport : Transport Hash) :
    List (String × Json) → Transport Hash × Option TransportError
  | [] => (transport, none)
  | (eventType, payload) :: rest =>
    match appendEvent agent clock transport eventType payload with
    | .error error => (transport, some error)
    | .ok next => appendEvents next rest

end

/-- What `device_post` returns for a request: nothing, a 401, or the Server's answer. -/
inductive Reply (Value : Type) where
  | unreachable
  | unauthorized
  | answered (result : Transaction Value)

/-- `_mark_transport_error` with the status `fenced`. -/
def Transport.fence (transport : Transport Hash) : Transport Hash :=
  { transport with lease := transport.lease.map fun lease => { lease with status := .fenced } }

/-- A batch that `flush_wal` has posted, with the lease row it had read. -/
structure Flight (Hash : Type) where
  lease : LocalLease
  events : List (RunEvent Hash)

/-- The rows of a batch, at most `batch_size`. -/
def Transport.batch (transport : Transport Hash) (lease : LocalLease) : List (RunEvent Hash) :=
  (((transport.wal.filter fun row => row.leaseEpoch = lease.leaseEpoch).insertionSort
    fun left right => left.event.sequence ≤ right.event.sequence).take 100).map WalRow.event

/-- How `flush_wal` takes the reply to a batch. -/
def Transport.settleFlush (transport : Transport Hash) (flight : Flight Hash) :
    Reply SubmitReply → Transport Hash
  | .answered (.ok reply) =>
    if reply.ackHighWater < flight.lease.ackHighWater then transport.fence
    else { transport with
      wal := transport.wal.filter fun row => !(row.leaseEpoch = flight.lease.leaseEpoch &&
        row.event.sequence ≤ reply.ackHighWater)
      lease := transport.lease.map fun lease => { lease with
        ackHighWater := reply.ackHighWater
        status := if reply.terminalEventId = "" then .active else .completed } }
  | .answered (.error (.sequenceGap expected)) =>
    if flight.events.any fun event => event.sequence = expected then transport
    else transport.fence
  | .answered (.error (.conflict _)) => transport.fence
  | _ => transport

/-- `retire_superseded_wal`. -/
def Transport.retireSuperseded (transport : Transport Hash) (epoch : Nat) : Transport Hash :=
  { transport with
    wal := transport.wal.filter fun row => !(row.leaseEpoch < epoch)
    retired := transport.retired ++ transport.wal.filter fun row => row.leaseEpoch < epoch }

/-- What `init_db` does when the process starts. -/
def Transport.restart (transport : Transport Hash) : Transport Hash :=
  match transport.lease with
  | some lease => if 0 < lease.leaseEpoch then transport.retireSuperseded lease.leaseEpoch
      else transport
  | none => transport

def Transport.recordLease (transport : Transport Hash) (grant : LeaseGrant) :
    Except TransportError (Transport Hash) :=
  if grant.run.id = "" ∨ grant.leaseId = "" ∨ grant.leaseEpoch < 1 then
    .error (.value "invalid Run lease")
  else if transport.lease.any fun current => grant.leaseEpoch < current.leaseEpoch then
    .error (.leaseFenced "Run lease epoch moved backwards")
  else .ok { transport.retireSuperseded grant.leaseEpoch with
    lease := some ⟨grant.leaseId, grant.leaseEpoch, grant.expiresAt, grant.ackHighWater, .active⟩ }

/-- How `renew_lease` takes the reply: the commands, or `none` when it raises
`LeaseFenced`. -/
def Transport.settleRenewal (transport : Transport Hash) (posted : LocalLease) (clock : Time) :
    Reply LeaseRenewal → Transport Hash × Option (List Command)
  | .answered (.ok renewal) =>
    ({ transport with lease := transport.lease.map fun lease => { lease with
        expiresAt := renewal.expiresAt, ackHighWater := renewal.ackHighWater } },
      some renewal.commands)
  | .unauthorized | .answered (.error (.conflict _)) => (transport.fence, none)
  | _ =>
    if posted.expiresAt ≤ clock + 5 then (transport.fence, none) else (transport, some [])

variable {agent : LocalAgent Hash} {clock : Time}

theorem next_sequence_above (transport : Transport Hash) (lease : LocalLease) {row : WalRow Hash}
    (queued : row ∈ transport.wal) (epoch : row.leaseEpoch = lease.leaseEpoch) :
    row.event.sequence < transport.nextSequence lease := by
  have bound : ∀ (rows : List (WalRow Hash)) (start : Nat),
      start ≤ rows.foldl (fun highest row => max highest row.event.sequence) start ∧
        ∀ row ∈ rows, row.event.sequence ≤
          rows.foldl (fun highest row => max highest row.event.sequence) start := by
    intro rows
    induction rows with
    | nil => intro start; simp
    | cons head rest ih =>
      intro start
      have later := ih (max start head.event.sequence)
      rw [List.foldl_cons]
      refine ⟨by omega, fun row mem => ?_⟩
      rcases List.mem_cons.mp mem with rfl | mem
      · omega
      · exact later.2 row mem
  have mem : row ∈ transport.wal.filter fun row => row.leaseEpoch = lease.leaseEpoch := by
    simp [queued, epoch]
  have below := (bound _ 0).2 row mem
  simp only [Transport.nextSequence]
  omega

variable {next transport : Transport Hash}

theorem append_event_ok {eventType : String} {payload : Json}
    (done : appendEvent agent clock transport eventType payload = .ok next) :
    (agent.host.dumps payload).utf8ByteSize ≤ maxEventBytes ∧ containsSecretKey payload = false ∧
      ∃ lease, transport.lease = some lease ∧ lease.status = .active ∧
        next = transport.push (transport.newRow agent clock lease eventType payload) := by
  unfold appendEvent at done
  split at done
  · cases done
  · next small =>
    split at done
    · cases done
    · next clean =>
      refine ⟨Nat.le_of_not_lt small, Bool.not_eq_true _ ▸ clean, ?_⟩
      split at done
      · cases done
      · next lease found =>
        split at done
        · cases done
        · next active =>
          split at done
          · cases done
          · exact ⟨lease, found, Decidable.not_not.mp active, (Except.ok.inj done).symm⟩

/-- An operation that appends nothing: it drops WAL rows and rewrites the columns
of the lease row besides its epoch. -/
structure Settled (transport next : Transport Hash) : Prop where
  written : next.written = transport.written
  epoch : next.lease.map LocalLease.leaseEpoch = transport.lease.map LocalLease.leaseEpoch
  kept : ∀ row ∈ next.wal, row ∈ transport.wal

theorem settled_refl (transport : Transport Hash) : Settled transport transport :=
  ⟨rfl, rfl, fun _ mem => mem⟩

theorem settled_fence (transport : Transport Hash) : Settled transport transport.fence := by
  refine ⟨rfl, ?_, fun _ mem => mem⟩
  rw [Transport.fence, Option.map_map]
  rfl

theorem settle_flush_settled (transport : Transport Hash) (flight : Flight Hash)
    (reply : Reply SubmitReply) : Settled transport (transport.settleFlush flight reply) := by
  unfold Transport.settleFlush
  split
  · split
    · exact settled_fence transport
    · refine ⟨rfl, ?_, fun row mem => List.mem_of_mem_filter mem⟩
      rw [Option.map_map]
      rfl
  · split
    · exact settled_refl transport
    · exact settled_fence transport
  · exact settled_fence transport
  · exact settled_refl transport

theorem settle_flush_dropped {flight : Flight Hash} {reply : Reply SubmitReply} {row : WalRow Hash}
    (queued : row ∈ transport.wal) (dropped : row ∉ (transport.settleFlush flight reply).wal) :
    ∃ receipt, reply = .answered (.ok receipt) ∧ row.leaseEpoch = flight.lease.leaseEpoch ∧
      row.event.sequence ≤ receipt.ackHighWater := by
  unfold Transport.settleFlush at dropped
  split at dropped
  · next receipt =>
    split at dropped
    · exact absurd queued dropped
    · refine ⟨receipt, rfl, ?_⟩
      simpa [queued] using dropped
  · split at dropped <;> exact absurd queued dropped
  · exact absurd queued dropped
  · exact absurd queued dropped

theorem settle_renewal_settled (transport : Transport Hash) (posted : LocalLease) (clock : Time)
    (reply : Reply LeaseRenewal) :
    Settled transport (transport.settleRenewal posted clock reply).1 ∧
      (transport.settleRenewal posted clock reply).1.wal = transport.wal := by
  unfold Transport.settleRenewal
  split
  · refine ⟨⟨rfl, ?_, fun _ mem => mem⟩, rfl⟩
    rw [Option.map_map]
    rfl
  · exact ⟨settled_fence transport, rfl⟩
  · exact ⟨settled_fence transport, rfl⟩
  · split
    · exact ⟨settled_fence transport, rfl⟩
    · exact ⟨settled_refl transport, rfl⟩

theorem record_lease_ok {grant : LeaseGrant} (done : transport.recordLease grant = .ok next) :
    (∀ current, transport.lease = some current → current.leaseEpoch ≤ grant.leaseEpoch) ∧
      next.written = transport.written ∧
      next.lease.map LocalLease.leaseEpoch = some grant.leaseEpoch := by
  unfold Transport.recordLease at done
  split at done
  · cases done
  · split at done
    · cases done
    · next order =>
      cases done
      refine ⟨fun current found => ?_, rfl, rfl⟩
      rw [found] at order
      simpa using order

theorem mem_batch {lease : LocalLease} {event : RunEvent Hash}
    (mem : event ∈ transport.batch lease) :
    (⟨lease.leaseEpoch, event⟩ : WalRow Hash) ∈ transport.wal := by
  obtain ⟨row, chosen, rfl⟩ := List.mem_map.mp mem
  have listed := List.mem_of_mem_take chosen
  rw [List.mem_insertionSort, List.mem_filter] at listed
  have epoch : row.leaseEpoch = lease.leaseEpoch := by simpa using listed.2
  rw [← epoch]
  exact listed.1

end AgentMate
