import AgentMate.EventLog

/-! # Resubmitted and conflicting events -/

namespace AgentMate

open TransitionSystem Rollback List

variable {Hash : Type}

/-- The log answers the event: its identifier is stored with its digest and type. -/
def Recorded (store : Store Hash) (event : RunEvent Hash) : Prop :=
  ∃ row ∈ store.events, row.eventId = event.eventId ∧ row.payloadHash = event.hash ∧
    row.eventType = event.eventType

/-- A stored row contradicts the event: it has its place in the log with other
content, or its identifier at another place. -/
def Contradicts (text : PyText) (lease : Lease) (row : EventRow Hash) (event : RunEvent Hash) :
    Prop :=
  let samePlace := row.runId = lease.runId ∧ row.leaseEpoch = lease.leaseEpoch ∧
    row.sequence = event.sequence
  let sameContent := row.eventId = event.eventId ∧ row.eventType = event.eventType ∧
    row.occurredAt = event.occurredAt ∧ text.dumps row.payload = text.dumps event.payload
  (samePlace ∧ ¬sameContent) ∨ (row.eventId = event.eventId ∧ ¬samePlace)

variable {event : RunEvent Hash} {host : Host Hash} {lease : Lease}

theorem recorded_prefix {store later : Store Hash} (grown : store.events <+: later.events)
    (recorded : Recorded store event) :
    Recorded later event := by
  obtain ⟨row, stored, facts⟩ := recorded
  exact ⟨row, grown.subset stored, facts⟩

theorem ack_high_water_length {store : Store Hash} (inv : LogInv host store)
    (mem : lease ∈ store.leases) :
    lease.ackHighWater = (store.epochLog lease.runId lease.leaseEpoch).length := by
  have lengths := congrArg List.length (inv.contiguous lease mem)
  rw [length_map, length_range'] at lengths
  exact lengths.symm

section

variable [DecidableEq Hash] {host : Host Hash} {lease : Lease} {now : Time}
  {batch next : Batch Hash} {event : RunEvent Hash}

theorem submit_event_log (inv : BatchInv host now lease batch)
    (done : submitEvent host lease now batch event = .ok next) :
    batch.store.events <+: next.store.events ∧ checkEvent host lease event = .ok () ∧
      Recorded next.store event := by
  obtain ⟨checked, replayed | applied⟩ := submit_event_cases done
  · obtain ⟨row, found, facts⟩ := replayed.stored
    rw [(replayed_same inv checked replayed).1]
    exact ⟨prefix_rfl, checked, row, (existing_event_some found).1, facts⟩
  · obtain ⟨output, business, -, after⟩ := applied.store
    rw [after, after_event_events]
    refine ⟨prefix_append _ _, checked, event.row lease event.hash now, ?_, rfl, rfl, rfl⟩
    rw [after_event_events]
    exact mem_append_right _ (mem_singleton.mpr rfl)

variable {events : List (RunEvent Hash)} {final : Batch Hash} {row : EventRow Hash}

theorem submit_batch_log (inv : BatchInv host now lease batch)
    (done : events.foldlM (submitEvent host lease now) batch = .ok final) :
    batch.store.events <+: final.store.events ∧
      ∀ event ∈ events, checkEvent host lease event = .ok () ∧ Recorded final.store event := by
  induction events generalizing batch with
  | nil =>
    rw [fold_nil_ok done]
    exact ⟨prefix_rfl, fun _ mem => by cases mem⟩
  | cons first rest ih =>
    obtain ⟨middle, pass, remaining⟩ := fold_cons_ok done
    obtain ⟨grown, checked, recorded⟩ := submit_event_log inv pass
    obtain ⟨later, others⟩ := ih (submit_event_batch_inv inv pass) remaining
    refine ⟨grown.trans later, fun event mem => ?_⟩
    rcases mem_cons.mp mem with rfl | mem
    · exact ⟨checked, recorded_prefix later recorded⟩
    · exact others event mem

theorem recorded_row (inv : BatchInv host now lease batch)
    (checked : checkEvent host lease event = .ok ()) {row found : EventRow Hash}
    (stored : row ∈ batch.store.events) (sameId : row.eventId = event.eventId)
    (sameHash : row.payloadHash = event.hash)
    (answer : existingEvent batch.store lease event = some found) : found = row := by
  obtain ⟨foundStored, place⟩ := existing_event_some answer
  have log := inv.log
  obtain ⟨sameRun, sameEpoch, sameSequence⟩ :=
    same_envelope_position (same_digest_envelope log stored sameHash checked)
  rcases place with foundId | ⟨foundRun, foundEpoch, foundSequence⟩
  · exact Table.unique_key_eq log.unique foundStored stored (foundId.trans sameId.symm)
  · exact stored_unique log foundStored stored (foundRun.trans sameRun.symm)
      (foundEpoch.trans sameEpoch.symm) (foundSequence.trans sameSequence.symm)

theorem recorded_replay (inv : BatchInv host now lease batch)
    (checked : checkEvent host lease event = .ok ()) (recorded : Recorded batch.store event) :
    submitEvent host lease now batch event = .ok batch := by
  obtain ⟨row, stored, sameId, sameHash, sameType⟩ := recorded
  obtain ⟨sameRun, sameEpoch, sameSequence⟩ :=
    same_envelope_position (same_digest_envelope inv.log stored sameHash checked)
  obtain ⟨held, mem, -, heldRun, heldEpoch, -, heldAck⟩ := settled_row inv.holding
  have behind := (stored_sequence inv.log mem stored (sameRun.trans heldRun.symm)
    (sameEpoch.trans heldEpoch.symm)).2
  rw [sameSequence, heldAck] at behind
  have answer : existingEvent batch.store lease event = some row := by
    cases answer : existingEvent batch.store lease event with
    | none => exact absurd sameId (existing_event_none answer stored).1
    | some found => rw [recorded_row inv checked stored sameId sameHash answer]
  have accepted : ¬(row.eventId ≠ event.eventId ∨ row.payloadHash ≠ event.hash ∨
      row.eventType ≠ event.eventType) := by
    simp [sameId, sameHash, sameType]
  simp only [submitEvent, checked, answer, if_neg accepted, if_neg (Nat.not_lt.mpr behind)]
  rfl

theorem recorded_batch (inv : BatchInv host now lease batch) (recorded : ∀ event ∈ events,
      checkEvent host lease event = .ok () ∧ Recorded batch.store event) :
    events.foldlM (submitEvent host lease now) batch = .ok batch :=
  fold_of_fixed fun event mem =>
    recorded_replay inv (recorded event mem).1 (recorded event mem).2

theorem contradiction_refused (inv : BatchInv host now lease batch)
    (stored : row ∈ batch.store.events) (contradicts : Contradicts host.toPyText lease row event) :
    submitEvent host lease now batch event ≠ .ok next := by
  intro done
  obtain ⟨checked, replayed | applied⟩ := submit_event_cases done
  · obtain ⟨found, answer, foundId, foundHash, foundType⟩ := replayed.stored
    obtain ⟨foundStored, -⟩ := existing_event_some answer
    have envelope := same_digest_envelope inv.log foundStored foundHash checked
    obtain ⟨foundRun, foundEpoch, foundSequence⟩ := same_envelope_position envelope
    rcases contradicts with ⟨⟨rowRun, rowEpoch, rowSequence⟩, differs⟩ | ⟨rowId, elsewhere⟩
    · have same : found = row := stored_unique inv.log foundStored stored
        (foundRun.trans rowRun.symm) (foundEpoch.trans rowEpoch.symm)
        (foundSequence.trans rowSequence.symm)
      subst same
      exact differs ⟨foundId, foundType, congrArg Envelope.occurredAt envelope,
        congrArg Envelope.payload envelope⟩
    · have same : found = row :=
        Table.unique_key_eq inv.log.unique foundStored stored (foundId.trans rowId.symm)
      subst same
      exact elsewhere ⟨foundRun, foundEpoch, foundSequence⟩
  · have absent := existing_event_none applied.absent stored
    rcases contradicts with ⟨place, -⟩ | ⟨rowId, -⟩
    · exact absent.2 place
    · exact absent.1 rowId

theorem contradicting_batch_refused (inv : BatchInv host now lease batch)
    (stored : row ∈ batch.store.events) (mem : event ∈ events)
    (contradicts : Contradicts host.toPyText lease row event) :
    events.foldlM (submitEvent host lease now) batch ≠ .ok final := by
  intro done
  induction events generalizing batch with
  | nil => cases mem
  | cons first rest ih =>
    obtain ⟨middle, pass, remaining⟩ := fold_cons_ok done
    rcases mem_cons.mp mem with rfl | mem
    · exact contradiction_refused inv stored contradicts pass
    · have grown := (submit_event_log inv pass).1
      exact ih (submit_event_batch_inv inv pass) (grown.subset stored) mem remaining

theorem gap_refused (inv : BatchInv host now lease batch) (gap : batch.ack + 1 < event.sequence) :
    submitEvent host lease now batch event ≠ .ok next := by
  intro done
  obtain ⟨checked, replayed | applied⟩ := submit_event_cases done
  · have behind := (replayed_same inv checked replayed).2
    omega
  · have contiguous := applied.sequence
    omega

end

def freshEvents : Nat → List (RunEvent Hash) → List (RunEvent Hash)
  | _, [] => []
  | ack, event :: rest =>
    if event.sequence = ack + 1 then event :: freshEvents (ack + 1) rest
    else freshEvents ack rest

def RunEvent.status? (event : RunEvent Hash) : Option RunStatus :=
  (eventKind event.eventType).status

def writtenStatuses (ack : Nat) (events : List (RunEvent Hash)) : List RunStatus :=
  (freshEvents ack events).filterMap RunEvent.status?

theorem applied_run {now : Time} {batch next : Batch Hash}
    (applied : Applied host lease now batch next event) {run : Run}
    (found : batch.store.run? lease.runId = some run) :
    ∃ moved, next.store.run? lease.runId = some moved ∧ Run.Frame run moved ∧
      moved.leaseEpoch = run.leaseEpoch ∧
      moved.status = event.status?.getD run.status := by
  obtain ⟨output, business, -, after⟩ := applied.store
  refine ⟨run.applied host.toPyText event output now, ?_, rfl, rfl, rfl⟩
  rw [after, after_event_run, if_pos rfl, found]
  rfl

theorem applied_other_run {now : Time} {batch next : Batch Hash}
    (applied : Applied host lease now batch next event) {other : String}
    (different : other ≠ lease.runId) : next.store.run? other = batch.store.run? other := by
  obtain ⟨output, business, -, after⟩ := applied.store
  rw [after, after_event_run, if_neg different]

section

variable [DecidableEq Hash]

/-- Every event takes effect in turn. -/
inductive AppliedAll (host : Host Hash) (lease : Lease) (now : Time) :
    Batch Hash → List (RunEvent Hash) → Batch Hash → Prop
  | nil (batch : Batch Hash) : AppliedAll host lease now batch [] batch
  | cons {batch middle final : Batch Hash} {event : RunEvent Hash}
      {rest : List (RunEvent Hash)} :
      BatchInv host now lease batch → checkEvent host lease event = .ok () →
      Applied host lease now batch middle event → AppliedAll host lease now middle rest final →
      AppliedAll host lease now batch (event :: rest) final

variable {host : Host Hash} {lease : Lease} {now : Time} {batch final : Batch Hash}
  {events : List (RunEvent Hash)}

theorem submit_batch_applied (inv : BatchInv host now lease batch)
    (done : events.foldlM (submitEvent host lease now) batch = .ok final) :
    AppliedAll host lease now batch (freshEvents batch.ack events) final := by
  induction events generalizing batch with
  | nil =>
    rw [fold_nil_ok done]
    exact .nil batch
  | cons event rest ih =>
    obtain ⟨middle, pass, remaining⟩ := fold_cons_ok done
    have later := ih (submit_event_batch_inv inv pass) remaining
    obtain ⟨checked, replayed | applied⟩ := submit_event_cases pass
    · obtain ⟨rfl, behind⟩ := replayed_same inv checked replayed
      rw [freshEvents, if_neg (by omega)]
      exact later
    · rw [applied.ack, applied.sequence] at later
      rw [freshEvents, if_pos applied.sequence]
      exact .cons inv checked applied later

theorem applied_all_live (applied : AppliedAll host lease now batch events final) :
    events = [] ∨ lease.isLive now = true := by
  cases applied with
  | nil => exact Or.inl rfl
  | cons _ _ first _ => exact Or.inr first.live

theorem applied_all_status {run : Run} (applied : AppliedAll host lease now batch events final)
    (found : batch.store.run? lease.runId = some run) :
    ∃ moved, final.store.run? lease.runId = some moved ∧ Run.Frame run moved ∧
      moved.leaseEpoch = run.leaseEpoch ∧
      moved.status = (events.filterMap RunEvent.status?).getLast?.getD run.status := by
  induction applied generalizing run with
  | nil batch => exact ⟨run, found, Run.Frame.refl run, rfl, rfl⟩
  | @cons batch middle final event rest inv checked first later ih =>
    obtain ⟨moved, movedFound, movedFrame, movedEpoch, movedStatus⟩ := applied_run first found
    obtain ⟨last, lastFound, lastFrame, lastEpoch, lastStatus⟩ := ih movedFound
    refine ⟨last, lastFound, ?_, lastEpoch.trans movedEpoch, ?_⟩
    · rw [Run.Frame] at movedFrame lastFrame ⊢
      rw [movedFrame] at lastFrame
      exact lastFrame
    · rw [lastStatus, movedStatus]
      cases status : event.status? with
      | none =>
        rw [filterMap_cons_none status]
        rfl
      | some written =>
        rw [filterMap_cons_some status, getLast?_cons]
        rfl

theorem applied_all_column {Column : Type} (column : Run → Column)
    (kept : ∀ (text : PyText) (event : RunEvent Hash) (output : TerminalOutput) (now : Time)
      (run : Run), column (run.applied text event output now) = column run)
    (applied : AppliedAll host lease now batch events final)
    (runId : String) :
    (final.store.run? runId).map column = (batch.store.run? runId).map column := by
  induction applied with
  | nil batch => rfl
  | @cons batch middle final event rest inv checked first later ih =>
    obtain ⟨output, business, -, after⟩ := first.store
    rw [ih, after, after_event_run]
    split
    · rw [Option.map_map]
      congr 1
      funext run
      exact kept host.toPyText event output now run
    · rfl

theorem applied_all_leases (applied : AppliedAll host lease now batch events final) :
    (final.store.leases = batch.store.leases ∧
      ∀ event ∈ events, (eventKind event.eventType).isTerminal = false) ∨
    ((∃ event ∈ events, (eventKind event.eventType).isTerminal = true) ∧
      ∃ eventId, final.store.leases =
        (batch.store.updateLease lease.id (Lease.complete eventId)).leases) := by
  induction applied with
  | nil batch => exact Or.inl ⟨rfl, fun _ mem => by cases mem⟩
  | @cons batch middle final event rest inv checked first later ih =>
    obtain ⟨output, business, -, after⟩ := first.store
    have rows := after_event_leases host.toPyText batch.store lease event output business now
    rw [← after] at rows
    cases terminal : (eventKind event.eventType).isTerminal with
    | false =>
      rw [if_neg (by simp [terminal])] at rows
      rcases ih with ⟨same, quiet⟩ | ⟨⟨ending, mem, ends⟩, eventId, completed⟩
      · refine Or.inl ⟨same.trans rows, fun other otherMem => ?_⟩
        rcases mem_cons.mp otherMem with rfl | otherMem
        · exact terminal
        · exact quiet other otherMem
      · refine Or.inr ⟨⟨ending, mem_cons_of_mem event mem, ends⟩, eventId, ?_⟩
        rw [completed, Store.updateLease, Store.updateLease, rows]
    | true =>
      rw [if_pos terminal] at rows
      refine Or.inr ⟨⟨event, mem_cons_self, terminal⟩, ?_⟩
      rcases ih with ⟨same, -⟩ | ⟨-, eventId, completed⟩
      · exact ⟨event.eventId, same.trans rows⟩
      · refine ⟨eventId, completed.trans ?_⟩
        simp only [Store.updateLease] at rows ⊢
        rw [rows]
        exact Table.update_where_comp (Lease.complete event.eventId)
          (Lease.complete eventId) fun _ same => same

end

section

variable [DecidableEq Hash] {host : Host Hash}

variable {next server later : Server Hash} {action : Server.Action Hash} {lease : Lease}
  {event : RunEvent Hash}

theorem server_step_cases (leaseInv : LeaseInv server.now server.store)
    (logInv : LogInv host server.store) (step : (serverMachine host).Step server action next) :
    Effects action.now server.store next.store ∨ ∃ lease events final, lease ∈ server.store.leases ∧
        BatchInv host action.now lease (Batch.start server.store lease) ∧
        AppliedAll host lease action.now (Batch.start server.store lease) events final ∧
        BatchInv host action.now lease final ∧ next.store = final.settled lease := by
  obtain ⟨order, rfl⟩ := step
  have later := lease_inv_later leaseInv order
  cases done : perform host server.store action.now action.call with
  | error error =>
    left
    rw [Server.serve, done, commit_error]
  | ok after =>
    rw [Server.serve, done, commit_ok]
    rcases perform_cases leaseInv.keyed done with
      effects | ⟨principal, runId, leaseId, leaseEpoch, events, reply, -, submit⟩
    · exact Or.inl effects
    · right
      obtain ⟨lease, final, current, loop, same, -⟩ := submit_events_cases submit
      have start := start_batch_inv action.now later logInv current
      exact ⟨lease, _, final, (current_lease_ok current).1, start,
        submit_batch_applied start loop, submit_batch_inv start loop, same⟩

theorem server_step_events (leaseInv : LeaseInv server.now server.store)
    (logInv : LogInv host server.store) (step : (serverMachine host).Step server action next) :
    server.store.events <+: next.store.events := by
  obtain ⟨order, rfl⟩ := step
  refine commit_cases (fun after => server.store.events <+: after.events)
    prefix_rfl fun after done => ?_
  rcases perform_cases leaseInv.keyed done with effects | ⟨_, _, _, _, _, _, -, submit⟩
  · exact effects_events effects ▸ prefix_rfl
  · obtain ⟨lease, final, current, loop, rfl, -⟩ := submit_events_cases submit
    exact (submit_batch_log (start_batch_inv action.now (lease_inv_later leaseInv order) logInv
      current) loop).1

theorem server_path_events (reachable : (serverMachine host).Reachable Anything server)
    (path : (serverMachine host).Path Anything server later) :
    server.store.events <+: later.store.events :=
  path_stable (fun after => server.store.events <+: after.store.events) reachable
    (fun _ _ _ reached before _ step => before.trans
      (server_step_events (server_lease_inv reached) (server_log_inv reached) step))
    prefix_rfl path

theorem ack_never_decreases (reachable : (serverMachine host).Reachable Anything server)
    (path : (serverMachine host).Path Anything server later)
    (mem : lease ∈ server.store.leases) :
    ∃ kept ∈ later.store.leases, kept.id = lease.id ∧ kept.runId = lease.runId ∧
      kept.leaseEpoch = lease.leaseEpoch ∧ lease.ackHighWater ≤ kept.ackHighWater := by
  have named : (lease.id, lease.runId, lease.leaseEpoch) ∈ later.store.issued :=
    (server_path_issued reachable path).subset (mem_map_of_mem mem)
  obtain ⟨kept, keptMem, same⟩ := mem_map.mp named
  simp only [Prod.mk.injEq] at same
  refine ⟨kept, keptMem, same.1, same.2.1, same.2.2, ?_⟩
  rw [ack_high_water_length (server_log_inv reachable) mem,
    ack_high_water_length (server_log_inv (reachable_path reachable path)) keptMem,
    same.2.1, same.2.2]
  have grown := (server_path_events reachable path).filter fun row =>
    decide (row.runId = lease.runId) && decide (row.leaseEpoch = lease.leaseEpoch)
  exact grown.length_le

/-- The event was part of an accepted batch of this lease at some earlier point of
the run that led here. -/
def AcceptedBefore (host : Host Hash) (server : Server Hash) (runId leaseId : String)
    (leaseEpoch : Nat) (event : RunEvent Hash) : Prop :=
  ∃ earlier principal events now after reply,
    (serverMachine host).Reachable Anything earlier ∧ earlier.now ≤ now ∧
    submitEvents host earlier.store principal runId leaseId leaseEpoch events now =
      .ok (after, reply) ∧ event ∈ events ∧
    (serverMachine host).Path Anything ⟨now, after⟩ server

theorem check_event_columns {lease other : Lease} (sameRun : other.runId = lease.runId)
    (sameDevice : other.deviceId = lease.deviceId)
    (sameEpoch : other.leaseEpoch = lease.leaseEpoch) :
    checkEvent host other event = checkEvent host lease event := by
  simp only [checkEvent, sameRun, sameDevice, sameEpoch]

theorem accepted_recorded {principal : DevicePrincipal} {runId leaseId : String} {leaseEpoch : Nat}
    (reachable : (serverMachine host).Reachable Anything server)
    (current : currentLease server.store principal runId leaseId leaseEpoch = .ok lease)
    (accepted : AcceptedBefore host server runId leaseId leaseEpoch event) :
    checkEvent host lease event = .ok () ∧ Recorded server.store event := by
  obtain ⟨earlier, caller, events, now, after, reply, reached, order, submit, mem, path⟩ :=
    accepted
  obtain ⟨old, final, oldCurrent, loop, afterEq, -⟩ := submit_events_cases submit
  have start := start_batch_inv now (lease_inv_later (server_lease_inv reached) order)
    (server_log_inv reached) oldCurrent
  obtain ⟨checked, recorded⟩ := (submit_batch_log start loop).2 event mem
  have reachedAfter : (serverMachine host).Reachable Anything ⟨now, after⟩ := by
    let action : Server.Action Hash :=
      ⟨now, .submitEvents caller runId leaseId leaseEpoch events⟩
    have performed : perform host earlier.store action.now action.call = .ok after := by
      simp only [action, perform, submit]
      rfl
    have step : (serverMachine host).Step earlier action ⟨now, after⟩ :=
      ⟨order, (serve_of_ok host performed).symm⟩
    exact reachable_step reached trivial step
  have recordedAfter : Recorded after event := by
    rw [afterEq]
    exact recorded
  obtain ⟨row, stored, sameId, sameHash, sameType⟩ :=
    recorded_prefix (server_path_events reachedAfter path) recordedAfter
  refine ⟨?_, row, stored, sameId, sameHash, sameType⟩
  obtain ⟨leaseMem, -, leaseRun, -, -, leaseEpoch', -⟩ := current_lease_ok current
  obtain ⟨-, -, oldRun, -, -, oldEpoch, -⟩ := current_lease_ok oldCurrent
  obtain ⟨writer, writerMem, -, writerRun, writerEpoch, writerDevice⟩ :=
    (server_log_inv reachable).written row stored
  have envelope := same_digest_envelope (server_log_inv reachable) stored sameHash checked
  obtain ⟨rowRun, rowEpoch, -⟩ := same_envelope_position envelope
  have rowDevice : row.deviceId = old.deviceId := congrArg Envelope.deviceId envelope
  have sameLease : writer = lease := lease_epoch_unique (server_lease_inv reachable) writerMem
    leaseMem (writerRun.trans (rowRun.trans (oldRun.trans leaseRun.symm)))
    (writerEpoch.trans (rowEpoch.trans (oldEpoch.trans leaseEpoch'.symm)))
  rw [check_event_columns (leaseRun.trans oldRun.symm)
    ((sameLease ▸ writerDevice).trans rowDevice) (leaseEpoch'.trans oldEpoch.symm)]
  exact checked

/-- In every reachable state the log of each lease is `1, .., ack_high_water`, the
identifiers are unique and the marks only grow. Under a lease of the current epoch,
events that were accepted before change nothing; a batch with an event that
contradicts a stored one, or that starts beyond the next sequence, is refused and
the store stays as it was. -/
theorem event_log_integrity (host : Host Hash) {server : Server Hash}
    (reachable : (serverMachine host).Reachable Anything server) :
    (∀ lease ∈ server.store.leases,
      (server.store.epochLog lease.runId lease.leaseEpoch).map EventRow.sequence =
        List.range' 1 lease.ackHighWater) ∧
    (∀ row ∈ server.store.events, ∃ lease ∈ server.store.leases,
      lease.runId = row.runId ∧ lease.leaseEpoch = row.leaseEpoch) ∧
    Table.UniqueKey EventRow.eventId server.store.events ∧
    (∀ later, (serverMachine host).Path Anything server later →
      ∀ lease ∈ server.store.leases, ∃ kept ∈ later.store.leases, kept.id = lease.id ∧
        kept.runId = lease.runId ∧ kept.leaseEpoch = lease.leaseEpoch ∧
        lease.ackHighWater ≤ kept.ackHighWater) ∧
    ∀ principal runId leaseId leaseEpoch lease now events, server.now ≤ now →
      currentLease server.store principal runId leaseId leaseEpoch = .ok lease →
      ((∀ event ∈ events, AcceptedBefore host server runId leaseId leaseEpoch event) →
        submitEvents host server.store principal runId leaseId leaseEpoch events now =
          .ok (server.store, ⟨lease.ackHighWater, lease.terminalEventId,
            pendingCommands server.store runId⟩)) ∧
      (((∃ event ∈ events, ∃ row ∈ server.store.events, Contradicts host.toPyText lease row event) ∨
          ∃ first rest, events = first :: rest ∧ lease.ackHighWater + 1 < first.sequence) →
        (∀ accepted, submitEvents host server.store principal runId leaseId leaseEpoch events now ≠
          .ok accepted) ∧
        (server.serve host ⟨now, .submitEvents principal runId leaseId leaseEpoch events⟩).store =
          server.store) := by
  have leaseInv := server_lease_inv reachable
  have logInv := server_log_inv reachable
  refine ⟨logInv.contiguous, ?_, logInv.unique, ?_, ?_⟩
  · intro row stored
    obtain ⟨lease, mem, -, runId, epoch, -⟩ := logInv.written row stored
    exact ⟨lease, mem, runId, epoch⟩
  · intro later path lease mem
    exact ack_never_decreases reachable path mem
  intro principal runId leaseId leaseEpoch lease now events order current
  have start := start_batch_inv now (lease_inv_later leaseInv order) logInv current
  obtain ⟨mem, rfl, -⟩ := current_lease_ok current
  constructor
  · intro accepted
    have loop : events.foldlM (submitEvent host lease now) (Batch.start server.store lease) =
        .ok (Batch.start server.store lease) :=
      recorded_batch start fun event eventMem =>
        accepted_recorded reachable current (accepted event eventMem)
    have settled := acknowledge_same leaseInv.keyed mem
    simp only [submitEvents, current]
    simp only [Batch.start] at loop
    simp only [bind, Except.bind, loop, settled]
    rfl
  · intro bad
    have refused : ∀ accepted,
        submitEvents host server.store principal runId lease.id leaseEpoch events now ≠
          .ok accepted := by
      rintro ⟨finish, reply⟩ done
      obtain ⟨same, final, again, loop, -⟩ := submit_events_cases done
      cases current.symm.trans again
      rcases bad with ⟨event, eventMem, row, stored, contradicts⟩ | ⟨first, rest, rfl, gap⟩
      · exact contradicting_batch_refused start stored eventMem contradicts loop
      · obtain ⟨middle, pass, -⟩ := fold_cons_ok loop
        exact gap_refused start gap pass
    refine ⟨refused, ?_⟩
    refine commit_cases (fun after => after = server.store) rfl fun after done => ?_
    obtain ⟨submitted, submit, -⟩ := bind_ok done
    exact absurd submit (refused submitted)

end

def completedRun : List (Server.Action Envelope) :=
  [⟨1, .createRun (plainDraft "run-1")⟩, ⟨2, .leaseRun laptop 30 "lease-1"⟩,
    ⟨3, .submitEvents laptop "run-1" "lease-1" 1
      [plainEvent laptop "run-1" 1 1 "event-started" "run.started" (.obj []),
        plainEvent laptop "run-1" 1 2 "event-completed" "run.completed" (.obj [])]⟩]

def completedLease : Lease :=
  ⟨"lease-1", "run-1", "owner", "device-laptop", 1, .completed, 2, 32, 2, 2, "event-completed"⟩

theorem completed_run_logged :
    let store := (emptyServer.serveAll plainHost completedRun).store
    (store.epochLog "run-1" 1).map EventRow.sequence = [1, 2] ∧
      ∀ accepted, submitEvents plainHost store laptop "run-1" "lease-1" 1
        [plainEvent laptop "run-1" 1 4 "event-late" "ui.text" (.obj [])] 4 ≠ .ok accepted := by
  have integrity := event_log_integrity plainHost
    (small_run_reachable completedRun (by decide +kernel))
  have mem : completedLease ∈ (emptyServer.serveAll plainHost completedRun).store.leases := by
    decide +kernel
  have current : currentLease (emptyServer.serveAll plainHost completedRun).store laptop "run-1"
      "lease-1" 1 = .ok completedLease := by decide +kernel
  refine ⟨integrity.1 completedLease mem, ?_⟩
  exact ((integrity.2.2.2.2 laptop "run-1" "lease-1" 1 completedLease 4 _ (by decide +kernel)
    current).2 (Or.inr ⟨_, _, rfl, by decide⟩)).1

end AgentMate
