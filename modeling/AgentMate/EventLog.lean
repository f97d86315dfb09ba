import AgentMate.LeaseFencing

/-! # Integrity of the event log -/

namespace AgentMate

open TransitionSystem Table List

variable {Hash : Type}

def Store.epochLog (store : Store Hash) (runId : String) (epoch : Nat) : List (EventRow Hash) :=
  store.events.filter fun row => row.runId = runId && row.leaseEpoch = epoch

def EventRow.envelope (text : PyText) (row : EventRow Hash) : Envelope :=
  { runId := row.runId, deviceId := row.deviceId, leaseEpoch := row.leaseEpoch
    sequence := row.sequence, eventType := row.eventType, occurredAt := row.occurredAt
    payload := text.dumps row.payload }

structure LogInv (host : Host Hash) (store : Store Hash) : Prop where
  contiguous : ∀ lease ∈ store.leases,
    (store.epochLog lease.runId lease.leaseEpoch).map EventRow.sequence =
      List.range' 1 lease.ackHighWater
  written : ∀ row ∈ store.events, ∃ lease ∈ store.leases, lease.id = row.leaseId ∧
    lease.runId = row.runId ∧ lease.leaseEpoch = row.leaseEpoch ∧ lease.deviceId = row.deviceId
  unique : UniqueKey EventRow.eventId store.events
  digested : ∀ row ∈ store.events, row.payloadHash = host.digest (row.envelope host.toPyText)

section

variable {host : Host Hash} {store : Store Hash} {now : Time}

theorem mem_epoch_log {row : EventRow Hash} {runId : String} {epoch : Nat} :
    row ∈ store.epochLog runId epoch ↔
      row ∈ store.events ∧ row.runId = runId ∧ row.leaseEpoch = epoch := by
  simp [Store.epochLog]

theorem stored_sequence (inv : LogInv host store) {lease : Lease} (mem : lease ∈ store.leases)
    {row : EventRow Hash} (stored : row ∈ store.events) (sameRun : row.runId = lease.runId)
    (sameEpoch : row.leaseEpoch = lease.leaseEpoch) :
    1 ≤ row.sequence ∧ row.sequence ≤ lease.ackHighWater := by
  have listed : row.sequence ∈ List.range' 1 lease.ackHighWater := by
    rw [← inv.contiguous lease mem]
    exact mem_map_of_mem (mem_epoch_log.mpr ⟨stored, sameRun, sameEpoch⟩)
  rw [mem_range'_1] at listed
  omega

theorem stored_unique (inv : LogInv host store) {left right : EventRow Hash}
    (leftStored : left ∈ store.events) (rightStored : right ∈ store.events)
    (sameRun : left.runId = right.runId) (sameEpoch : left.leaseEpoch = right.leaseEpoch)
    (sameSequence : left.sequence = right.sequence) : left = right := by
  obtain ⟨lease, mem, -, leaseRun, leaseEpoch, -⟩ := inv.written right rightStored
  have distinct : UniqueKey EventRow.sequence (store.epochLog lease.runId lease.leaseEpoch) := by
    rw [UniqueKey, inv.contiguous lease mem]
    exact nodup_range'
  exact unique_key_eq distinct
    (mem_epoch_log.mpr ⟨leftStored, sameRun.trans leaseRun.symm, sameEpoch.trans leaseEpoch.symm⟩)
    (mem_epoch_log.mpr ⟨rightStored, leaseRun.symm, leaseEpoch.symm⟩) sameSequence

end

variable {host : Host Hash} {store next : Store Hash} {now : Time}

theorem log_inv_map (assign : Lease → Lease)
    (inv : LogInv host store) (events : next.events = store.events)
    (rows : next.leases = store.leases.map assign)
    (identity : ∀ lease, ((assign lease).id, (assign lease).runId, (assign lease).leaseEpoch,
      (assign lease).deviceId, (assign lease).ackHighWater) =
        (lease.id, lease.runId, lease.leaseEpoch, lease.deviceId, lease.ackHighWater)) :
    LogInv host next := by
  have columns (lease : Lease) := identity lease
  simp only [Prod.mk.injEq] at columns
  refine ⟨?_, ?_, ?_, ?_⟩
  · intro lease mem
    rw [rows, mem_map] at mem
    obtain ⟨old, oldMem, rfl⟩ := mem
    obtain ⟨-, sameRun, sameEpoch, -, sameAck⟩ := columns old
    rw [Store.epochLog, events, sameRun, sameEpoch, sameAck]
    exact inv.contiguous old oldMem
  · intro row stored
    rw [events] at stored
    obtain ⟨lease, mem, id, runId, epoch, device⟩ := inv.written row stored
    obtain ⟨sameId, sameRun, sameEpoch, sameDevice, -⟩ := columns lease
    refine ⟨assign lease, rows ▸ mem_map_of_mem mem, ?_⟩
    rw [sameId, sameRun, sameEpoch, sameDevice]
    exact ⟨id, runId, epoch, device⟩
  · rw [events]
    exact inv.unique
  · intro row stored
    rw [events] at stored
    exact inv.digested row stored

theorem effect_log_inv (leaseInv : LeaseInv now store) (inv : LogInv host store)
    (effect : Effect now store next) :
    LogInv host next := by
  have same : store.leases = store.leases.map fun lease => lease := (map_id _).symm
  cases effect with
  | grant run assign lease found claimable admitted frame leased epoch runId owner leaseEpoch
        active ack =>
      have unused : store.epochLog lease.runId lease.leaseEpoch = [] := by
        refine filter_eq_nil_iff.mpr fun row stored matched => ?_
        simp only [Bool.and_eq_true, decide_eq_true_eq] at matched
        obtain ⟨old, oldMem, -, oldRun, oldEpoch, -⟩ := inv.written row stored
        obtain ⟨row', rowFound, -, -, bound⟩ := leaseInv.held old oldMem
        rw [oldRun, matched.1, runId, found] at rowFound
        cases rowFound
        omega
      refine ⟨?_, ?_, inv.unique, inv.digested⟩
      · intro other mem
        rcases mem_append.mp mem with old | new
        · exact inv.contiguous other old
        · rw [mem_singleton] at new
          subst new
          rw [ack]
          exact congrArg (List.map EventRow.sequence) unused
      · intro row stored
        obtain ⟨old, oldMem, facts⟩ := inv.written row stored
        exact ⟨old, mem_append_left _ oldMem, facts⟩
  | renew lease expiresAt =>
    refine log_inv_map _ inv rfl (update_lease_map store lease.id _) fun old => ?_
    split <;> rfl
  | release lease status assign business =>
    refine log_inv_map _ inv rfl (update_lease_map store lease.id _) fun old => ?_
    split <;> rfl
  | abandon run assign business =>
    refine log_inv_map _ inv rfl (show _ = store.leases.map _ from rfl) fun old => ?_
    split <;> rfl
  | _ => exact log_inv_map (fun lease => lease) inv rfl same fun _ => rfl

theorem effects_log_inv (leaseInv : LeaseInv now store) (inv : LogInv host store)
    (effects : Effects now store next) : LogInv host next := by
  induction effects with
  | refl => exact inv
  | tail before effect ih => exact effect_log_inv (effects_lease_inv leaseInv before) ih effect

theorem effect_events (effect : Effect now store next) :
    next.events = store.events := by
  cases effect <;> rfl

theorem effects_events (effects : Effects now store next) : next.events = store.events := by
  induction effects with
  | refl => rfl
  | tail _ effect ih => exact (effect_events effect).trans ih

def Batch.settled (lease : Lease) (batch : Batch Hash) : Store Hash :=
  batch.store.updateLease lease.id (Lease.acknowledge batch.ack)

/-- What the loop of `submit_events` keeps true. -/
structure BatchInv (host : Host Hash) (now : Time) (lease : Lease) (batch : Batch Hash) : Prop where
  leases : LeaseInv now batch.store
  holding : Holding lease batch.store
  log : LogInv host (batch.settled lease)

theorem settled_row {lease : Lease} {batch : Batch Hash} (holding : Holding lease batch.store) :
    ∃ row ∈ (batch.settled lease).leases, row.id = lease.id ∧ row.runId = lease.runId ∧
      row.leaseEpoch = lease.leaseEpoch ∧ row.deviceId = lease.deviceId ∧
      row.ackHighWater = batch.ack := by
  obtain ⟨row, mem, id, runId, -, device, epoch, -⟩ := holding_row holding
  exact ⟨row.acknowledge batch.ack, mem_update_of_chosen mem id, id, runId, epoch, device, rfl⟩

section

variable {host : Host Hash} {lease : Lease} {now : Time} {batch next : Batch Hash}
  {event : RunEvent Hash}

variable {store : Store Hash} {row : EventRow Hash}

theorem existing_event_some (found : existingEvent store lease event = some row) :
    row ∈ store.events ∧ (row.eventId = event.eventId ∨
      (row.runId = lease.runId ∧ row.leaseEpoch = lease.leaseEpoch ∧
        row.sequence = event.sequence)) := by
  refine ⟨mem_of_find?_eq_some found, ?_⟩
  have matched := find?_some found
  simpa [and_assoc] using matched

theorem existing_event_none (absent : existingEvent store lease event = none)
    (stored : row ∈ store.events) :
    row.eventId ≠ event.eventId ∧ ¬(row.runId = lease.runId ∧ row.leaseEpoch = lease.leaseEpoch ∧
      row.sequence = event.sequence) := by
  have unmatched := find?_eq_none.mp absent row stored
  simpa [and_assoc] using unmatched

theorem same_envelope_position {text : PyText}
    (same : row.envelope text = event.envelope text lease.runId lease.deviceId lease.leaseEpoch) :
    row.runId = lease.runId ∧ row.leaseEpoch = lease.leaseEpoch ∧ row.sequence = event.sequence :=
  ⟨congrArg Envelope.runId same, congrArg Envelope.leaseEpoch same, congrArg Envelope.sequence same⟩

def completion (event : RunEvent Hash) (row : Lease) : Lease :=
  if (eventKind event.eventType).isTerminal then row.complete event.eventId else row

theorem settled_after (applied : Applied host lease now batch next event) :
    (next.settled lease).leases = ((batch.settled lease).updateLease lease.id fun row =>
      (completion event row).acknowledge event.sequence).leases := by
  obtain ⟨output, business, -, after⟩ := applied.store
  have completed : next.store.leases =
      (batch.store.updateLease lease.id (completion event)).leases := by
    rw [after, after_event_leases]
    split
    · next terminal =>
      have same : completion event = Lease.complete event.eventId := by
        funext row
        rw [completion, if_pos terminal]
      rw [same]
    · next nonterminal =>
      refine (update_where_eq_self fun row _ _ => ?_).symm
      rw [completion, if_neg nonterminal]
  simp only [Batch.settled, Store.updateLease] at completed ⊢
  rw [completed, applied.ack, update_where_comp (completion event),
    update_where_comp (Lease.acknowledge batch.ack)]
  · congr 1
    funext row
    unfold completion
    split <;> rfl
  · exact fun _ same => same
  · intro row same
    unfold completion
    split <;> exact same

theorem settled_columns (event : RunEvent Hash) (row : Lease) :
    ((completion event row).acknowledge event.sequence).id = row.id ∧
      ((completion event row).acknowledge event.sequence).runId = row.runId ∧
      ((completion event row).acknowledge event.sequence).leaseEpoch = row.leaseEpoch ∧
      ((completion event row).acknowledge event.sequence).deviceId = row.deviceId := by
  unfold completion
  split <;> exact ⟨rfl, rfl, rfl, rfl⟩

theorem acknowledge_same (keyed : store.Keyed) (mem : lease ∈ store.leases) :
    store.updateLease lease.id (Lease.acknowledge lease.ackHighWater) = store := by
  have same : updateWhere (fun row : Lease => row.id = lease.id)
      (Lease.acknowledge lease.ackHighWater) store.leases = store.leases := by
    refine update_where_eq_self fun row rowMem id => ?_
    rw [unique_key_eq keyed.leases rowMem mem id]
    rfl
  rw [Store.updateLease, same]

theorem fresh_log_inv (fresh : store.Fresh) : LogInv host store := by
  have noLeases := fresh.leases
  have noEvents := fresh.events
  refine ⟨?_, ?_, ?_, ?_⟩
  · intro lease mem
    rw [noLeases] at mem
    cases mem
  · intro row stored
    rw [noEvents] at stored
    cases stored
  · rw [UniqueKey, noEvents]
    exact nodup_nil
  · intro row stored
    rw [noEvents] at stored
    cases stored

theorem start_batch_inv (now : Time) {principal : DevicePrincipal} {runId leaseId : String}
    {leaseEpoch : Nat} (leaseInv : LeaseInv now store) (logInv : LogInv host store)
    (current : currentLease store principal runId leaseId leaseEpoch = .ok lease) :
    BatchInv host now lease (Batch.start store lease) := by
  refine ⟨leaseInv, current_lease_holding current, ?_⟩
  have same : (Batch.start store lease).settled lease = store :=
    acknowledge_same leaseInv.keyed (current_lease_ok current).1
  rw [same]
  exact logInv

end

variable [DecidableEq Hash] {host : Host Hash} {lease : Lease} {now : Time}
  {batch next : Batch Hash} {event : RunEvent Hash}

theorem check_event_digest (checked : checkEvent host lease event = .ok ()) :
    host.digest (event.envelope host.toPyText lease.runId lease.deviceId lease.leaseEpoch) =
      event.hash := by
  unfold checkEvent at checked
  split at checked
  · cases checked
  · split at checked
    · cases checked
    · split at checked
      · cases checked
      · next same => exact Decidable.not_not.mp same

theorem same_digest_envelope (inv : LogInv host store)
    {row : EventRow Hash} (stored : row ∈ store.events) (sameHash : row.payloadHash = event.hash)
    (checked : checkEvent host lease event = .ok ()) :
    row.envelope host.toPyText =
      event.envelope host.toPyText lease.runId lease.deviceId lease.leaseEpoch := by
  apply host.digest_injective
  rw [← inv.digested row stored, sameHash, check_event_digest checked]

theorem replayed_same (inv : BatchInv host now lease batch)
    (checked : checkEvent host lease event = .ok ()) (replayed : Replayed lease batch next event) :
    next = batch ∧ event.sequence ≤ batch.ack := by
  obtain ⟨row, found, -, sameHash, -⟩ := replayed.stored
  obtain ⟨stored, -⟩ := existing_event_some found
  obtain ⟨sameRun, sameEpoch, sameSequence⟩ :=
    same_envelope_position (same_digest_envelope inv.log stored sameHash checked)
  obtain ⟨held, mem, -, heldRun, heldEpoch, -, heldAck⟩ := settled_row inv.holding
  have bound := (stored_sequence inv.log mem stored (sameRun.trans heldRun.symm)
    (sameEpoch.trans heldEpoch.symm)).2
  rw [sameSequence, heldAck] at bound
  rcases replayed.ack with ⟨-, kept⟩ | ⟨ahead, -⟩
  · refine ⟨?_, bound⟩
    cases next
    cases batch
    have sameStore := replayed.store
    have sameTerminal := replayed.terminal
    simp only at sameStore sameTerminal kept
    rw [sameStore, sameTerminal, kept]
  · omega

theorem applied_log_inv (inv : BatchInv host now lease batch)
    (checked : checkEvent host lease event = .ok ())
    (applied : Applied host lease now batch next event) : LogInv host (next.settled lease) := by
  have rows := settled_after applied
  have events : (next.settled lease).events =
      (batch.settled lease).events ++ [event.row lease event.hash now] := by
    obtain ⟨output, business, -, after⟩ := applied.store
    simp only [Batch.settled, events_update_lease, after, after_event_events]
  have settledInv : LeaseInv now (batch.settled lease) := acknowledge_lease_inv inv.leases
  have absent (row : EventRow Hash) (stored : row ∈ batch.store.events) :=
    existing_event_none applied.absent stored
  obtain ⟨held, heldMem, heldId, heldRun, heldEpoch, heldDevice, heldAck⟩ :=
    settled_row inv.holding
  refine ⟨?_, ?_, ?_, ?_⟩
  · intro lease' mem
    rw [rows] at mem
    obtain ⟨old, oldMem, rfl⟩ := mem_update_lease.mp mem
    have before := inv.log.contiguous old oldMem
    by_cases same : old.id = lease.id
    · obtain rfl := unique_key_eq settledInv.keyed.leases oldMem heldMem (same.trans heldId.symm)
      obtain ⟨-, sameRun, sameEpoch, -⟩ := settled_columns event old
      rw [if_pos same, sameRun, sameEpoch, Store.epochLog, events, filter_append, map_append]
      have own : [event.row lease event.hash now].filter (fun row =>
          decide (row.runId = old.runId) && decide (row.leaseEpoch = old.leaseEpoch)) =
          [event.row lease event.hash now] := by
        simp [RunEvent.row, heldRun, heldEpoch]
      rw [own]
      have grown : ((completion event old).acknowledge event.sequence).ackHighWater =
          old.ackHighWater + 1 := applied.sequence.trans (congrArg (· + 1) heldAck.symm)
      rw [grown, range'_1_concat, ← before]
      congr 1
      have sequence := applied.sequence
      rw [← heldAck] at sequence
      simp [RunEvent.row, sequence, Nat.add_comm]
    · rw [if_neg same]
      have foreign : [event.row lease event.hash now].filter (fun row =>
          decide (row.runId = old.runId) && decide (row.leaseEpoch = old.leaseEpoch)) = [] := by
        refine filter_eq_nil_iff.mpr fun row mem matched => same ?_
        simp only [Bool.and_eq_true, decide_eq_true_eq] at matched
        rw [mem_singleton] at mem
        subst mem
        have sameLease := lease_epoch_unique settledInv oldMem heldMem
          (matched.1.symm.trans heldRun.symm) (matched.2.symm.trans heldEpoch.symm)
        rw [sameLease, heldId]
      rw [Store.epochLog, events, filter_append, foreign, append_nil]
      exact before
  · intro row stored
    have carried : ∀ old ∈ (batch.settled lease).leases, ∃ new ∈ (next.settled lease).leases,
        new.id = old.id ∧ new.runId = old.runId ∧ new.leaseEpoch = old.leaseEpoch ∧
        new.deviceId = old.deviceId := by
      intro old oldMem
      rw [rows]
      refine ⟨_, mem_update_lease.mpr ⟨old, oldMem, rfl⟩, ?_⟩
      split
      · exact settled_columns event old
      · exact ⟨rfl, rfl, rfl, rfl⟩
    rw [events] at stored
    rcases mem_append.mp stored with old | new
    · obtain ⟨writer, mem, id, runId, epoch, device⟩ := inv.log.written row old
      obtain ⟨later, laterMem, sameId, sameRun, sameEpoch, sameDevice⟩ := carried writer mem
      exact ⟨later, laterMem, sameId.trans id, sameRun.trans runId, sameEpoch.trans epoch,
        sameDevice.trans device⟩
    · rw [mem_singleton] at new
      subst new
      obtain ⟨later, laterMem, sameId, sameRun, sameEpoch, sameDevice⟩ :=
        carried held heldMem
      exact ⟨later, laterMem, sameId.trans heldId, sameRun.trans heldRun,
        sameEpoch.trans heldEpoch, sameDevice.trans heldDevice⟩
  · rw [events]
    exact unique_key_append inv.log.unique fun other stored => (absent other stored).1
  · intro row stored
    rw [events] at stored
    rcases mem_append.mp stored with old | new
    · exact inv.log.digested row old
    · rw [mem_singleton] at new
      subst new
      exact (check_event_digest checked).symm

theorem submit_event_batch_inv (inv : BatchInv host now lease batch)
    (done : submitEvent host lease now batch event = .ok next) :
    BatchInv host now lease next := by
  obtain ⟨leases, holding⟩ := submit_event_lease_inv inv.leases inv.holding done
  obtain ⟨checked, replayed | applied⟩ := submit_event_cases done
  · rw [(replayed_same inv checked replayed).1]
    exact inv
  · exact ⟨leases, holding, applied_log_inv inv checked applied⟩

variable {events : List (RunEvent Hash)}

theorem submit_batch_inv {final : Batch Hash} (inv : BatchInv host now lease batch)
    (done : events.foldlM (submitEvent host lease now) batch = .ok final) :
    BatchInv host now lease final :=
  Rollback.fold_invariant (BatchInv host now lease)
    (fun _ _ _ _ facts pass => submit_event_batch_inv facts pass) inv done

theorem submit_events_log_inv {finish : Store Hash} {principal : DevicePrincipal}
    {runId leaseId : String} {leaseEpoch : Nat}
    {reply : SubmitReply} (leaseInv : LeaseInv now store) (logInv : LogInv host store)
    (done : submitEvents host store principal runId leaseId leaseEpoch events now =
      .ok (finish, reply)) : LogInv host finish := by
  obtain ⟨lease, final, current, loop, rfl, -⟩ := submit_events_cases done
  exact (submit_batch_inv (start_batch_inv now leaseInv logInv current) loop).log

theorem perform_log_inv {after : Store Hash} {call : Call Hash}
    (leaseInv : LeaseInv now store) (logInv : LogInv host store)
    (done : perform host store now call = .ok after) : LogInv host after := by
  rcases perform_cases leaseInv.keyed done with effects | ⟨_, _, _, _, _, _, -, submit⟩
  · exact effects_log_inv leaseInv logInv effects
  · exact submit_events_log_inv leaseInv logInv submit

theorem server_log_inv {Guard : Server Hash → Server.Action Hash → Prop} {server : Server Hash}
    (reachable : (serverMachine host).Reachable Guard server) : LogInv host server.store := by
  have both : LeaseInv server.now server.store ∧ LogInv host server.store := by
    refine reachable_invariant
      (fun server => LeaseInv server.now server.store ∧ LogInv host server.store)
      (fun _ fresh => ⟨fresh_lease_inv fresh, fresh_log_inv fresh⟩) ?_ reachable
    rintro server action next ⟨leaseInv, logInv⟩ _ step
    refine ⟨server_step_lease_inv leaseInv step, ?_⟩
    obtain ⟨order, rfl⟩ := step
    exact commit_cases (LogInv host) logInv
      fun _ done => perform_log_inv (lease_inv_later leaseInv order) logInv done
  exact both.2

end AgentMate
