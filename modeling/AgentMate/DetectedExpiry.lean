import AgentMate.ProtocolEffects

/-!
# Expiry that a held lease is found with

`renew_lease` and `submit_events` mark an expired lease and recover its Run, and then they raise.
The raise ends in `conn.rollback()`, which takes the recovery back.
-/

namespace AgentMate

open Rollback

variable {Hash Value : Type}

def raiseInactive (text : PyText) (store : Store Hash) (lease : Lease) (now : Time) :
    Except (ProtocolError × Store Hash) Value :=
  if lease.status = .active then
    let expired := store.updateLease lease.id (Lease.setStatus .expired)
    match recoverRun text expired lease.runId now with
    | .ok recovered => .error (.conflict "Run lease expired or inactive", recovered)
    | .error error => .error (error, expired)
  else .error (.conflict "Run lease expired or inactive", store)

/-- `renew_lease` up to its commit or its raise. -/
def renewLeaseBody (text : PyText) (store : Store Hash) (principal : DevicePrincipal)
    (runId leaseId : String) (leaseEpoch : Nat) (leaseSeconds : Int) (now : Time) :
    Except (ProtocolError × Store Hash) (Store Hash × LeaseRenewal) := do
  let lease ← raiseAt store (currentLease store principal runId leaseId leaseEpoch)
  if lease.isLive now then
    raiseAt store (renewLease store principal runId leaseId leaseEpoch leaseSeconds now)
  else raiseInactive text store lease now

variable [DecidableEq Hash]

/-- One pass of the loop in `submit_events`: a new event meets the expiry of the lease. -/
def submitEventBody (host : Host Hash) (lease : Lease) (now : Time) (batch : Batch Hash)
    (event : RunEvent Hash) : Except (ProtocolError × Store Hash) (Batch Hash) := do
  raiseAt batch.store (checkEvent host lease event)
  if (existingEvent batch.store lease event).isSome ∨ lease.isLive now = true then
    raiseAt batch.store (submitEvent host lease now batch event)
  else raiseInactive host.toPyText batch.store lease now

/-- `submit_events` up to its commit or its raise. -/
def submitEventsBody (host : Host Hash) (store : Store Hash) (principal : DevicePrincipal)
    (runId leaseId : String) (leaseEpoch : Nat) (events : List (RunEvent Hash)) (now : Time) :
    Except (ProtocolError × Store Hash) (Store Hash × SubmitReply) := do
  let lease ← raiseAt store (currentLease store principal runId leaseId leaseEpoch)
  let batch ← events.foldlM (submitEventBody host lease now)
    ⟨store, lease.ackHighWater, lease.terminalEventId⟩
  let final := batch.store.updateLease leaseId (Lease.acknowledge batch.ack)
  return (final, ⟨batch.ack, batch.terminalEventId, pendingCommands final runId⟩)

variable {text : PyText} {host : Host Hash} {store : Store Hash} {principal : DevicePrincipal}
  {runId leaseId : String} {leaseEpoch : Nat} {now : Time} {lease : Lease}

omit [DecidableEq Hash] in
theorem raise_inactive_fails (text : PyText) (store : Store Hash) (lease : Lease) (now : Time) :
    ∃ failure, (raiseInactive text store lease now :
      Except (ProtocolError × Store Hash) Value) = .error failure := by
  unfold raiseInactive
  split
  · dsimp only
    split
    · exact ⟨_, rfl⟩
    · exact ⟨_, rfl⟩
  · exact ⟨_, rfl⟩

omit [DecidableEq Hash] in
theorem raise_inactive_agrees {call : Transaction Value} {error : ProtocolError}
    (failed : call = .error error) : Agree (raiseInactive text store lease now) call := by
  obtain ⟨failure, raised⟩ : ∃ failure, (raiseInactive text store lease now :
      Except (ProtocolError × Store Hash) Value) = .error failure :=
    raise_inactive_fails text store lease now
  rw [failed, raised]
  rfl

omit [DecidableEq Hash] in
theorem renew_lease_body_agrees (leaseSeconds : Int) :
    Agree (renewLeaseBody text store principal runId leaseId leaseEpoch leaseSeconds now)
      (renewLease store principal runId leaseId leaseEpoch leaseSeconds now) := by
  rw [renewLeaseBody]
  cases held : currentLease store principal runId leaseId leaseEpoch with
  | error error =>
    rw [renewLease, held]
    rfl
  | ok lease =>
    change Agree (if lease.isLive now then _ else _) _
    by_cases live : lease.isLive now = true
    · rw [if_pos live]
      exact agree_raise_at store _
    · rw [if_neg live]
      have failed : renewLease store principal runId leaseId leaseEpoch leaseSeconds now =
          .error (.conflict "Run lease expired or inactive") := by
        rw [renewLease, held]
        exact if_neg live
      exact raise_inactive_agrees failed

theorem submit_event_body_agrees (batch : Batch Hash) (event : RunEvent Hash) :
    Agree (submitEventBody host lease now batch event) (submitEvent host lease now batch event) := by
  rw [submitEventBody]
  cases checked : checkEvent host lease event with
  | error error =>
    rw [submitEvent, checked]
    rfl
  | ok =>
    change Agree (if _ then _ else _) _
    split
    case isTrue => exact agree_raise_at batch.store _
    case isFalse idle =>
        have fresh : existingEvent batch.store lease event = none := by
          rw [← Option.not_isSome_iff_eq_none]
          exact fun known => idle (.inl known)
        have gone : (!lease.isLive now) = true := by
          rw [Bool.not_eq_true', ← Bool.not_eq_true]
          exact fun live => idle (.inr live)
        have failed : submitEvent host lease now batch event =
            .error (.conflict "Run lease expired or inactive") := by
          rw [submitEvent, checked, fresh]
          exact if_pos gone
        exact raise_inactive_agrees failed

theorem submit_events_body_agrees (events : List (RunEvent Hash)) :
    Agree (submitEventsBody host store principal runId leaseId leaseEpoch events now)
      (submitEvents host store principal runId leaseId leaseEpoch events now) := by
  rw [submitEventsBody, submitEvents]
  apply agree_bind (agree_raise_at store _)
  intro lease
  apply agree_bind
  · exact agree_fold (fun batch event => submit_event_body_agrees batch event) events _
  · intro batch
    rfl

def ExpiryRecorded (text : PyText) (store : Store Hash) (lease : Lease) (now : Time)
    (committed : Store Hash) : Prop :=
  recoverRun text (store.updateLease lease.id (Lease.setStatus .expired)) lease.runId now =
    .ok committed

omit [DecidableEq Hash] in
theorem raise_inactive_written (active : lease.status = .active) {recovered : Store Hash}
    (done : recoverRun text (store.updateLease lease.id (Lease.setStatus .expired)) lease.runId
      now = .ok recovered) :
    (raiseInactive text store lease now : Except (ProtocolError × Store Hash) Value) =
      .error (.conflict "Run lease expired or inactive", recovered) := by
  rw [raiseInactive, if_pos active]
  dsimp only
  rw [done]

omit [DecidableEq Hash] in
theorem expiry_recorded_inactive {committed : Store Hash}
    (recorded : ExpiryRecorded text store lease now committed) :
    ∀ row ∈ committed.leases, row.id = lease.id → row.status = .expired := by
  obtain ⟨assign, business, rfl, -, -⟩ := recover_run_cases recorded
  intro row mem same
  obtain ⟨old, -, rfl⟩ := Table.mem_update_where.mp mem
  split at same
  case isTrue own => rw [if_pos own]; rfl
  case isFalse other => exact absurd same other

omit [DecidableEq Hash] in
theorem active_not_recorded (held : currentLease store principal runId leaseId leaseEpoch =
    .ok lease) (active : lease.status = .active) :
    ¬ ExpiryRecorded text store lease now store := by
  intro recorded
  have mem := (current_lease_ok held).1
  have expired := expiry_recorded_inactive recorded lease mem rfl
  rw [active] at expired
  cases expired

omit [DecidableEq Hash] in
theorem renew_lease_body_late
    (held : currentLease store principal runId leaseId leaseEpoch = .ok lease)
    (late : lease.expiresAt ≤ now) (leaseSeconds : Int) :
    renewLeaseBody text store principal runId leaseId leaseEpoch leaseSeconds now =
      raiseInactive text store lease now := by
  have gone : ¬ lease.isLive now = true := by
    simp [Lease.isLive, not_lt.mpr late]
  rw [renewLeaseBody, held]
  exact if_neg gone

/-- A call that finds its lease active but past its time and raises leaves the lease active. -/
theorem detected_expiry_lost (host : Host Hash) (store : Store Hash) (principal : DevicePrincipal)
    (runId leaseId : String) (leaseEpoch : Nat) (lease : Lease) (now : Time)
    (held : currentLease store principal runId leaseId leaseEpoch = .ok lease)
    (active : lease.status = .active) (late : lease.expiresAt ≤ now) :
    (∀ leaseSeconds, ∃ failure,
      renewLeaseBody host.toPyText store principal runId leaseId leaseEpoch leaseSeconds now =
        .error failure ∧
      ¬ ExpiryRecorded host.toPyText store lease now
        (commit store ((renewLeaseBody host.toPyText store principal runId leaseId leaseEpoch
          leaseSeconds now).map Prod.fst))) ∧
    ∀ events failure,
      submitEventsBody host store principal runId leaseId leaseEpoch events now = .error failure →
      ¬ ExpiryRecorded host.toPyText store lease now
        (commit store ((submitEventsBody host store principal runId leaseId leaseEpoch events
          now).map Prod.fst)) := by
  have kept : ¬ ExpiryRecorded host.toPyText store lease now store :=
    active_not_recorded held active
  constructor
  · intro leaseSeconds
    obtain ⟨failure, raised⟩ := raise_inactive_fails host.toPyText store lease now
    have failed : renewLeaseBody host.toPyText store principal runId leaseId leaseEpoch
        leaseSeconds now = .error failure :=
      (renew_lease_body_late held late leaseSeconds).trans raised
    refine ⟨failure, failed, ?_⟩
    rw [failed]
    exact kept
  · intro events failure failed
    rw [failed]
    exact kept

def claimedRun : List (Server.Action Envelope) :=
  [⟨1, .createRun (plainDraft "run-1")⟩, ⟨2, .leaseRun laptop 30 "lease-1"⟩]

def claimedStore : Store Envelope := (emptyServer.serveAll plainHost claimedRun).store

def claimedLease : Lease :=
  ⟨"lease-1", "run-1", "owner", "device-laptop", 1, .active, 2, 32, 2, 0, ""⟩

theorem claimed_lease_held :
    currentLease claimedStore laptop "run-1" "lease-1" 1 = .ok claimedLease := by
  decide +kernel

def lateBatch : List (RunEvent Envelope) :=
  [plainEvent laptop "run-1" 1 1 "event-started" "run.started" (.obj [])]

theorem late_batch_refused : ∃ failure,
    submitEventsBody plainHost claimedStore laptop "run-1" "lease-1" 1 lateBatch 40 =
      .error failure :=
  exists_error (by decide +kernel)

theorem claimed_expiry_lost :
    (∃ failure, renewLeaseBody plainHost.toPyText claimedStore laptop "run-1" "lease-1" 1 30 40 =
      .error failure) ∧
    ¬ ExpiryRecorded plainHost.toPyText claimedStore claimedLease 40
      (commit claimedStore ((submitEventsBody plainHost claimedStore laptop "run-1" "lease-1" 1
        lateBatch 40).map Prod.fst)) := by
  obtain ⟨renewal, batch⟩ := detected_expiry_lost plainHost claimedStore laptop "run-1" "lease-1" 1
    claimedLease 40 claimed_lease_held rfl (by decide +kernel)
  obtain ⟨failure, failed, -⟩ := renewal 30
  obtain ⟨late, refused⟩ := late_batch_refused
  exact ⟨⟨failure, failed⟩, batch lateBatch late refused⟩

theorem late_renewal_recovers_nothing :
    (∃ recovered, renewLeaseBody plainHost.toPyText claimedStore laptop "run-1" "lease-1" 1 30 40 =
      .error (.conflict "Run lease expired or inactive", recovered) ∧
      ExpiryRecorded plainHost.toPyText claimedStore claimedLease 40 recovered) ∧
    ¬ ExpiryRecorded plainHost.toPyText claimedStore claimedLease 40
      (commit claimedStore ((renewLeaseBody plainHost.toPyText claimedStore laptop "run-1"
        "lease-1" 1 30 40).map Prod.fst)) := by
  obtain ⟨recovered, recorded⟩ : ∃ recovered,
      ExpiryRecorded plainHost.toPyText claimedStore claimedLease 40 recovered :=
    exists_ok (by decide +kernel)
  have late : claimedLease.expiresAt ≤ 40 := by decide +kernel
  have failed : renewLeaseBody plainHost.toPyText claimedStore laptop "run-1" "lease-1" 1 30 40 =
      .error (.conflict "Run lease expired or inactive", recovered) := by
    rw [renew_lease_body_late claimed_lease_held late]
    exact raise_inactive_written rfl recorded
  constructor
  · exact ⟨recovered, failed, recorded⟩
  · rw [failed]
    exact active_not_recorded claimed_lease_held rfl

end AgentMate
