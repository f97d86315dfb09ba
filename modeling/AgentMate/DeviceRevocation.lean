import AgentMate.DeviceIdentity
import AgentMate.EventReplay

/-! # Revoked devices -/

namespace AgentMate

open TransitionSystem Rollback Table List

variable {Hash : Type}

def Store.leasesOf (store : Store Hash) (deviceId : String) : List Lease :=
  store.leases.filter fun lease => lease.deviceId = deviceId

def Store.eventsOf (store : Store Hash) (deviceId : String) : List (EventRow Hash) :=
  store.events.filter fun row => row.deviceId = deviceId

structure Barred (store : Store Hash) (deviceId : String) : Prop where
  known : ∃ device ∈ store.devices, device.id = deviceId
  revoked : ∀ device ∈ store.devices, device.id = deviceId → device.status = .revoked
  idle : ∀ lease ∈ store.leases, lease.deviceId = deviceId → lease.status ≠ .active

structure Untouched (deviceId : String) (store next : Store Hash) : Prop where
  barred : Barred next deviceId
  leases : next.leasesOf deviceId = store.leasesOf deviceId
  events : next.eventsOf deviceId = store.eventsOf deviceId

theorem Untouched.trans {deviceId : String} {store middle next : Store Hash}
    (first : Untouched deviceId store middle) (second : Untouched deviceId middle next) :
    Untouched deviceId store next :=
  ⟨second.barred, second.leases.trans first.leases, second.events.trans first.events⟩

structure Ungranted (store next : Store Hash) : Prop where
  devices : next.devices = store.devices
  tokens : next.tokens = store.tokens
  count : next.leases.length = store.leases.length

section

variable {text : PyText} {store next : Store Hash} {now : Time}

theorem Ungranted.refl (store : Store Hash) : Ungranted store store := ⟨rfl, rfl, rfl⟩

theorem Ungranted.trans {middle : Store Hash} (first : Ungranted store middle)
    (second : Ungranted middle next) : Ungranted store next :=
  ⟨second.devices.trans first.devices, second.tokens.trans first.tokens,
    second.count.trans first.count⟩

theorem ungranted_update_lease (store : Store Hash) (leaseId : String) (assign : Lease → Lease) :
    Ungranted store (store.updateLease leaseId assign) := ⟨rfl, rfl, length_map _⟩

variable {status : LeaseStatus} {ownerId commandId runId deviceId : String}

theorem release_ungranted {lease : Lease}
    (done : releaseLease text now status store lease = .ok next) : Ungranted store next := by
  obtain ⟨assign, business, rfl, -, -⟩ := recover_run_cases done
  exact ⟨rfl, rfl, length_map _⟩

theorem releases_ungranted {items : List Lease}
    (done : items.foldlM (releaseLease text now status) store = .ok next) :
    Ungranted store next := by
  apply fold_invariant (Ungranted store) _ (Ungranted.refl store) done
  intro middle lease later _ before pass
  exact Ungranted.trans before (release_ungranted pass)

theorem server_terminal_ungranted {run : Run} {status : RunStatus}
    {errorCode errorMessage : String}
    (done : serverTerminal text store run status errorCode errorMessage now = .ok next) :
    Ungranted store next := by
  obtain ⟨⟨output, business⟩, -, rest⟩ := bind_ok done
  cases rest
  exact ⟨rfl, rfl, rfl⟩

theorem insert_command_ungranted {command : Command}
    (done : store.insertCommand command = .ok next) : Ungranted store next := by
  obtain ⟨-, rfl⟩ := insert_command_ok done
  exact ⟨rfl, rfl, rfl⟩

theorem request_command_ungranted {commandType : CommandType}
    (done : requestCommand store runId ownerId commandId commandType now = .ok next) :
    Ungranted store next := by
  unfold requestCommand at done
  split at done
  · cases done
    exact Ungranted.refl store
  · exact insert_command_ungranted done

theorem request_cancel_ungranted
    (done : requestCancel text store runId ownerId commandId now = .ok next) :
    Ungranted store next := by
  obtain ⟨run, -, done⟩ := bind_ok done
  split at done
  · cases done
    exact Ungranted.refl store
  · split at done
    · exact server_terminal_ungranted done
    · have inserted := insert_command_ungranted done
      exact ⟨inserted.devices, inserted.tokens, inserted.count⟩

theorem request_pause_ungranted (done : requestPause store runId ownerId commandId now = .ok next) :
    Ungranted store next := by
  obtain ⟨run, -, done⟩ := bind_ok done
  split at done
  · cases done
  · split at done
    · cases done
      exact Ungranted.refl store
    · split at done
      · cases done
        exact ⟨rfl, rfl, rfl⟩
      · split at done
        · exact request_command_ungranted done
        · cases done

theorem request_resume_ungranted
    (done : requestResume text store runId ownerId commandId now = .ok next) :
    Ungranted store next := by
  have expired : Ungranted store (store.expireLeasesOf runId) :=
    ⟨rfl, rfl, length_map _⟩
  obtain ⟨run, -, done⟩ := bind_ok done
  split at done
  · cases done
  · split at done
    · exact request_command_ungranted done
    · split at done
      · cases done
        exact ⟨expired.devices, expired.tokens, expired.count⟩
      · exact expired.trans (server_terminal_ungranted done)

theorem answer_user_ungranted {questionEventId : String} {answers : List String}
    (done : answerUser store runId ownerId questionEventId answers commandId now = .ok next) :
    Ungranted store next := by
  obtain ⟨run, -, done⟩ := bind_ok done
  simp only at done
  split at done
  · cases done
  · exact insert_command_ungranted done

theorem renew_lease_ungranted {principal : DevicePrincipal} {leaseId : String}
    {leaseEpoch : Nat} {leaseSeconds : Int} {renewal : LeaseRenewal}
    (done : renewLease store principal runId leaseId leaseEpoch leaseSeconds now =
      .ok (next, renewal)) : Ungranted store next := by
  obtain ⟨lease, -, done⟩ := bind_ok done
  split at done
  · cases done
    exact ungranted_update_lease store leaseId _
  · cases done

theorem create_run_ungranted {draft : RunDraft} (done : createRun store draft now = .ok next) :
    Ungranted store next := by
  unfold createRun at done
  split at done
  · cases done
  · cases done
    exact ⟨rfl, rfl, rfl⟩

theorem effect_lease_count (effect : Effect now store next) :
    store.leases.length ≤ next.leases.length := by
  cases effect with
  | grant run assign lease => simp
  | renew | release | abandon => exact (length_map _).ge
  | _ => exact le_rfl

theorem leases_of_update {chosen : Lease → Prop} [DecidablePred chosen] {assign : Lease → Lease}
    {rows : List Lease} (same : ∀ row, (assign row).deviceId = row.deviceId)
    (other : ∀ row ∈ rows, chosen row → row.deviceId ≠ deviceId) :
    (updateWhere chosen assign rows).filter (fun row => row.deviceId = deviceId) =
      rows.filter fun row => row.deviceId = deviceId := by
  induction rows with
  | nil => rfl
  | cons row rest ih =>
    have later := ih fun item mem => other item (mem_cons_of_mem row mem)
    rw [update_where_cons]
    by_cases choice : chosen row
    · have different := other row mem_cons_self choice
      rw [if_pos choice, filter_cons_of_neg (by simpa [same] using different),
        filter_cons_of_neg (by simpa using different), later]
    · rw [if_neg choice, filter_cons, filter_cons, later]

theorem effect_leases_of (keyed : store.Keyed)
    (idle : ∀ lease ∈ store.leases, lease.deviceId = deviceId → lease.status ≠ .active)
    (count : next.leases.length = store.leases.length) (effect : Effect now store next) :
    next.leasesOf deviceId = store.leasesOf deviceId := by
  have sole {lease : Lease} (mem : lease ∈ store.leases) (active : lease.status = .active) :
      ∀ row ∈ store.leases, row.id = lease.id → row.deviceId ≠ deviceId := by
    intro row rowMem same device
    obtain rfl := unique_key_eq keyed.leases rowMem mem same
    exact idle row rowMem device active
  cases effect with
  | grant run assign lease => simp at count
  | renew lease expiresAt mem live =>
    have active : lease.status = .active := by
      simp only [Lease.isLive, Bool.and_eq_true, decide_eq_true_eq] at live
      exact live.1
    exact leases_of_update (fun _ => rfl) (sole mem active)
  | release lease status assign business mem active =>
    exact leases_of_update (fun _ => rfl) (sole mem active)
  | abandon run =>
    have others : ∀ row ∈ store.leases, row.runId = run.id ∧ row.status = .active →
        row.deviceId ≠ deviceId :=
      fun row mem chosen device => idle row mem device chosen.2
    exact leases_of_update (fun _ => rfl) others
  | _ => rfl

theorem idle_of_leases_of
    (idle : ∀ lease ∈ store.leases, lease.deviceId = deviceId → lease.status ≠ .active)
    (same : next.leasesOf deviceId = store.leasesOf deviceId) :
    ∀ lease ∈ next.leases, lease.deviceId = deviceId → lease.status ≠ .active := by
  intro lease mem device
  have kept : lease ∈ store.leasesOf deviceId := by
    rw [← same]
    exact mem_filter.mpr ⟨mem, by simpa using device⟩
  exact idle lease (mem_filter.mp kept).1 device

theorem effects_lease_count (effects : Effects now store next) :
    store.leases.length ≤ next.leases.length := by
  induction effects with
  | refl => exact le_rfl
  | tail _ effect ih => exact ih.trans (effect_lease_count effect)

theorem effects_leases_of (keyed : store.Keyed)
    (idle : ∀ lease ∈ store.leases, lease.deviceId = deviceId → lease.status ≠ .active)
    (count : next.leases.length = store.leases.length) (effects : Effects now store next) :
    next.leasesOf deviceId = store.leasesOf deviceId := by
  induction effects with
  | refl => rfl
  | @tail middle last before effect ih =>
    have grown := effects_lease_count before
    have growing := effect_lease_count effect
    have first := ih (by omega)
    have idleMiddle := idle_of_leases_of idle first
    exact (effect_leases_of (effects_keyed keyed before) idleMiddle (by omega) effect).trans first

theorem effects_untouched (keyed : store.Keyed) (barred : Barred store deviceId)
    (ungranted : Ungranted store next) (effects : Effects now store next) :
    Untouched deviceId store next := by
  have leases := effects_leases_of keyed barred.idle ungranted.count effects
  constructor
  · have devices := ungranted.devices
    constructor
    · rw [devices]
      exact barred.known
    · rw [devices]
      exact barred.revoked
    · exact idle_of_leases_of barred.idle leases
  · exact leases
  · rw [Store.eventsOf, effects_events effects]
    rfl

end

section

variable {store next : Store Hash} {now : Time} {deviceId : String}

theorem barred_not_live {lease : Lease} (barred : Barred store deviceId)
    (mem : lease ∈ store.leases) (device : lease.deviceId = deviceId) :
    lease.isLive now = false := by
  have idle := barred.idle lease mem device
  simp [Lease.isLive, idle]

variable {principal : DevicePrincipal} {leaseSeconds : Int} {text : PyText}
  {otherId ownerId : String}

theorem renewal_refused {runId leaseId : String} {leaseEpoch : Nat}
    {result : Store Hash × LeaseRenewal} (barred : Barred store deviceId)
    (own : principal.deviceId = deviceId) :
    renewLease store principal runId leaseId leaseEpoch leaseSeconds now ≠ .ok result := by
  intro done
  obtain ⟨lease, current, done⟩ := bind_ok done
  obtain ⟨mem, -, -, device, -⟩ := current_lease_ok current
  rw [barred_not_live barred mem (device.trans own), if_neg Bool.false_ne_true] at done
  cases done

theorem claim_untouched {leaseId : String} {grant : Option LeaseGrant} (keyed : store.Keyed)
    (barred : Barred store deviceId) (foreign : principal.deviceId ≠ deviceId)
    (done : leaseRun text store principal leaseSeconds leaseId now = .ok (next, grant)) :
    Untouched deviceId store next := by
  obtain ⟨expired, expiring, outcome⟩ := lease_run_cases keyed done
  have first : Untouched deviceId store expired :=
    effects_untouched keyed barred (releases_ungranted expiring)
      (expire_leases_effects keyed expiring)
  rcases outcome with ⟨-, rfl, -⟩ | ⟨run, -, -, rfl, -⟩
  · exact first
  · apply first.trans
    have leases : (expired.leases ++
        [newLease principal run leaseId (leaseDeadline now leaseSeconds) now]).filter
          (fun lease => lease.deviceId = deviceId) = expired.leasesOf deviceId := by
      rw [filter_append]
      simp [newLease, foreign, Store.leasesOf]
    exact ⟨⟨first.barred.known, first.barred.revoked,
      idle_of_leases_of first.barred.idle leases⟩, leases, rfl⟩

theorem releases_active {status : LeaseStatus} (closed : status ≠ .active) {items : List Lease}
    (done : items.foldlM (releaseLease text now status) store = .ok next) :
    ∀ lease ∈ next.leases, lease.status = .active → lease ∈ store.leases ∧
      ∀ item ∈ items, item.id ≠ lease.id := by
  induction items generalizing store with
  | nil =>
    rw [fold_nil_ok done]
    exact fun lease mem _ => ⟨mem, fun _ absent => by cases absent⟩
  | cons item rest ih =>
    obtain ⟨middle, pass, remaining⟩ := fold_cons_ok done
    intro lease mem active
    obtain ⟨middleMem, others⟩ := ih remaining lease mem active
    rw [release_lease_leases pass] at middleMem
    obtain ⟨old, oldMem, same⟩ := mem_update_lease.mp middleMem
    split at same
    · rw [← same] at active
      exact (closed active).elim
    · next different =>
      subst same
      refine ⟨oldMem, fun other otherMem => ?_⟩
      rcases mem_cons.mp otherMem with rfl | otherMem
      · exact fun same => different same.symm
      · exact others other otherMem

/-- The rows that `revoke_device` writes before it releases the leases. -/
def Store.revoked (store : Store Hash) (deviceId : String) (now : Time) : Store Hash :=
  { store with
    devices := updateWhere (fun device => device.id = deviceId)
      (fun device => { device with status := .revoked, revokedAt := now, updatedAt := now })
      store.devices
    tokens := updateWhere (fun token => token.deviceId = deviceId ∧ token.revokedAt = 0)
      (fun token => { token with revokedAt := now }) store.tokens }

theorem revoke_device_cases {found : Bool}
    (done : revokeDevice text store ownerId deviceId now = .ok (next, found)) :
    (found = false ∧ next = store) ∨ ((∃ device ∈ store.devices, device.id = deviceId) ∧
        Ungranted (store.revoked deviceId now) next ∧
        ∀ lease ∈ next.leases, lease.deviceId = deviceId → lease.status ≠ .active) := by
  unfold revokeDevice at done
  split at done
  · next known =>
    obtain ⟨released, loop, rest⟩ := bind_ok done
    obtain ⟨rfl, -⟩ := Prod.mk.inj (Except.ok.inj rest)
    refine Or.inr ⟨?_, releases_ungranted loop, fun lease mem device active => ?_⟩
    · obtain ⟨device, mem, same⟩ := any_eq_true.mp known
      simp only [Bool.and_eq_true, decide_eq_true_eq] at same
      exact ⟨device, mem, same.1⟩
    · obtain ⟨stored, others⟩ := releases_active (by simp) loop lease mem active
      refine others lease ?_ rfl
      simp only [mem_filter, Bool.and_eq_true, decide_eq_true_eq]
      exact ⟨stored, device, active⟩
  · obtain ⟨rfl, rfl⟩ := Prod.mk.inj (Except.ok.inj done)
    exact Or.inl ⟨rfl, rfl⟩

theorem revoked_row {device : Device} (mem : device ∈ (store.revoked otherId now).devices) :
    ∃ old ∈ store.devices, old.id = device.id ∧ (device.status = .revoked ∨
      (device.id ≠ otherId ∧ device = old)) := by
  obtain ⟨old, oldMem, rfl⟩ := mem_update_where.mp mem
  refine ⟨old, oldMem, ?_⟩
  split
  · exact ⟨rfl, Or.inl rfl⟩
  · next other => exact ⟨rfl, Or.inr ⟨other, rfl⟩⟩

theorem revoked_known (known : ∃ device ∈ store.devices, device.id = deviceId) :
    ∃ device ∈ (store.revoked otherId now).devices, device.id = deviceId := by
  obtain ⟨device, mem, same⟩ := known
  by_cases chosen : device.id = otherId
  · exact ⟨_, mem_update_of_chosen mem chosen, same⟩
  · exact ⟨_, mem_update_of_not_chosen mem chosen, same⟩

theorem revoke_device_bars
    (done : revokeDevice text store ownerId deviceId now = .ok (next, true)) :
    Barred next deviceId := by
  rcases revoke_device_cases done with ⟨impossible, -⟩ | ⟨known, ungranted, idle⟩
  · cases impossible
  · constructor
    · rw [ungranted.devices]
      exact revoked_known known
    · rw [ungranted.devices]
      intro row mem id
      obtain ⟨old, -, -, revoked | ⟨other, -⟩⟩ := revoked_row mem
      · exact revoked
      · exact (other id).elim
    · exact idle

theorem revoke_device_untouched {found : Bool} (keyed : store.Keyed)
    (barred : Barred store deviceId)
    (done : revokeDevice text store ownerId otherId now = .ok (next, found)) :
    Untouched deviceId store next := by
  have effects := revoke_device_effects keyed done
  rcases revoke_device_cases done with ⟨-, rfl⟩ | ⟨-, ungranted, -⟩
  · exact ⟨barred, rfl, rfl⟩
  · have leases := effects_leases_of keyed barred.idle ungranted.count effects
    refine ⟨⟨?_, ?_, idle_of_leases_of barred.idle leases⟩, leases, ?_⟩
    · rw [ungranted.devices]
      exact revoked_known barred.known
    · rw [ungranted.devices]
      intro row mem id
      obtain ⟨old, oldMem, same, revoked | ⟨-, rfl⟩⟩ := revoked_row mem
      · exact revoked
      · exact barred.revoked row oldMem id
    · rw [Store.eventsOf, effects_events effects]
      rfl

end

section

variable [DecidableEq Hash] {host : Host Hash} {store next : Store Hash} {now : Time}
  {deviceId : String}

def Call.isPlain : Call Hash → Bool
  | .leaseRun .. | .submitEvents .. | .revokeDevice .. => false
  | _ => true

theorem perform_plain {call : Call Hash} (plain : call.isPlain = true)
    (done : perform host store now call = .ok next) : Ungranted store next := by
  cases call with
  | createRun draft => exact create_run_ungranted done
  | renewLease principal runId leaseId leaseEpoch leaseSeconds =>
    obtain ⟨⟨renewed, renewal⟩, renew, rest⟩ := bind_ok done
    cases rest
    exact renew_lease_ungranted renew
  | requestCancel runId ownerId commandId => exact request_cancel_ungranted done
  | requestPause runId ownerId commandId => exact request_pause_ungranted done
  | requestResume runId ownerId commandId => exact request_resume_ungranted done
  | answerUser runId ownerId questionEventId answers commandId =>
    exact answer_user_ungranted done
  | expireLeases ownerId => exact releases_ungranted done
  | leaseRun | submitEvents | revokeDevice => cases plain

variable {principal : DevicePrincipal} {events : List (RunEvent Hash)} {reply : SubmitReply}
  {batch final : Batch Hash}

theorem submission_idle {runId leaseId : String} {leaseEpoch : Nat} (leaseInv : LeaseInv now store)
    (logInv : LogInv host store) (barred : Barred store deviceId)
    (own : principal.deviceId = deviceId)
    (done : submitEvents host store principal runId leaseId leaseEpoch events now =
      .ok (next, reply)) : next = store := by
  obtain ⟨lease, final, current, loop, rfl, -⟩ := submit_events_cases done
  obtain ⟨mem, -, -, device, -⟩ := current_lease_ok current
  have dead : lease.isLive now = false := barred_not_live barred mem (device.trans own)
  have applied := submit_batch_applied (start_batch_inv now leaseInv logInv current) loop
  rcases applied_all_live applied with quiet | live
  · rw [quiet] at applied
    cases applied
    exact acknowledge_same leaseInv.keyed mem
  · rw [dead] at live
    cases live

theorem applied_all_ungranted {lease : Lease}
    (applied : AppliedAll host lease now batch events final) :
    Ungranted batch.store final.store := by
  induction applied with
  | nil batch => exact Ungranted.refl batch.store
  | @cons batch middle final event rest inv checked first later ih =>
    obtain ⟨output, business, -, after⟩ := first.store
    apply Ungranted.trans _ ih
    rw [after, Store.afterEvent]
    split
    · exact ⟨rfl, rfl, length_map _⟩
    · exact ⟨rfl, rfl, rfl⟩

theorem applied_all_events_of {lease : Lease} (other : lease.deviceId ≠ deviceId)
    (applied : AppliedAll host lease now batch events final) :
    final.store.eventsOf deviceId = batch.store.eventsOf deviceId := by
  induction applied with
  | nil batch => rfl
  | @cons batch middle final event rest inv checked first later ih =>
    obtain ⟨output, business, -, after⟩ := first.store
    rw [ih, after, Store.eventsOf, after_event_events, filter_append]
    simp [RunEvent.row, other, Store.eventsOf]

theorem submission_elsewhere {runId leaseId : String}
    {leaseEpoch : Nat} (leaseInv : LeaseInv now store) (logInv : LogInv host store)
    (barred : Barred store deviceId) (foreign : principal.deviceId ≠ deviceId)
    (done : submitEvents host store principal runId leaseId leaseEpoch events now =
      .ok (next, reply)) : Untouched deviceId store next := by
  obtain ⟨lease, final, current, loop, rfl, -⟩ := submit_events_cases done
  obtain ⟨mem, -, -, device, -⟩ := current_lease_ok current
  have other : lease.deviceId ≠ deviceId := by rwa [device]
  have applied := submit_batch_applied (start_batch_inv now leaseInv logInv current) loop
  have devices : final.store.devices = store.devices := (applied_all_ungranted applied).devices
  have sole : ∀ row ∈ store.leases, row.id = lease.id → row.deviceId ≠ deviceId := by
    intro row rowMem same
    rwa [unique_key_eq leaseInv.keyed.leases rowMem mem same]
  have batchLeases : final.store.leasesOf deviceId = store.leasesOf deviceId := by
    rcases applied_all_leases applied with ⟨rows, -⟩ | ⟨-, eventId, rows⟩
    · rw [Store.leasesOf, rows]
      rfl
    · rw [Store.leasesOf, rows]
      exact leases_of_update (fun _ => rfl) sole
  have finalInv := submit_batch_inv (start_batch_inv now leaseInv logInv current) loop
  have finalSole : ∀ row ∈ final.store.leases, row.id = lease.id → row.deviceId ≠ deviceId := by
    intro row rowMem same
    obtain ⟨held, heldMem, heldId, -, -, heldDevice, -⟩ := holding_row finalInv.holding
    rw [unique_key_eq finalInv.leases.keyed.leases rowMem heldMem
      (same.trans heldId.symm), heldDevice]
    exact other
  have acknowledged : (final.store.updateLease lease.id (Lease.acknowledge final.ack)).leasesOf
      deviceId = final.store.leasesOf deviceId := leases_of_update (fun _ => rfl) finalSole
  have leases := acknowledged.trans batchLeases
  constructor
  · constructor
    · exact devices ▸ barred.known
    · exact devices ▸ barred.revoked
    · exact idle_of_leases_of barred.idle leases
  · exact leases
  · exact applied_all_events_of other applied

theorem perform_untouched {call : Call Hash} (leaseInv : LeaseInv now store)
    (logInv : LogInv host store) (barred : Barred store deviceId)
    (foreign : ∀ principal leaseSeconds leaseId, call = .leaseRun principal leaseSeconds leaseId →
      principal.deviceId ≠ deviceId)
    (done : perform host store now call = .ok next) : Untouched deviceId store next := by
  cases plain : call.isPlain with
  | true =>
    have notSubmit : call.isSubmit = false := by cases call <;> first | rfl | cases plain
    exact effects_untouched leaseInv.keyed barred (perform_plain plain done)
      (perform_effects leaseInv.keyed notSubmit done)
  | false =>
    cases call with
    | leaseRun principal leaseSeconds leaseId =>
      obtain ⟨⟨leased, grant⟩, claim, rest⟩ := bind_ok done
      cases rest
      exact claim_untouched leaseInv.keyed barred (foreign principal leaseSeconds leaseId rfl) claim
    | submitEvents principal runId leaseId leaseEpoch events =>
      obtain ⟨⟨submitted, reply⟩, submit, rest⟩ := bind_ok done
      cases rest
      by_cases own : principal.deviceId = deviceId
      · rw [submission_idle leaseInv logInv barred own submit]
        exact ⟨barred, rfl, rfl⟩
      · exact submission_elsewhere leaseInv logInv barred own submit
    | revokeDevice ownerId otherId =>
      obtain ⟨⟨revoked, found⟩, revoking, rest⟩ := bind_ok done
      cases rest
      exact revoke_device_untouched leaseInv.keyed barred revoking
    | _ => cases plain

end

/-- An identity request writes devices and tokens; a revoked device stays revoked. -/
structure IdentityStep (directory next : Directory Hash) : Prop where
  rows : ∃ devices tokens,
    next.store = { directory.store with devices := devices, tokens := tokens }
  revoked : ∀ deviceId, Barred directory.store deviceId → Barred next.store deviceId

section

variable {directory next : Directory Hash} {now : Time}

variable {deviceId : String} {assign : Device → Device} {draft : DeviceDraft}
  {credentials : Credentials}

theorem identity_untouched (step : IdentityStep directory next)
    (barred : Barred directory.store deviceId) :
    Untouched deviceId directory.store next.store := by
  have kept := step.revoked deviceId barred
  obtain ⟨devices, tokens, same⟩ := step.rows
  refine ⟨kept, ?_, ?_⟩
  · rw [same]
    rfl
  · rw [same]
    rfl

theorem barred_map {store : Store Hash} (barred : Barred store deviceId)
    (stays : ∀ device ∈ store.devices, (assign device).id = device.id ∧
      (device.id = deviceId → (assign device).status = .revoked)) (tokens : List DeviceToken) :
    Barred { store with devices := store.devices.map assign, tokens := tokens } deviceId := by
  refine ⟨?_, ?_, barred.idle⟩
  · obtain ⟨device, mem, id⟩ := barred.known
    exact ⟨assign device, mem_map_of_mem mem, (stays device mem).1.trans id⟩
  · intro row rowMem id
    obtain ⟨old, oldMem, rfl⟩ := mem_map.mp rowMem
    obtain ⟨same, revoked⟩ := stays old oldMem
    exact revoked (same.symm.trans id)

theorem identity_update {chosen : Device → Prop} [DecidablePred chosen] {tokens : List DeviceToken}
    (rows : next.store = { directory.store with
      devices := updateWhere chosen assign directory.store.devices, tokens := tokens })
    (same : ∀ device, (assign device).id = device.id ∧ (assign device).status = device.status) :
    IdentityStep directory next := by
  refine ⟨⟨_, _, rows⟩, fun deviceId barred => ?_⟩
  rw [rows]
  refine barred_map barred (fun device mem => ?_) tokens
  split
  · exact ⟨(same device).1, fun id => (same device).2.trans (barred.revoked device mem id)⟩
  · exact ⟨rfl, barred.revoked device mem⟩

theorem device_mem {device : Device} (found : directory.device? deviceId = some device) :
    device ∈ directory.store.devices ∧ device.id = deviceId :=
  ⟨lookup_mem found, lookup_key found⟩

variable {ownerId : String}

theorem enroll_identity (done : directory.enroll ownerId draft now = .ok next) :
    IdentityStep directory next := by
  unfold Directory.enroll at done
  split at done
  · split at done
    · cases done
    · split at done
      · cases done
      · split at done
        · cases done
        · cases done
          exact identity_update rfl fun _ => ⟨rfl, rfl⟩
  · next absent =>
    cases done
    refine ⟨⟨_, _, rfl⟩, fun deviceId barred => ⟨?_, ?_, barred.idle⟩⟩
    · obtain ⟨device, mem, id⟩ := barred.known
      exact ⟨device, mem_append_left _ mem, id⟩
    · intro row rowMem id
      rcases mem_append.mp rowMem with mem | added
      · exact barred.revoked row mem id
      · obtain ⟨device, mem, known⟩ := barred.known
        rw [mem_singleton] at added
        subst added
        exact (lookup_eq_none_iff.mp absent device mem (known.trans id.symm)).elim

theorem commit_identity {gateway : Gateway Hash}
    {done : Except IdentityError (Directory Hash)}
    (step : ∀ next, done = .ok next → IdentityStep gateway.directory next) :
    IdentityStep gateway.directory (gateway.commit now done).directory := by
  cases done with
  | error error => exact ⟨⟨_, _, rfl⟩, fun _ barred => barred⟩
  | ok next => exact step next rfl

theorem register_identity {challengeId nonce : String}
    (done : registerDevice credentials directory ownerId draft challengeId nonce now = .ok next) :
    IdentityStep directory next := by
  unfold registerDevice at done
  split at done
  · cases done
  · split at done
    · cases done
    · obtain ⟨enrolled, enrolling, rest⟩ := bind_ok done
      have step := enroll_identity enrolling
      split at rest
      · cases rest
      · cases rest
        exact ⟨step.rows, step.revoked⟩

theorem verify_identity {challengeId signature token : String}
    (done : verifyDevice credentials directory ownerId deviceId challengeId signature token now =
      .ok next) : IdentityStep directory next := by
  unfold verifyDevice at done
  simp only at done
  split at done
  · next challenge device key _ found _ =>
    split at done
    · cases done
    · split at done
      · cases done
      · next standing =>
        split at done
        · cases done
        · split at done
          · cases done
          · cases done
            refine ⟨⟨_, _, rfl⟩, fun other barred => ?_⟩
            refine barred_map barred (fun row mem => ?_) _
            split
            · next chosen =>
              refine ⟨rfl, fun id => ?_⟩
              obtain ⟨deviceMember, sameId⟩ := device_mem found
              have own : device.id = other := sameId.trans (chosen.symm.trans id)
              have revoked := barred.revoked device deviceMember own
              simp [Device.isRevoked, revoked] at standing
            · exact ⟨rfl, barred.revoked row mem⟩
  · cases done

theorem authenticate_identity {authorization : String}
    {principal : DevicePrincipal}
    (done : authenticateDevice credentials directory authorization now = .ok (next, principal)) :
    IdentityStep directory next := by
  unfold authenticateDevice at done
  simp only at done
  split at done
  · cases done
  · split at done
    · cases done
    · split at done
      · split at done
        · cases done
        · cases done
          exact identity_update rfl fun _ => ⟨rfl, rfl⟩
      · cases done

/-- `authenticate_device` returns no principal of a revoked device. -/
theorem authenticated_standing {authorization : String} {principal : DevicePrincipal}
    (barred : Barred directory.store deviceId)
    (done : authenticateDevice credentials directory authorization now = .ok (next, principal)) :
    principal.deviceId ≠ deviceId := by
  unfold authenticateDevice at done
  simp only at done
  split at done
  · cases done
  · split at done
    · cases done
    · split at done
      · next token _ device key account found _ _ =>
        split at done
        · cases done
        · next accepted =>
          cases done
          intro own
          have active : device.status = .active := by
            simp only [not_or, not_not] at accepted
            exact accepted.2.2.2.2
          have revoked := barred.revoked device (device_mem found).1 ((device_mem found).2.trans own)
          rw [revoked] at active
          cases active
      · cases done

theorem heartbeat_identity (directory : Directory Hash) (principal : DevicePrincipal)
    (capabilities : Json) (now : Time) :
    IdentityStep directory (heartbeat directory principal capabilities now) := by
  exact identity_update rfl fun _ => ⟨rfl, rfl⟩

end

section

variable [DecidableEq Hash] {host : Host Hash} {credentials : Credentials}

/-- No claim of the device is served on an authentication from before its revocation;
`admitted` are the principals that `authenticate_device` had returned by then. -/
def NoLateClaim (deviceId : String) (admitted : List DevicePrincipal) (_ : Gateway Hash)
    (action : Gateway.Action Hash) : Prop :=
  ∀ principal leaseSeconds leaseId,
    action.request = .call (.leaseRun principal leaseSeconds leaseId) →
    principal.deviceId = deviceId → principal ∉ admitted

variable {next gateway : Gateway Hash} {action : Gateway.Action Hash}

theorem gateway_step_cases (step : (gatewayMachine host credentials).Step gateway action next) :
    next.now = action.now ∧ (IdentityStep gateway.directory next.directory ∨
      ∃ operation, action.request = .call operation ∧
        next.directory.store = commit gateway.directory.store
          (perform host gateway.directory.store action.now operation)) := by
  obtain ⟨-, -, rfl⟩ := step
  unfold Gateway.serve
  cases request : action.request with
  | register ownerId draft challengeId nonce =>
    exact ⟨rfl, Or.inl (commit_identity fun _ done => register_identity done)⟩
  | verify ownerId deviceId challengeId signature token =>
    exact ⟨rfl, Or.inl (commit_identity fun _ done => verify_identity done)⟩
  | authenticate authorization =>
    simp only
    split
    · next seen principal done => exact ⟨rfl, Or.inl (authenticate_identity done)⟩
    · exact ⟨rfl, Or.inl ⟨⟨_, _, rfl⟩, fun _ barred => barred⟩⟩
  | heartbeat principal capabilities =>
    exact ⟨rfl, Or.inl (heartbeat_identity gateway.directory principal capabilities action.now)⟩
  | call operation => exact ⟨rfl, Or.inr ⟨operation, rfl, rfl⟩⟩

structure GatewayInv (host : Host Hash) (gateway : Gateway Hash) : Prop where
  leases : LeaseInv gateway.now gateway.directory.store
  log : LogInv host gateway.directory.store

theorem gateway_step_inv (inv : GatewayInv host gateway)
    (step : (gatewayMachine host credentials).Step gateway action next) :
    GatewayInv host next := by
  have leases := lease_inv_later inv.leases step.1
  obtain ⟨clock, identity | ⟨operation, -, committed⟩⟩ := gateway_step_cases step
  · obtain ⟨devices, tokens, same⟩ := identity.rows
    have effect : Effect action.now gateway.directory.store next.directory.store := by
      rw [same]
      exact .devices devices tokens
    constructor
    · rw [clock]
      exact effect_lease_inv leases effect
    · exact effect_log_inv leases inv.log effect
  · constructor
    · rw [clock, committed]
      exact commit_cases _ leases fun _ done => perform_lease_inv leases done
    · rw [committed]
      exact commit_cases _ inv.log fun _ done => perform_log_inv leases inv.log done

theorem gateway_inv {Guard : Gateway Hash → Gateway.Action Hash → Prop}
    (reachable : (gatewayMachine host credentials).Reachable Guard gateway) :
    GatewayInv host gateway :=
  reachable_invariant (GatewayInv host)
    (fun gateway (initial : gateway.directory.store.Fresh ∧ _) =>
      ⟨fresh_lease_inv initial.1, fresh_log_inv initial.1⟩)
    (fun _ _ _ inv _ step => gateway_step_inv inv step) reachable

/-- A revoked device is admitted no more, so every principal of it that is still under way
was admitted before. -/
theorem gateway_step_admitted {deviceId : String} (barred : Barred gateway.directory.store deviceId)
    (step : (gatewayMachine host credentials).Step gateway action next) :
    ∀ principal ∈ next.admitted, principal.deviceId = deviceId → principal ∈ gateway.admitted := by
  obtain ⟨-, -, rfl⟩ := step
  intro principal mem own
  unfold Gateway.serve at mem
  cases request : action.request with
  | authenticate authorization =>
    simp only [request] at mem
    split at mem
    · next seen admitted done =>
      rcases mem_cons.mp mem with rfl | earlier
      · exact (authenticated_standing barred done own).elim
      · exact earlier
    · exact mem
  | register | verify | heartbeat | call =>
    simp only [request] at mem
    exact mem

theorem gateway_step_untouched {deviceId : String} {admitted : List DevicePrincipal}
    (inv : GatewayInv host gateway) (barred : Barred gateway.directory.store deviceId)
    (earlier : ∀ principal ∈ gateway.admitted, principal.deviceId = deviceId → principal ∈ admitted)
    (guarded : NoLateClaim deviceId admitted gateway action)
    (step : (gatewayMachine host credentials).Step gateway action next) :
    Untouched deviceId gateway.directory.store next.directory.store := by
  have leases := lease_inv_later inv.leases step.1
  obtain ⟨clock, identity | ⟨operation, request, committed⟩⟩ := gateway_step_cases step
  · exact identity_untouched identity barred
  · rw [committed]
    apply commit_cases _ (⟨barred, rfl, rfl⟩ : Untouched deviceId _ _)
    intro after done
    apply perform_untouched leases inv.log barred _ done
    intro principal leaseSeconds leaseId same own
    subst same
    have named : action.request.principal? = some principal := by
      rw [request]
      rfl
    have mem : principal ∈ admitted := earlier principal (step.2.1 principal named) own
    exact guarded principal leaseSeconds leaseId request own mem

/-- What a device has after its revocation: the status, no active lease, the leases and
events it had then, no renewal, and no submission that writes anything. -/
structure RevokedForGood (host : Host Hash) (frozen : Store Hash) (deviceId : String)
    (gateway : Gateway Hash) : Prop where
  untouched : Untouched deviceId frozen gateway.directory.store
  renewals : ∀ principal runId leaseId leaseEpoch leaseSeconds now result,
    principal.deviceId = deviceId →
    renewLease gateway.directory.store principal runId leaseId leaseEpoch leaseSeconds now ≠
      .ok result
  submissions : ∀ principal runId leaseId leaseEpoch events now next reply,
    gateway.now ≤ now → principal.deviceId = deviceId →
    submitEvents host gateway.directory.store principal runId leaseId leaseEpoch events now =
      .ok (next, reply) → next = gateway.directory.store

theorem untouched_revoked_for_good {frozen : Store Hash} {deviceId : String}
    (inv : GatewayInv host gateway)
    (untouched : Untouched deviceId frozen gateway.directory.store) :
    RevokedForGood host frozen deviceId gateway := by
  constructor
  · exact untouched
  · intro principal runId leaseId leaseEpoch leaseSeconds now result own
    exact renewal_refused untouched.barred own
  · intro principal runId leaseId leaseEpoch events now next reply order own done
    exact submission_idle (lease_inv_later inv.leases order) inv.log untouched.barred own done

theorem revocation_is_final (host : Host Hash) (credentials : Credentials)
    {gateway revoked later : Gateway Hash} {ownerId deviceId : String} {now : Time}
    {frozen : Store Hash}
    (reachable : (gatewayMachine host credentials).Reachable Anything gateway)
    (revocation : revokeDevice host.toPyText gateway.directory.store ownerId deviceId now =
      .ok (frozen, true))
    (step : (gatewayMachine host credentials).Step gateway
      ⟨now, .call (.revokeDevice ownerId deviceId)⟩ revoked)
    (path : (gatewayMachine host credentials).Path (NoLateClaim deviceId gateway.admitted)
      revoked later) :
    RevokedForGood host frozen deviceId later := by
  have committed : revoked.directory.store = frozen := by
    rw [step.2.2, Gateway.serve]
    simp only [perform, revocation]
    rfl
  have admissions : revoked.admitted = gateway.admitted := by
    rw [step.2.2]
    rfl
  have start : Untouched deviceId frozen revoked.directory.store := by
    rw [committed]
    exact ⟨revoke_device_bars revocation, rfl, rfl⟩
  -- kept together: the claims that are still possible are those of the admitted principals
  have kept : GatewayInv host later ∧ Untouched deviceId frozen later.directory.store ∧
      ∀ principal ∈ later.admitted, principal.deviceId = deviceId →
        principal ∈ gateway.admitted := by
    refine TransitionSystem.path_invariant (fun state => GatewayInv host state ∧
      Untouched deviceId frozen state.directory.store ∧
      ∀ principal ∈ state.admitted, principal.deviceId = deviceId →
        principal ∈ gateway.admitted) ?_ ?_ path
    · rintro state action next ⟨inv, before, earlier⟩ guarded taken
      have stays := gateway_step_untouched inv before.barred earlier guarded taken
      refine ⟨gateway_step_inv inv taken, before.trans stays, fun principal mem own => ?_⟩
      exact earlier principal (gateway_step_admitted before.barred taken principal mem own) own
    · refine ⟨gateway_step_inv (gateway_inv reachable) step, start, fun principal mem _ => ?_⟩
      rwa [admissions] at mem
  exact untouched_revoked_for_good kept.1 kept.2.1

end

def claimingGateway : Gateway Envelope :=
  (emptyGateway.serveAll (signIn (.obj []))).serveAll [⟨4, .call (.createRun (plainDraft "run"))⟩]

def revokeLaptop : Gateway.Action Envelope := ⟨5, .call (.revokeDevice "owner" "device-laptop")⟩

def revokedGateway : Gateway Envelope := claimingGateway.serveAll [revokeLaptop]

def lateClaim : Gateway.Action Envelope :=
  ⟨6, .call (.leaseRun (claimingGateway.admitted.headD laptop) 60 "lease")⟩

theorem claiming_gateway_reachable : plainGateway.Reachable Anything claimingGateway := by
  have signedIn : plainGateway.Reachable Anything (emptyGateway.serveAll (signIn (.obj []))) :=
    sign_in_path _ fun _ _ _ => trivial
  apply reachable_path signedIn
  apply gateway_serve_all_path (fun _ _ _ => trivial)
  · decide +kernel
  · intro action mem principal named
    rw [mem_singleton.mp mem] at named
    cases named

theorem laptop_revocation : ∃ frozen,
    revokeDevice plainHost.toPyText claimingGateway.directory.store "owner" "device-laptop" 5 =
      .ok (frozen, true) ∧ plainGateway.Step claimingGateway revokeLaptop revokedGateway := by
  have found : (revokeDevice plainHost.toPyText claimingGateway.directory.store "owner"
      "device-laptop" 5).toOption.map Prod.snd = some true := by decide +kernel
  have step : plainGateway.Step claimingGateway revokeLaptop revokedGateway := by
    refine ⟨by decide +kernel, fun principal named => ?_, rfl⟩
    cases named
  cases done : revokeDevice plainHost.toPyText claimingGateway.directory.store "owner"
      "device-laptop" 5 with
  | error error =>
    rw [done] at found
    cases found
  | ok result =>
    rw [done] at found
    obtain ⟨frozen, known⟩ := result
    cases found
    exact ⟨frozen, rfl, step⟩

theorem late_claim_granted : ∃ frozen later, plainGateway.Reachable Anything claimingGateway ∧
    revokeDevice plainHost.toPyText claimingGateway.directory.store "owner" "device-laptop" 5 =
      .ok (frozen, true) ∧
    plainGateway.Step claimingGateway revokeLaptop revokedGateway ∧
    plainGateway.Path Anything revokedGateway later ∧
    ¬RevokedForGood plainHost frozen "device-laptop" later := by
  obtain ⟨frozen, revocation, step⟩ := laptop_revocation
  refine ⟨frozen, revokedGateway.serve plainHost plainCredentials lateClaim,
    claiming_gateway_reachable, revocation, step, ?_, ?_⟩
  · have admitted : ∃ principal rest, claimingGateway.admitted = principal :: rest := by
      apply exists_cons_of_ne_nil
      have nonempty : claimingGateway.admitted.isEmpty = false := by decide +kernel
      intro empty
      rw [empty] at nonempty
      cases nonempty
    apply TransitionSystem.Machine.Path.step (.refl revokedGateway) trivial
    refine ⟨by decide +kernel, fun principal named => ?_, rfl⟩
    obtain ⟨first, rest, same⟩ := admitted
    cases named
    change claimingGateway.admitted.headD laptop ∈ claimingGateway.admitted
    rw [same]
    exact mem_cons_self
  · intro revoked
    have active : ∃ lease ∈ (revokedGateway.serve plainHost plainCredentials
        lateClaim).directory.store.leases,
        lease.deviceId = "device-laptop" ∧ lease.status = .active := by decide +kernel
    obtain ⟨lease, mem, device, status⟩ := active
    exact revoked.untouched.barred.idle lease mem device status

/-- After the revocation the owner signs in on a phone, which claims the Run; the laptop tries
its old token once more. -/
def phoneGateway : Gateway Envelope := revokedGateway.serveAll
  [⟨6, .register "owner" ⟨"device-phone", "phone-key", 1, .obj []⟩ "challenge-2" "nonce-2"⟩,
    ⟨7, .verify "owner" "device-phone" "challenge-2"
      ("phone-key" ++ challengeMessage "challenge-2" "device-phone" "nonce-2") "phone-token"⟩,
    ⟨8, .authenticate "Device phone-token"⟩, ⟨9, .authenticate "Device token"⟩]

def phoneClaim : Gateway.Action Envelope :=
  ⟨10, .call (.leaseRun (phoneGateway.admitted.headD laptop) 60 "lease")⟩

theorem phone_gateway_path {Guard : Gateway Envelope → Gateway.Action Envelope → Prop}
    (guarded : ∀ state action, (∀ operation, action.request ≠ .call operation) →
      Guard state action) : plainGateway.Path Guard revokedGateway phoneGateway := by
  apply gateway_serve_all_path
  · intro state action mem
    apply guarded state action
    intro operation called
    fin_cases mem <;> cases called
  · decide +kernel
  · intro action mem principal named
    fin_cases mem <;> cases named

theorem phone_claims : plainGateway.Step phoneGateway phoneClaim
    (phoneGateway.serve plainHost plainCredentials phoneClaim) := by
  refine ⟨by decide +kernel, fun principal named => ?_, rfl⟩
  cases named
  have nonempty : phoneGateway.admitted.isEmpty = false := by decide +kernel
  change phoneGateway.admitted.headD laptop ∈ phoneGateway.admitted
  cases same : phoneGateway.admitted with
  | nil =>
    rw [same] at nonempty
    cases nonempty
  | cons first rest => exact mem_cons_self

theorem revoked_laptop_stays_out : ∃ frozen, RevokedForGood plainHost frozen "device-laptop"
      (phoneGateway.serve plainHost plainCredentials phoneClaim) ∧
    ∃ lease ∈ (phoneGateway.serve plainHost plainCredentials phoneClaim).directory.store.leases,
      lease.deviceId = "device-phone" ∧ lease.status = .active := by
  obtain ⟨frozen, revocation, step⟩ := laptop_revocation
  have path : plainGateway.Path (NoLateClaim "device-laptop" claimingGateway.admitted)
      revokedGateway (phoneGateway.serve plainHost plainCredentials phoneClaim) := by
    apply TransitionSystem.Machine.Path.step (phone_gateway_path ?_) ?_ phone_claims
    · intro state action uncalled principal leaseSeconds leaseId claim
      exact (uncalled _ claim).elim
    · intro principal leaseSeconds leaseId claim own
      cases claim
      have phone : (phoneGateway.admitted.headD laptop).deviceId = "device-phone" := by
        decide +kernel
      rw [phone] at own
      exact absurd own (by decide)
  exact ⟨frozen, revocation_is_final plainHost plainCredentials claiming_gateway_reachable
    revocation step path, by decide +kernel⟩

end AgentMate
