import AgentMate.DeviceRevocation

/-! # Owners of devices and leases -/

namespace AgentMate

open TransitionSystem Rollback Table List

variable {Hash : Type}

def Store.roster (store : Store Hash) : List (String × String) :=
  store.devices.map fun device => (device.id, device.ownerId)

def LeasesOwned (store : Store Hash) : Prop :=
  ∀ lease ∈ store.leases, (lease.deviceId, lease.ownerId) ∈ store.roster

structure DirectoryOwned (directory : Directory Hash) : Prop where
  unique : UniqueKey Device.id directory.store.devices
  challenges : ∀ challenge ∈ directory.challenges,
    (challenge.deviceId, challenge.ownerId) ∈ directory.store.roster
  tokens : ∀ token ∈ directory.store.tokens,
    (token.deviceId, token.ownerId) ∈ directory.store.roster
  leases : LeasesOwned directory.store

theorem roster_update_where {chosen : Device → Prop} [DecidablePred chosen]
    {assign : Device → Device} (rows : List Device)
    (same : ∀ device, (assign device).id = device.id ∧ (assign device).ownerId = device.ownerId) :
    (updateWhere chosen assign rows).map (fun device => (device.id, device.ownerId)) =
      rows.map fun device => (device.id, device.ownerId) := by
  apply map_update_where
  intro device
  rw [(same device).1, (same device).2]

theorem device_owner {store : Store Hash} (unique : UniqueKey Device.id store.devices)
    (owned : LeasesOwned store) {lease : Lease} (mem : lease ∈ store.leases) {device : Device}
    (known : device ∈ store.devices) (same : device.id = lease.deviceId) :
    device.ownerId = lease.ownerId := by
  obtain ⟨other, otherMem, names⟩ := mem_map.mp (owned lease mem)
  simp only [Prod.mk.injEq] at names
  obtain rfl := unique_key_eq unique known otherMem (same.trans names.1.symm)
  exact names.2

section

variable {directory next : Directory Hash} {now : Time}

theorem roster_mem {deviceId : String} {device : Device}
    (found : directory.device? deviceId = some device) :
    (deviceId, device.ownerId) ∈ directory.store.roster := by
  obtain ⟨mem, rfl⟩ := device_mem found
  exact mem_map_of_mem mem

theorem owned_update {chosen : Device → Prop} [DecidablePred chosen] {assign : Device → Device}
    {tokens : List DeviceToken} (owned : DirectoryOwned directory)
    (rows : next.store = { directory.store with
      devices := updateWhere chosen assign directory.store.devices, tokens := tokens })
    (same : ∀ device, (assign device).id = device.id ∧ (assign device).ownerId = device.ownerId)
    (challenges : ∀ challenge ∈ next.challenges,
      (challenge.deviceId, challenge.ownerId) ∈ directory.store.roster)
    (tokensOwned : ∀ token ∈ tokens, (token.deviceId, token.ownerId) ∈ directory.store.roster) :
    DirectoryOwned next ∧ next.store.roster = directory.store.roster := by
  have roster : next.store.roster = directory.store.roster := by
    rw [Store.roster, rows]
    exact roster_update_where directory.store.devices same
  refine ⟨⟨?_, ?_, ?_, ?_⟩, roster⟩
  · rw [rows]
    exact unique_key_update (fun device => (same device).1) owned.unique
  · rw [roster]
    exact challenges
  · rw [roster, rows]
    exact tokensOwned
  · rw [LeasesOwned, roster, rows]
    exact owned.leases

variable {draft : DeviceDraft} {credentials : Credentials}

theorem enroll_owned {ownerId : String} (owned : DirectoryOwned directory)
    (done : directory.enroll ownerId draft now = .ok next) :
    DirectoryOwned next ∧ directory.store.roster ⊆ next.store.roster ∧
      (draft.deviceId, ownerId) ∈ next.store.roster := by
  unfold Directory.enroll at done
  split at done
  · next existing found =>
    split at done
    · cases done
    · next own =>
      split at done
      · cases done
      · split at done
        · cases done
        · have same := Except.ok.inj done
          have challenges : next.challenges = directory.challenges := by rw [← same]; rfl
          have rows := congrArg Directory.store same
          obtain ⟨kept, roster⟩ := owned_update owned rows.symm (fun _ => ⟨rfl, rfl⟩)
            (challenges ▸ owned.challenges) owned.tokens
          rw [roster, ← Decidable.not_not.mp own]
          exact ⟨kept, List.Subset.refl _, roster_mem found⟩
  · next absent =>
    have fresh : ∀ device ∈ directory.store.devices, device.id ≠ draft.deviceId :=
      lookup_eq_none_iff.mp absent
    have roster : next.store.roster = directory.store.roster ++ [(draft.deviceId, ownerId)] := by
      rw [← Except.ok.inj done, Store.roster, map_append]
      rfl
    have grown : directory.store.roster ⊆ next.store.roster := by
      rw [roster]
      exact subset_append_left _ _
    have named : (draft.deviceId, ownerId) ∈ next.store.roster := by simp [roster]
    cases done
    refine ⟨⟨unique_key_append owned.unique fresh, ?_, ?_, ?_⟩, grown, named⟩
    · exact fun challenge mem => grown (owned.challenges challenge mem)
    · exact fun token mem => grown (owned.tokens token mem)
    · exact fun lease mem => grown (owned.leases lease mem)

theorem register_owned {ownerId challengeId nonce : String} (owned : DirectoryOwned directory)
    (done : registerDevice credentials directory ownerId draft challengeId nonce now = .ok next) :
    DirectoryOwned next ∧ directory.store.roster ⊆ next.store.roster := by
  unfold registerDevice at done
  split at done
  · cases done
  · split at done
    · cases done
    · obtain ⟨enrolled, enrolling, rest⟩ := bind_ok done
      obtain ⟨kept, grown, named⟩ := enroll_owned owned enrolling
      split at rest
      · cases rest
      · cases rest
        refine ⟨⟨kept.unique, fun challenge mem => ?_, kept.tokens, kept.leases⟩, grown⟩
        rcases mem_append.mp mem with old | new
        · exact kept.challenges challenge old
        · rw [mem_singleton.mp new]
          exact named

theorem verify_owned
    {ownerId deviceId challengeId signature token : String} (owned : DirectoryOwned directory)
    (done : verifyDevice credentials directory ownerId deviceId challengeId signature token now =
      .ok next) : DirectoryOwned next ∧ next.store.roster = directory.store.roster := by
  unfold verifyDevice at done
  simp only at done
  split at done
  · next challenge device key named found _ =>
    split at done
    · cases done
    · split at done
      · cases done
      · split at done
        · cases done
        · split at done
          · cases done
          · cases done
            have matched := find?_some named
            simp only [Bool.and_eq_true, decide_eq_true_eq] at matched
            refine owned_update owned rfl (fun _ => ⟨rfl, rfl⟩) ?_ ?_
            · intro other mem
              obtain ⟨old, oldMem, rfl⟩ := mem_update_where.mp mem
              have names := owned.challenges old oldMem
              split <;> exact names
            · intro other mem
              rcases mem_append.mp mem with old | new
              · exact owned.tokens other old
              · rw [mem_singleton.mp new, ← matched.1.2, ← matched.2]
                exact owned.challenges challenge (mem_of_find?_eq_some named)
  · cases done

theorem authenticate_owned {authorization : String}
    {principal : DevicePrincipal} (owned : DirectoryOwned directory)
    (done : authenticateDevice credentials directory authorization now = .ok (next, principal)) :
    DirectoryOwned next ∧ next.store.roster = directory.store.roster ∧
      (principal.deviceId, principal.ownerId) ∈ directory.store.roster := by
  unfold authenticateDevice at done
  simp only at done
  split at done
  · cases done
  · split at done
    · cases done
    · next row presented =>
      split at done
      · split at done
        · cases done
        · have names := owned.tokens row (mem_of_find?_eq_some presented)
          have same := Prod.mk.inj (Except.ok.inj done)
          have challenges : next.challenges = directory.challenges := by rw [← same.1]; rfl
          have rows := congrArg Directory.store same.1
          rw [← same.2]
          refine and_assoc.mp ⟨owned_update owned rows.symm (fun _ => ⟨rfl, rfl⟩)
            (challenges ▸ owned.challenges) fun other mem => ?_, names⟩
          obtain ⟨old, oldMem, rfl⟩ := mem_update_where.mp mem
          have oldNames := owned.tokens old oldMem
          split <;> exact oldNames
      · cases done

theorem heartbeat_owned (owned : DirectoryOwned directory) (principal : DevicePrincipal)
    (capabilities : Json) (now : Time) :
    DirectoryOwned (heartbeat directory principal capabilities now) ∧
      (heartbeat directory principal capabilities now).store.roster = directory.store.roster :=
  owned_update owned rfl (fun _ => ⟨rfl, rfl⟩) owned.challenges owned.tokens

end

section

variable {store next : Store Hash} {now : Time}

def Store.holders (store : Store Hash) : List (String × String) :=
  store.leases.map fun lease => (lease.deviceId, lease.ownerId)

theorem holders_update {chosen : Lease → Prop} [DecidablePred chosen] {assign : Lease → Lease}
    (rows : List Lease) (same : ∀ lease, (assign lease).deviceId = lease.deviceId ∧
      (assign lease).ownerId = lease.ownerId) :
    (updateWhere chosen assign rows).map (fun lease => (lease.deviceId, lease.ownerId)) =
      rows.map fun lease => (lease.deviceId, lease.ownerId) := by
  apply map_update_where
  intro lease
  rw [(same lease).1, (same lease).2]

theorem effect_holders (count : next.leases.length = store.leases.length)
    (effect : Effect now store next) : next.holders = store.holders := by
  cases effect with
  | grant run assign lease => simp at count
  | renew | release | abandon => exact holders_update _ fun _ => ⟨rfl, rfl⟩
  | _ => rfl

theorem effects_holders (count : next.leases.length = store.leases.length)
    (effects : Effects now store next) : next.holders = store.holders := by
  induction effects with
  | refl => rfl
  | tail before effect ih =>
    have grown := effects_lease_count before
    have growing := effect_lease_count effect
    exact (effect_holders (by omega) effect).trans (ih (by omega))

/-- What a call keeps of the accounts: the roster, and with it the tokens and leases. -/
structure StoreOwned (store next : Store Hash) : Prop where
  roster : next.roster = store.roster
  tokens : ∀ token ∈ next.tokens, ∃ old ∈ store.tokens,
    token.deviceId = old.deviceId ∧ token.ownerId = old.ownerId
  leases : LeasesOwned store → LeasesOwned next

theorem owned_of_holders (roster : next.roster = store.roster)
    (holders : next.holders = store.holders) (owned : LeasesOwned store) : LeasesOwned next := by
  intro lease mem
  have names : (lease.deviceId, lease.ownerId) ∈ store.holders := by
    rw [← holders]
    exact mem_map_of_mem mem
  obtain ⟨old, oldMem, same⟩ := mem_map.mp names
  rw [roster, ← same]
  exact owned old oldMem

theorem ungranted_owned (ungranted : Ungranted store next) (holders : next.holders = store.holders) :
    StoreOwned store next := by
  have roster : next.roster = store.roster := by rw [Store.roster, ungranted.devices]; rfl
  refine ⟨roster, ?_, owned_of_holders roster holders⟩
  rw [ungranted.tokens]
  exact fun token mem => ⟨token, mem, rfl, rfl⟩

theorem revoke_owned {text : PyText} {ownerId deviceId : String} {found : Bool}
    (keyed : store.Keyed)
    (done : revokeDevice text store ownerId deviceId now = .ok (next, found)) :
    StoreOwned store next := by
  have effects := revoke_device_effects keyed done
  rcases revoke_device_cases done with ⟨-, rfl⟩ | ⟨-, ungranted, -⟩
  · exact ungranted_owned (Ungranted.refl next) rfl
  · have roster : next.roster = store.roster := by
      rw [Store.roster, ungranted.devices]
      exact roster_update_where store.devices fun _ => ⟨rfl, rfl⟩
    refine ⟨roster, fun token mem => ?_,
      owned_of_holders roster (effects_holders ungranted.count effects)⟩
    rw [ungranted.tokens] at mem
    obtain ⟨old, oldMem, rfl⟩ := mem_update_where.mp mem
    refine ⟨old, oldMem, ?_⟩
    split <;> exact ⟨rfl, rfl⟩

theorem lease_run_owned {text : PyText} {principal : DevicePrincipal} {leaseSeconds : Int}
    {leaseId : String} {grant : Option LeaseGrant} (keyed : store.Keyed)
    (known : (principal.deviceId, principal.ownerId) ∈ store.roster)
    (done : leaseRun text store principal leaseSeconds leaseId now = .ok (next, grant)) :
    StoreOwned store next := by
  obtain ⟨expired, expiring, outcome⟩ := lease_run_cases keyed done
  have released := releases_ungranted expiring
  have first : StoreOwned store expired := ungranted_owned released
    (effects_holders released.count (expire_leases_effects keyed expiring))
  rcases outcome with ⟨-, rfl, -⟩ | ⟨run, -, -, rfl, -⟩
  · exact first
  · refine ⟨first.roster, first.tokens, fun owned lease mem => ?_⟩
    rcases mem_append.mp mem with old | new
    · exact first.leases owned lease old
    · rw [mem_singleton.mp new]
      exact first.roster ▸ known

section

variable [DecidableEq Hash] {host : Host Hash}

theorem submit_owned {principal : DevicePrincipal} {runId leaseId : String}
    {leaseEpoch : Nat} {events : List (RunEvent Hash)} {reply : SubmitReply}
    (leaseInv : LeaseInv now store) (logInv : LogInv host store)
    (done : submitEvents host store principal runId leaseId leaseEpoch events now =
      .ok (next, reply)) : StoreOwned store next := by
  obtain ⟨lease, final, current, loop, rfl, -⟩ := submit_events_cases done
  have applied := submit_batch_applied (start_batch_inv now leaseInv logInv current) loop
  have ungranted : Ungranted store final.store := applied_all_ungranted applied
  apply ungranted_owned (ungranted.trans (ungranted_update_lease final.store lease.id _))
  have batchHolders : final.store.holders = store.holders := by
    rcases applied_all_leases applied with ⟨rows, -⟩ | ⟨-, eventId, rows⟩
    · rw [Store.holders, rows]
      rfl
    · rw [Store.holders, rows]
      exact holders_update store.leases fun _ => ⟨rfl, rfl⟩
  have acknowledged : (final.store.updateLease lease.id (Lease.acknowledge final.ack)).holders =
      final.store.holders := holders_update final.store.leases fun _ => ⟨rfl, rfl⟩
  exact acknowledged.trans batchHolders

theorem perform_owned {call : Call Hash} (leaseInv : LeaseInv now store)
    (logInv : LogInv host store)
    (known : ∀ principal, call.principal? = some principal →
      (principal.deviceId, principal.ownerId) ∈ store.roster)
    (done : perform host store now call = .ok next) : StoreOwned store next := by
  cases plain : call.isPlain with
  | true =>
    have notSubmit : call.isSubmit = false := by cases call <;> first | rfl | cases plain
    have ungranted := perform_plain plain done
    exact ungranted_owned ungranted (effects_holders ungranted.count
      (perform_effects leaseInv.keyed notSubmit done))
  | false =>
    cases call with
    | leaseRun principal leaseSeconds leaseId =>
      obtain ⟨⟨leased, grant⟩, claim, rest⟩ := bind_ok done
      cases rest
      exact lease_run_owned leaseInv.keyed (known principal rfl) claim
    | submitEvents principal runId leaseId leaseEpoch events =>
      obtain ⟨⟨submitted, reply⟩, submit, rest⟩ := bind_ok done
      cases rest
      exact submit_owned leaseInv logInv submit
    | revokeDevice ownerId deviceId =>
      obtain ⟨⟨revoked, found⟩, revoking, rest⟩ := bind_ok done
      cases rest
      exact revoke_owned leaseInv.keyed revoking
    | _ => cases plain

end

end

structure GatewayOwned (gateway : Gateway Hash) : Prop where
  directory : DirectoryOwned gateway.directory
  admitted : ∀ principal ∈ gateway.admitted,
    (principal.deviceId, principal.ownerId) ∈ gateway.directory.store.roster

theorem commit_owned {gateway : Gateway Hash} {now : Time}
    {done : Except IdentityError (Directory Hash)} (owned : GatewayOwned gateway)
    (step : ∀ next, done = .ok next → DirectoryOwned next ∧
      gateway.directory.store.roster ⊆ next.store.roster) :
    GatewayOwned (gateway.commit now done) := by
  cases done with
  | error error => exact ⟨owned.directory, owned.admitted⟩
  | ok next =>
    obtain ⟨kept, grown⟩ := step next rfl
    exact ⟨kept, fun principal mem => grown (owned.admitted principal mem)⟩

variable [DecidableEq Hash] {host : Host Hash} {credentials : Credentials}

theorem gateway_step_owned {gateway next : Gateway Hash} {action : Gateway.Action Hash}
    (inv : GatewayInv host gateway) (owned : GatewayOwned gateway)
    (step : (gatewayMachine host credentials).Step gateway action next) :
    GatewayOwned next := by
  have leases := lease_inv_later inv.leases step.1
  obtain ⟨-, named, rfl⟩ := step
  unfold Gateway.serve
  cases request : action.request with
  | register ownerId draft challengeId nonce =>
    exact commit_owned owned fun _ done => register_owned owned.directory done
  | verify ownerId deviceId challengeId signature token =>
    apply commit_owned owned
    intro verified done
    obtain ⟨kept, roster⟩ := verify_owned owned.directory done
    exact ⟨kept, roster ▸ List.Subset.refl _⟩
  | authenticate authorization =>
    simp only
    split
    · next seen principal done =>
      obtain ⟨kept, roster, known⟩ := authenticate_owned owned.directory done
      refine ⟨kept, fun other mem => ?_⟩
      rw [roster]
      rcases mem_cons.mp mem with rfl | old
      · exact known
      · exact owned.admitted other old
    · exact ⟨owned.directory, owned.admitted⟩
  | heartbeat principal capabilities =>
    obtain ⟨kept, roster⟩ := heartbeat_owned owned.directory principal capabilities action.now
    refine ⟨kept, fun other mem => ?_⟩
    rw [roster]
    exact owned.admitted other mem
  | call operation =>
    simp only
    cases done : perform host gateway.directory.store action.now operation with
    | error error => exact ⟨owned.directory, owned.admitted⟩
    | ok after =>
      have kept : StoreOwned gateway.directory.store after := by
        apply perform_owned leases inv.log _ done
        intro principal known
        apply owned.admitted
        apply named
        rw [request]
        exact known
      have unique : UniqueKey Device.id after.devices := by
        have ids := congrArg (List.map Prod.fst) kept.roster
        simp only [Store.roster, map_map] at ids
        rw [UniqueKey]
        exact ids ▸ owned.directory.unique
      refine ⟨⟨unique, ?_, ?_, kept.leases owned.directory.leases⟩, ?_⟩
      · intro challenge mem
        exact kept.roster ▸ owned.directory.challenges challenge mem
      · intro token mem
        obtain ⟨old, oldMem, device, owner⟩ := kept.tokens token mem
        rw [device, owner]
        exact kept.roster ▸ owned.directory.tokens old oldMem
      · intro principal mem
        exact kept.roster ▸ owned.admitted principal mem

theorem gateway_owned {Guard : Gateway Hash → Gateway.Action Hash → Prop} {gateway : Gateway Hash}
    (reachable : (gatewayMachine host credentials).Reachable Guard gateway) :
    GatewayOwned gateway := by
  obtain ⟨start, initial, path⟩ := reachable
  have reached : (gatewayMachine host credentials).Reachable Guard start :=
    ⟨start, initial, .refl start⟩
  apply path_stable GatewayOwned reached _ _ path
  · intro state action next reachedState owned _ step
    exact gateway_step_owned (gateway_inv reachedState) owned step
  · obtain ⟨fresh, devices, tokens, keys, challenges, admitted⟩ := initial
    refine ⟨⟨?_, ?_, ?_, ?_⟩, ?_⟩
    · rw [devices]
      exact nodup_nil
    · simp [challenges]
    · simp [tokens]
    · simp [LeasesOwned, fresh.leases]
    · simp [admitted]

/-- The device and the Run have one owner. -/
def Store.SameOwner (store : Store Hash) (deviceId runId : String) : Prop :=
  ∃ run, ∃ device ∈ store.devices, store.run? runId = some run ∧ device.id = deviceId ∧
    device.ownerId = run.ownerId

/-- Every lease and every event of a Run is of a device of the Run's account, and every token of
its device's account; a device is of one account only. -/
theorem accounts_isolated {gateway : Gateway Hash}
    (reachable : (gatewayMachine host credentials).Reachable Anything gateway) :
    let store := gateway.directory.store
    UniqueKey Device.id store.devices ∧
      (∀ lease ∈ store.leases, store.SameOwner lease.deviceId lease.runId) ∧
      (∀ row ∈ store.events, store.SameOwner row.deviceId row.runId) ∧
      ∀ token ∈ store.tokens, ∃ device ∈ store.devices,
        device.id = token.deviceId ∧ device.ownerId = token.ownerId := by
  intro store
  have owned := (gateway_owned reachable).directory
  have inv := gateway_inv reachable
  have leased : ∀ lease ∈ store.leases, store.SameOwner lease.deviceId lease.runId := by
    intro lease mem
    obtain ⟨run, found, owner, -⟩ := inv.leases.held lease mem
    obtain ⟨device, known, named⟩ := mem_map.mp (owned.leases lease mem)
    obtain ⟨sameId, sameOwner⟩ := Prod.mk.inj named
    exact ⟨run, device, known, found, sameId, sameOwner.trans owner⟩
  refine ⟨owned.unique, leased, ?_, ?_⟩
  · intro row stored
    obtain ⟨lease, mem, -, sameRun, -, sameDevice⟩ := inv.log.written row stored
    rw [← sameRun, ← sameDevice]
    exact leased lease mem
  · intro token mem
    obtain ⟨device, known, named⟩ := mem_map.mp (owned.tokens token mem)
    exact ⟨device, known, Prod.mk.inj named⟩

theorem signed_in_isolated : ∃ token,
    token ∈ (emptyGateway.serveAll (signIn (.obj []))).directory.store.tokens ∧
      ∃ device ∈ (emptyGateway.serveAll (signIn (.obj []))).directory.store.devices,
        device.id = token.deviceId ∧ device.ownerId = token.ownerId := by
  have issued : (emptyGateway.serveAll (signIn (.obj []))).directory.store.tokens.isEmpty =
      false := by
    decide +kernel
  obtain ⟨token, mem⟩ := exists_mem_of_ne_nil _ (isEmpty_eq_false_iff.mp issued)
  exact ⟨token, mem, (accounts_isolated (sign_in_path (.obj []) fun _ _ _ => trivial)).2.2.2
    token mem⟩

end AgentMate
