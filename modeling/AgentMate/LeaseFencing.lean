import AgentMate.LeaseInvariant

/-! # Fencing of stale leases -/

namespace AgentMate

open TransitionSystem Rollback List

variable {Hash : Type}

def Store.issued (store : Store Hash) : List (String × String × Nat) :=
  store.leases.map fun lease => (lease.id, lease.runId, lease.leaseEpoch)

variable {store : Store Hash} {now : Time}

theorem issued_update {leaseId : String} (assign : Lease → Lease)
    (same : ∀ lease, ((assign lease).id, (assign lease).runId, (assign lease).leaseEpoch) =
      (lease.id, lease.runId, lease.leaseEpoch)) :
    (store.updateLease leaseId assign).issued = store.issued :=
  Table.map_update_where _ same

theorem effect_issued {store next : Store Hash} (effect : Effect now store next) :
    store.issued <+: next.issued := by
  cases effect with
  | grant run assign lease => exact ⟨_, (map_append ..).symm⟩
  | renew lease expiresAt =>
    have kept : (store.updateLease lease.id (Lease.renew expiresAt now)).issued = store.issued :=
      issued_update (Lease.renew expiresAt now) fun _ => rfl
    exact kept ▸ prefix_rfl
  | release lease status assign business =>
    have kept : (store.updateLease lease.id (Lease.setStatus status)).issued = store.issued :=
      issued_update (Lease.setStatus status) fun _ => rfl
    exact kept ▸ prefix_rfl
  | abandon run assign business =>
    have kept : (store.expireLeasesOf run.id).issued = store.issued :=
      Table.map_update_where _ fun _ => rfl
    exact kept ▸ prefix_rfl
  | _ => exact prefix_rfl

theorem effects_issued {store next : Store Hash} (effects : Effects now store next) :
    store.issued <+: next.issued := by
  induction effects with
  | refl => exact prefix_rfl
  | tail _ effect ih => exact ih.trans (effect_issued effect)

theorem after_event_issued {text : PyText} {lease : Lease} {event : RunEvent Hash}
    {output : TerminalOutput} {business : Business} :
    (store.afterEvent text lease event output business now).issued = store.issued := by
  rw [Store.issued, after_event_leases]
  split
  · exact issued_update (Lease.complete event.eventId) fun _ => rfl
  · rfl

section

variable [DecidableEq Hash] {host : Host Hash}

theorem submit_events_issued {store finish : Store Hash} {principal : DevicePrincipal}
    {runId leaseId : String} {leaseEpoch : Nat} {events : List (RunEvent Hash)}
    {reply : SubmitReply} {now : Time}
    (done : submitEvents host store principal runId leaseId leaseEpoch events now =
      .ok (finish, reply)) : finish.issued = store.issued := by
  obtain ⟨lease, final, -, loop, rfl, -⟩ := submit_events_cases done
  have kept : final.store.issued = store.issued := by
    refine fold_invariant (fun batch => batch.store.issued = store.issued) ?_ rfl loop
    intro batch event next _ same pass
    obtain ⟨-, replayed | applied⟩ := submit_event_cases pass
    · rw [replayed.store]
      exact same
    · obtain ⟨output, business, -, after⟩ := applied.store
      rw [after, after_event_issued]
      exact same
  exact (issued_update (Lease.acknowledge final.ack) fun _ => rfl).trans kept

theorem server_step_issued {server next : Server Hash} {action : Server.Action Hash}
    (inv : LeaseInv server.now server.store)
    (step : (serverMachine host).Step server action next) :
    server.store.issued <+: next.store.issued := by
  obtain ⟨-, rfl⟩ := step
  refine commit_cases (fun after => server.store.issued <+: after.issued)
    prefix_rfl fun after done => ?_
  rcases perform_cases inv.keyed done with effects | ⟨_, _, _, _, _, _, -, submit⟩
  · exact effects_issued effects
  · exact submit_events_issued submit ▸ prefix_rfl

theorem server_path_issued {server later : Server Hash}
    (reachable : (serverMachine host).Reachable Anything server)
    (path : (serverMachine host).Path Anything server later) :
    server.store.issued <+: later.store.issued :=
  path_stable (fun after => server.store.issued <+: after.store.issued) reachable
    (fun _ _ _ reached before _ step =>
      before.trans (server_step_issued (server_lease_inv reached) step))
    prefix_rfl path

end

/-- A `renew_lease` or `submit_events` call that presents a lease of the Run with
an epoch below `epoch`, named by its number or by its identifier. -/
def Call.PresentsBefore (store : Store Hash) (runId : String) (epoch : Nat) : Call Hash → Prop
  | .renewLease _ calledRun leaseId leaseEpoch _
  | .submitEvents _ calledRun leaseId leaseEpoch _ =>
    (calledRun = runId ∧ leaseEpoch < epoch) ∨
      ∃ old ∈ store.leases, old.id = leaseId ∧ old.runId = runId ∧ old.leaseEpoch < epoch
  | _ => False

theorem stale_current_lease (inv : LeaseInv now store)
    {issued : Lease} (mem : issued ∈ store.leases) {principal : DevicePrincipal}
    {calledRun leaseId : String} {leaseEpoch : Nat}
    (stale : (calledRun = issued.runId ∧ leaseEpoch < issued.leaseEpoch) ∨
      ∃ old ∈ store.leases, old.id = leaseId ∧ old.runId = issued.runId ∧
        old.leaseEpoch < issued.leaseEpoch) (lease : Lease) :
    currentLease store principal calledRun leaseId leaseEpoch ≠ .ok lease := by
  intro current
  obtain ⟨leaseMem, sameId, sameRun, -, -, sameEpoch, run, found, epoch⟩ :=
    current_lease_ok current
  have behind : calledRun = issued.runId ∧ leaseEpoch < issued.leaseEpoch := by
    rcases stale with direct | ⟨old, oldMem, oldId, oldRun, oldEpoch⟩
    · exact direct
    · obtain rfl := Table.unique_key_eq inv.keyed.leases oldMem leaseMem (oldId.trans sameId.symm)
      exact ⟨sameRun.symm.trans oldRun, sameEpoch ▸ oldEpoch⟩
  obtain ⟨row, rowFound, -, -, bound⟩ := inv.held issued mem
  rw [← behind.1, found] at rowFound
  cases rowFound
  omega

theorem stale_call_unchanged [DecidableEq Hash] {host : Host Hash} {server : Server Hash}
    (inv : LeaseInv server.now server.store) {issued : Lease}
    (mem : issued ∈ server.store.leases) {action : Server.Action Hash}
    (stale : action.call.PresentsBefore server.store issued.runId issued.leaseEpoch) :
    (server.serve host action).store = server.store := by
  have refused (Value : Type) (principal : DevicePrincipal) (calledRun leaseId : String)
      (leaseEpoch : Nat) (next : Lease → Transaction Value)
      (older : (calledRun = issued.runId ∧ leaseEpoch < issued.leaseEpoch) ∨
        ∃ old ∈ server.store.leases, old.id = leaseId ∧ old.runId = issued.runId ∧
          old.leaseEpoch < issued.leaseEpoch) (value : Value) :
      (currentLease server.store principal calledRun leaseId leaseEpoch >>= next) ≠ .ok value := by
    intro done
    obtain ⟨lease, current, -⟩ := bind_ok done
    exact stale_current_lease inv mem older lease current
  refine commit_cases (fun after => after = server.store) rfl fun after done => ?_
  cases call : action.call with
  | renewLease principal calledRun leaseId leaseEpoch leaseSeconds =>
    rw [call] at done stale
    obtain ⟨renewed, renewing, -⟩ := bind_ok done
    exact absurd renewing (refused _ principal calledRun leaseId leaseEpoch _ stale renewed)
  | submitEvents principal calledRun leaseId leaseEpoch events =>
    rw [call] at done stale
    obtain ⟨submitted, submitting, -⟩ := bind_ok done
    exact absurd submitting (refused _ principal calledRun leaseId leaseEpoch _ stale submitted)
  | _ =>
    rw [call] at stale
    cases stale

theorem one_active_lease (inv : LeaseInv now store) (runId : String) :
    (store.leases.filter fun lease => lease.runId = runId && lease.status = .active).length ≤ 1 := by
  have distinct := inv.epochs.filter fun lease =>
    decide (lease.runId = runId) && decide (lease.status = .active)
  cases rows : store.leases.filter fun lease => lease.runId = runId && lease.status = .active with
  | nil => exact Nat.zero_le 1
  | cons first rest =>
    cases rest with
    | nil => exact Nat.le_refl 1
    | cons second others =>
      have chosen : ∀ lease ∈ first :: second :: others,
          lease ∈ store.leases ∧ lease.runId = runId ∧ lease.status = .active := by
        intro lease mem
        rw [← rows] at mem
        simpa using mem
      obtain ⟨firstMem, firstRun, firstActive⟩ := chosen first (by simp)
      obtain ⟨secondMem, secondRun, secondActive⟩ := chosen second (by simp)
      have sameRun := firstRun.trans secondRun.symm
      have same := active_lease_unique inv firstMem secondMem firstActive secondActive sameRun
      rw [rows, pairwise_cons] at distinct
      have order := distinct.1 second mem_cons_self sameRun
      rw [same] at order
      exact absurd order (Nat.lt_irrefl _)

/-- At every moment a Run has at most one active lease and its leases were issued
with growing epochs; a call that presents a lease older than one that was ever
issued changes nothing. -/
theorem lease_fencing [DecidableEq Hash] (host : Host Hash) {server : Server Hash}
    (reachable : (serverMachine host).Reachable Anything server) :
    (∀ runId, (server.store.leases.filter fun lease =>
      lease.runId = runId && lease.status = .active).length ≤ 1) ∧
    (server.store.leases.Pairwise fun earlier later =>
      earlier.runId = later.runId → earlier.leaseEpoch < later.leaseEpoch) ∧
    ∀ later, (serverMachine host).Path Anything server later →
      server.store.issued <+: later.store.issued ∧
      ∀ issued ∈ server.store.leases, ∀ action next,
        action.call.PresentsBefore later.store issued.runId issued.leaseEpoch →
        (serverMachine host).Step later action next → next.store = later.store := by
  have inv := server_lease_inv reachable
  refine ⟨one_active_lease inv, inv.epochs, ?_⟩
  intro later path
  have issuedOrder := server_path_issued reachable path
  refine ⟨issuedOrder, ?_⟩
  rintro issued mem action next stale ⟨-, rfl⟩
  have laterInv := server_lease_inv (reachable_path reachable path)
  have named : (issued.id, issued.runId, issued.leaseEpoch) ∈ later.store.issued :=
    issuedOrder.subset (mem_map_of_mem mem)
  obtain ⟨known, knownMem, same⟩ := mem_map.mp named
  simp only [Prod.mk.injEq] at same
  rw [← same.2.1, ← same.2.2] at stale
  exact stale_call_unchanged laterInv knownMem stale

def takeover : List (Server.Action Envelope) :=
  [⟨1, .createRun (plainDraft "run-1")⟩, ⟨2, .leaseRun laptop 30 "lease-1"⟩,
    ⟨40, .leaseRun desktop 30 "lease-2"⟩]

def lateReport : Server.Action Envelope :=
  ⟨41, .submitEvents laptop "run-1" "lease-1" 1
    [plainEvent laptop "run-1" 1 1 "event-completed" "run.completed" (.obj [])]⟩

theorem takeover_fenced :
    ((emptyServer.serveAll plainHost takeover).serve plainHost lateReport).store =
      (emptyServer.serveAll plainHost takeover).store := by
  have fenced := lease_fencing plainHost (small_run_reachable takeover (by decide +kernel))
  have second : (⟨"lease-2", "run-1", "owner", "device-desktop", 2, .active, 40, 70, 40, 0, ""⟩ :
      Lease) ∈ (emptyServer.serveAll plainHost takeover).store.leases := by decide +kernel
  exact (fenced.2.2 _ (.refl _)).2 _ second lateReport _ (Or.inl ⟨rfl, by decide⟩)
    ⟨by decide +kernel, rfl⟩

end AgentMate
