import AgentMate.TerminalStatus

/-! # No orphaned Run -/

namespace AgentMate

open TransitionSystem Table List Option

variable {Hash : Type}

def RunStatus.needsLease : RunStatus → Bool
  | .leased | .running | .waitingUser => true
  | _ => false

/-- Every such Run has exactly one active lease, of its current epoch. -/
def NoOrphan (store : Store Hash) : Prop :=
  ∀ run ∈ store.runs, run.status.needsLease = true →
    ∃ lease, (store.leases.filter fun row => row.runId = run.id && row.status = .active) =
      [lease] ∧ lease.leaseEpoch = run.leaseEpoch

def HeldInv (store : Store Hash) : Prop :=
  ∀ runId run, store.run? runId = some run → run.status.needsLease = true →
    ∃ lease ∈ store.leases, lease.runId = runId ∧ lease.status = .active

variable {now : Time} {store next : Store Hash}

theorem no_orphan_iff (inv : LeaseInv now store) : NoOrphan store ↔ HeldInv store := by
  constructor
  · intro noOrphan runId run found needs
    obtain ⟨lease, only, -⟩ := noOrphan run (run_mem found) needs
    have chosen : lease ∈ store.leases.filter fun row =>
        row.runId = run.id && row.status = .active := only ▸ mem_singleton.mpr rfl
    simp only [mem_filter, Bool.and_eq_true, decide_eq_true_eq] at chosen
    exact ⟨lease, chosen.1, chosen.2.1.trans (run_id found), chosen.2.2⟩
  · intro held run mem needs
    have found := run_of_mem inv.keyed mem
    obtain ⟨lease, leaseMem, sameRun, active⟩ := held run.id run found needs
    have chosen : lease ∈ store.leases.filter fun row =>
        row.runId = run.id && row.status = .active := by
      simp [leaseMem, sameRun, active]
    have bound := one_active_lease inv run.id
    obtain ⟨only, single⟩ : ∃ only, (store.leases.filter fun row =>
        row.runId = run.id && row.status = .active) = [only] :=
      length_eq_one_iff.mp (Nat.le_antisymm bound (length_pos_of_mem chosen))
    rw [single, mem_singleton] at chosen
    subst chosen
    refine ⟨lease, single, ?_⟩
    rw [← sameRun] at found
    exact (inv.active lease leaseMem active run found).1

theorem held_move {runId : String} {assign : Run → Run}
    (inv : HeldInv store) (frame : ∀ row, Run.Frame row (assign row))
    (runs : ∀ other, next.run? other = (store.updateRun runId assign).run? other)
    (own : ∀ run, store.run? runId = some run → (assign run).status.needsLease = true →
      ∃ lease ∈ next.leases, lease.runId = runId ∧ lease.status = .active)
    (others : ∀ lease ∈ store.leases, lease.runId ≠ runId → lease.status = .active →
      lease ∈ next.leases) : HeldInv next := by
  intro other run found needs
  rw [runs, run_update_run store frame] at found
  split at found
  · next same =>
    subst same
    obtain ⟨row, rowFound, rfl⟩ := map_eq_some_iff.mp found
    exact own row rowFound needs
  · next different =>
    obtain ⟨lease, mem, sameRun, active⟩ := inv other run found needs
    exact ⟨lease, others lease mem (sameRun ▸ different) active, sameRun, active⟩

theorem recovered_needs_none {old new : Run} (recovered : Recovered old new) :
    new.status.needsLease = false := by
  rcases recovered with ⟨terminal, same⟩ | ⟨-, paused⟩ | ⟨-, -, ⟨status, -⟩ | status⟩
  · rw [same]
    cases status : old.status <;> rw [status] at terminal <;> first | rfl | cases terminal
  · rw [paused]
    rfl
  · rw [status]
    rfl
  · rw [status]
    rfl

theorem effect_held (leaseInv : LeaseInv now store) (inv : HeldInv store)
    (effect : Effect now store next) : HeldInv next := by
  have absurdNeeds {status : RunStatus} (none : status.needsLease = false)
      (needs : status.needsLease = true) : False := by
    rw [none] at needs
    cases needs
  have kept (runId : String) (lease : Lease) (mem : lease ∈ store.leases)
      (_ : lease.runId ≠ runId) (_ : lease.status = .active) : lease ∈ store.leases := mem
  cases effect with
  | devices => exact inv
  | command => exact inv
  | create run absent queued =>
    intro runId row found needs
    by_cases same : run.id = runId
    · subst same
      have new : some row = some run :=
        found.symm.trans (lookup_append_self absent)
      cases new
      rw [queued] at needs
      cases needs
    · exact inv runId row ((lookup_append_singleton same).symm.trans found) needs
  | renew lease expiresAt mem live =>
    intro runId run found needs
    obtain ⟨held, heldMem, sameRun, active⟩ := inv runId run found needs
    refine ⟨_, mem_update_lease.mpr ⟨held, heldMem, rfl⟩, ?_⟩
    split <;> exact ⟨sameRun, active⟩
  | grant run assign lease found claimable admitted frame leased epoch runId owner leaseEpoch
        active =>
      refine held_move inv frame (fun _ => rfl) (fun _ _ _ => ?_) fun old mem _ _ =>
        mem_append_left _ mem
      exact ⟨lease, mem_append_right _ (mem_singleton.mpr rfl), runId, active⟩
  | release lease status assign business mem active cause move recovered =>
    refine held_move inv move.frame (fun _ => rfl) (fun row rowFound needs => ?_) ?_
    · exact (absurdNeeds (recovered_needs_none (recovered row rowFound)) needs).elim
    · intro other otherMem different _
      refine mem_update_of_not_chosen otherMem fun sameId => different ?_
      rw [unique_key_eq leaseInv.keyed.leases otherMem mem sameId]
  | abandon run assign business found paused idle move status =>
    refine held_move inv move.frame (fun _ => rfl) (fun row rowFound needs => ?_) ?_
    · cases found.symm.trans rowFound
      rcases status with status | ⟨-, status⟩ <;>
      · rw [status] at needs
        cases needs
    · intro other otherMem different _
      exact mem_update_of_not_chosen otherMem fun chosen => different chosen.1
  | endRun run assign business found status idle move ended =>
    refine held_move inv move.frame (fun _ => rfl) (fun row rowFound needs => ?_) (kept run.id)
    cases found.symm.trans rowFound
    rw [ended] at needs
    cases needs
  | pause run assign found claimable move paused =>
    refine held_move inv move.frame (fun _ => rfl) (fun row rowFound needs => ?_) (kept run.id)
    cases found.symm.trans rowFound
    rw [paused] at needs
    cases needs
  | mark runId assign move status =>
    refine held_move inv move.frame (fun _ => rfl) (fun row rowFound needs => ?_) (kept runId)
    rw [status] at needs
    exact inv runId row rowFound needs

theorem effects_held (leaseInv : LeaseInv now store) (inv : HeldInv store)
    (effects : Effects now store next) : HeldInv next := by
  induction effects with
  | refl => exact inv
  | tail before effect ih => exact effect_held (effects_lease_inv leaseInv before) ih effect

theorem terminal_event_writes {event : RunEvent Hash} :
    (eventKind event.eventType).isTerminal = true ↔
      ∃ status, event.status? = some status ∧ status.isTerminal = true := by
  unfold RunEvent.status?
  cases eventKind event.eventType <;> simp [EventKind.isTerminal, EventKind.status,
    RunStatus.isTerminal]

/-- If the new events of the batch end the Run, the status written last needs no
lease. -/
def EndsReleased (ack : Nat) (events : List (RunEvent Hash)) : Prop :=
  (∃ status ∈ writtenStatuses ack events, status.isTerminal = true) →
    ∀ status ∈ (writtenStatuses ack events).getLast?, status.needsLease = false

section

variable [DecidableEq Hash] {host : Host Hash} {now : Time}

theorem submit_events_held {store finish : Store Hash} {principal : DevicePrincipal}
    {runId leaseId : String} {leaseEpoch : Nat} {lease : Lease} {events : List (RunEvent Hash)}
    {reply : SubmitReply} (leaseInv : LeaseInv now store) (logInv : LogInv host store)
    (inv : HeldInv store)
    (current : currentLease store principal runId leaseId leaseEpoch = .ok lease)
    (done : submitEvents host store principal runId leaseId leaseEpoch events now =
      .ok (finish, reply)) :
    HeldInv finish ↔ EndsReleased lease.ackHighWater events := by
  obtain ⟨same, final, again, loop, rfl, -⟩ := submit_events_cases done
  cases current.symm.trans again
  have mem := (current_lease_ok current).1
  have start := start_batch_inv now leaseInv logInv current
  have applied := submit_batch_applied start loop
  obtain ⟨run, found, -⟩ := start.holding.run
  obtain ⟨moved, movedFound, -, -, status⟩ := applied_all_status applied found
  have others (other : String) (different : other ≠ lease.runId) :
      final.store.run? other = store.run? other := applied_all_other_run applied different
  have written : (freshEvents (Batch.start store lease).ack events).filterMap RunEvent.status? =
      writtenStatuses lease.ackHighWater events := rfl
  rw [written] at status
  -- the acknowledgement changes no row that the invariant reads
  have settled : HeldInv (final.store.updateLease lease.id (Lease.acknowledge final.ack)) ↔
      HeldInv final.store := by
    constructor
    · intro held runId row rowFound needs
      obtain ⟨row', row'Member, sameRun, active⟩ := held runId row rowFound needs
      obtain ⟨old, oldMem, rfl⟩ := mem_update_lease.mp row'Member
      refine ⟨old, oldMem, ?_⟩
      split at sameRun <;> split at active <;> exact ⟨sameRun, active⟩
    · intro held runId row rowFound needs
      obtain ⟨old, oldMem, sameRun, active⟩ := held runId row rowFound needs
      refine ⟨_, mem_update_lease.mpr ⟨old, oldMem, rfl⟩, ?_⟩
      split <;> exact ⟨sameRun, active⟩
  rw [settled]
  rcases applied_all_leases applied with ⟨rows, quiet⟩ | ⟨⟨ending, endingMem, ends⟩, eventId, rows⟩
  · -- no new event ends the Run: the lease stays as it is
    have nothing : ¬∃ status ∈ writtenStatuses lease.ackHighWater events,
        status.isTerminal = true := by
      rintro ⟨status, statusMem, terminal⟩
      obtain ⟨event, eventMem, writes⟩ := mem_filterMap.mp statusMem
      have isEnd := terminal_event_writes.mpr ⟨status, writes, terminal⟩
      rw [quiet event eventMem] at isEnd
      cases isEnd
    refine ⟨fun _ ended => absurd ended nothing, fun _ => ?_⟩
    intro runId row rowFound needs
    rw [rows]
    by_cases own : runId = lease.runId
    · subst own
      cases movedFound.symm.trans rowFound
      rcases applied_all_live applied with none | live
      · have unwritten : writtenStatuses lease.ackHighWater events = [] := by
          rw [← written, none, filterMap_nil]
        rw [status, unwritten] at needs
        exact inv lease.runId run found needs
      · simp only [Lease.isLive, Bool.and_eq_true, decide_eq_true_eq] at live
        exact ⟨lease, mem, rfl, live.1⟩
    · rw [others runId own] at rowFound
      exact inv runId row rowFound needs
  · -- a new event ends the Run: its lease is completed
    obtain ⟨endStatus, endWrites, endTerminal⟩ := terminal_event_writes.mp ends
    have ended : ∃ status ∈ writtenStatuses lease.ackHighWater events, status.isTerminal = true :=
      ⟨endStatus, mem_filterMap.mpr ⟨ending, endingMem, endWrites⟩, endTerminal⟩
    have live : lease.isLive now = true := by
      rcases applied_all_live applied with none | live
      · rw [none] at endingMem
        cases endingMem
      · exact live
    simp only [Lease.isLive, Bool.and_eq_true, decide_eq_true_eq] at live
    obtain ⟨last, lastWritten⟩ : ∃ last,
        (writtenStatuses lease.ackHighWater events).getLast? = some last := by
      obtain ⟨status, statusMem, -⟩ := ended
      exact ⟨_, getLast?_eq_some_getLast (ne_nil_of_mem statusMem)⟩
    rw [lastWritten, getD_some] at status
    have released : EndsReleased lease.ackHighWater events ↔ last.needsLease = false := by
      unfold EndsReleased
      rw [lastWritten]
      simp [ended]
    rw [released]
    constructor
    · intro held
      by_contra needs
      obtain ⟨row, rowMem, sameRun, active⟩ := held lease.runId moved movedFound
        (by rw [status]; simpa using needs)
      rw [rows] at rowMem
      obtain ⟨old, oldMem, rfl⟩ := mem_update_lease.mp rowMem
      by_cases sameId : old.id = lease.id
      · rw [if_pos sameId] at active
        cases active
      · rw [if_neg sameId] at active sameRun
        exact sameId (congrArg Lease.id
          (active_lease_unique leaseInv oldMem mem active live.1 sameRun))
    · intro needless runId row rowFound needs
      by_cases own : runId = lease.runId
      · subst own
        cases movedFound.symm.trans rowFound
        rw [status, needless] at needs
        cases needs
      · rw [others runId own] at rowFound
        obtain ⟨old, oldMem, sameRun, active⟩ := inv runId row rowFound needs
        refine ⟨old, ?_, sameRun, active⟩
        rw [rows]
        refine mem_update_of_not_chosen oldMem fun sameId => own ?_
        rw [← sameRun, unique_key_eq leaseInv.keyed.leases oldMem mem sameId]

end

/-- A batch submitted under a current lease ends in a status that fits its lease. -/
def SubmitsReleased (server : Server Hash) (action : Server.Action Hash) : Prop :=
  match action.call with
  | .submitEvents principal runId leaseId leaseEpoch events =>
    ∀ lease, currentLease server.store principal runId leaseId leaseEpoch = .ok lease →
      EndsReleased lease.ackHighWater events
  | _ => True

section

variable [DecidableEq Hash] {host : Host Hash}

theorem server_held {server : Server Hash}
    (reachable : (serverMachine host).Reachable SubmitsReleased server) :
    HeldInv server.store := by
  have all : LeaseInv server.now server.store ∧ LogInv host server.store ∧
      HeldInv server.store := by
    refine reachable_invariant
      (fun server => LeaseInv server.now server.store ∧ LogInv host server.store ∧
        HeldInv server.store) ?_ ?_ reachable
    · intro start fresh
      refine ⟨fresh_lease_inv fresh, fresh_log_inv fresh, fun runId run found _ => ?_⟩
      have mem := run_mem found
      rw [fresh.runs] at mem
      cases mem
    · rintro server action next ⟨leaseInv, logInv, inv⟩ released step
      obtain ⟨order, rfl⟩ := step
      have later := lease_inv_later leaseInv order
      refine ⟨server_step_lease_inv leaseInv ⟨order, rfl⟩,
        commit_cases (LogInv host) logInv fun _ done => perform_log_inv later logInv done, ?_⟩
      refine commit_cases HeldInv inv fun after done => ?_
      rcases perform_cases leaseInv.keyed done with effects | ⟨_, _, _, _, _, _, call, submit⟩
      · exact effects_held later inv effects
      · obtain ⟨lease, -, current, -⟩ := submit_events_cases submit
        rw [SubmitsReleased, call] at released
        exact (submit_events_held later logInv inv current submit).mpr (released lease current)
  exact all.2.2

end

/-- In every run whose batches all meet the condition no Run is orphaned; and an
accepted batch leaves no Run orphaned exactly when it meets the condition. -/
theorem no_orphaned_run [DecidableEq Hash] (host : Host Hash) {server : Server Hash}
    (reachable : (serverMachine host).Reachable SubmitsReleased server) :
    NoOrphan server.store ∧
    ∀ principal runId leaseId leaseEpoch lease events now accepted, server.now ≤ now →
      currentLease server.store principal runId leaseId leaseEpoch = .ok lease →
      submitEvents host server.store principal runId leaseId leaseEpoch events now = .ok accepted →
      (NoOrphan accepted.1 ↔ EndsReleased lease.ackHighWater events) := by
  have leaseInv := server_lease_inv reachable
  have held := server_held reachable
  refine ⟨(no_orphan_iff leaseInv).mpr held, ?_⟩
  rintro principal runId leaseId leaseEpoch lease events now ⟨finish, reply⟩ order current done
  have later := lease_inv_later leaseInv order
  rw [no_orphan_iff (submit_events_lease_inv later done)]
  exact submit_events_held later (server_log_inv reachable) held current done

theorem leased_run_not_orphaned : NoOrphan (emptyServer.serveAll plainHost leasedRun).store ∧
      ∃ accepted, submitEvents plainHost (emptyServer.serveAll plainHost leasedRun).store laptop
        "run-1" "lease-1" 1 startThenEnd 3 = .ok accepted ∧ NoOrphan accepted.1 := by
  have reachable : (serverMachine plainHost).Reachable SubmitsReleased
      (emptyServer.serveAll plainHost leasedRun) := by
    refine ⟨emptyServer, empty_server_initial, ?_⟩
    let create : Server.Action Envelope := ⟨1, .createRun (plainDraft "run-1")⟩
    let lease : Server.Action Envelope := ⟨2, .leaseRun laptop 30 "lease-1"⟩
    have created : (serverMachine plainHost).Step emptyServer create
        (emptyServer.serve plainHost create) := ⟨by decide +kernel, rfl⟩
    have leased : (serverMachine plainHost).Step (emptyServer.serve plainHost create) lease
        (emptyServer.serveAll plainHost leasedRun) := ⟨by decide +kernel, rfl⟩
    have createGuard : SubmitsReleased emptyServer create := trivial
    have leaseGuard : SubmitsReleased (emptyServer.serve plainHost create) lease := trivial
    exact .step (.step (.refl emptyServer) createGuard created) leaseGuard leased
  have noOrphan := no_orphaned_run plainHost reachable
  obtain ⟨accepted, done⟩ := Rollback.exists_ok (show (submitEvents plainHost
    (emptyServer.serveAll plainHost leasedRun).store laptop "run-1" "lease-1" 1 startThenEnd
    3).isOk = true by decide +kernel)
  refine ⟨noOrphan.1, accepted, done, ?_⟩
  refine (noOrphan.2 laptop "run-1" "lease-1" 1 firstLease startThenEnd 3 accepted
    (by decide +kernel) leased_run_current done).mpr fun _ status last => ?_
  have ended : (writtenStatuses firstLease.ackHighWater startThenEnd).getLast? =
      some .completed := by decide +kernel
  rw [ended] at last
  cases last
  rfl

theorem orphan_reachable :
    ¬∀ server, (serverMachine plainHost).Reachable Anything server → NoOrphan server.store := by
  intro noOrphan
  let actions : List (Server.Action Envelope) :=
    leasedRun ++ [⟨3, .submitEvents laptop "run-1" "lease-1" 1 endThenStart⟩]
  have reachable := small_run_reachable actions (by decide +kernel)
  have shape : (emptyServer.serveAll plainHost actions).store.runs.map
      (fun run => (run.id, run.status)) = [("run-1", .running)] := by decide +kernel
  have unleased : (emptyServer.serveAll plainHost actions).store.leases.filter (fun row =>
      row.runId = "run-1" && row.status = .active) = [] := by decide +kernel
  obtain ⟨run, mem, columns⟩ := List.mem_map.mp
    (show ("run-1", RunStatus.running) ∈ _ from shape ▸ mem_singleton.mpr rfl)
  obtain ⟨id, status⟩ := Prod.mk.inj columns
  obtain ⟨lease, only, -⟩ := noOrphan _ reachable run mem (by rw [status]; rfl)
  rw [id, unleased] at only
  cases only

end AgentMate
