import AgentMate.RunLog

/-! # Bounded re-execution and the fail-closed pause -/

namespace AgentMate

open TransitionSystem List

variable {Hash : Type}

/-- The epoch of a Run against its recoveries; a claimable Run has one to spare. -/
structure RecoveryInv (run : Run) : Prop where
  recovered : run.leaseEpoch ≤ run.recoveryCount + 1
  limited : run.leaseEpoch ≤ run.maxRecoveries + 1
  claimable : run.status.isClaimable = true →
    run.leaseEpoch ≤ run.recoveryCount ∧ run.leaseEpoch ≤ run.maxRecoveries

def RecoveriesBounded (store : Store Hash) : Prop :=
  ∀ runId run, store.run? runId = some run → RecoveryInv run

section

variable {now : Time} {store next : Store Hash}

theorem Run.Frame.maxRecoveries {old new : Run} (frame : Run.Frame old new) :
    new.maxRecoveries = old.maxRecoveries := by
  rw [show new = _ from frame]

theorem run_change_bounded {old new : Run} (inv : RecoveryInv old) (frame : Run.Frame old new)
    (recoveries : old.recoveryCount ≤ new.recoveryCount) (change : RunChange now store old new) :
    RecoveryInv new := by
  have limit := frame.maxRecoveries
  have recovered := inv.recovered
  have limited := inv.limited
  have unclaimable {status : RunStatus} (same : new.status = status)
      (held : status.isClaimable = false) (claimable : new.status.isClaimable = true) : False := by
    rw [same, held] at claimable
    cases claimable
  cases change with
  | kept status epoch =>
    refine ⟨by omega, by omega, fun claimable => ?_⟩
    rw [status] at claimable
    have spare := inv.claimable claimable
    omega
  | leased claimable leased epoch =>
    have spare := inv.claimable claimable
    exact ⟨by omega, by omega, fun claimed => (unclaimable leased rfl claimed).elim⟩
  | recovered epoch outcome =>
    refine ⟨by omega, by omega, fun claimable => ?_⟩
    rcases outcome with ⟨terminal, same⟩ | ⟨-, paused⟩ | ⟨-, -, ⟨-, counted, within⟩ | failed⟩
    · rw [same] at claimable
      rw [claimable_open claimable] at terminal
      cases terminal
    · exact (unclaimable paused rfl claimable).elim
    · omega
    · exact (unclaimable failed rfl claimable).elim
  | withdrawn epoch claimable status =>
    refine ⟨by omega, by omega, fun claimed => ?_⟩
    rcases status with paused | cancelled
    · exact (unclaimable paused rfl claimed).elim
    · exact (unclaimable cancelled rfl claimed).elim
  | unpaused epoch paused idle status =>
    refine ⟨by omega, by omega, fun claimed => ?_⟩
    rcases status with cancelled | failed | ⟨unleased, -⟩
    · exact (unclaimable cancelled rfl claimed).elim
    · exact (unclaimable failed rfl claimed).elim
    · omega

theorem effect_bounded (inv : RecoveriesBounded store) (effect : Effect now store next) :
    RecoveriesBounded next := by
  intro runId after afterFound
  cases found : store.run? runId with
  | none =>
    obtain ⟨-, epoch⟩ := effect_new_run effect found afterFound
    exact ⟨by omega, by omega, fun _ => by omega⟩
  | some run =>
    obtain ⟨moved, movedFound, frame, recoveries, change⟩ := effect_run_change effect found
    cases movedFound.symm.trans afterFound
    exact run_change_bounded (inv runId run found) frame recoveries change

theorem effects_bounded (inv : RecoveriesBounded store) (effects : Effects now store next) :
    RecoveriesBounded next := by
  induction effects with
  | refl => exact inv
  | tail _ effect ih => exact effect_bounded ih effect

theorem event_status_not_claimable {event : RunEvent Hash} {status : RunStatus}
    (writes : event.status? = some status) : status.isClaimable = false := by
  unfold RunEvent.status? at writes
  cases kind : eventKind event.eventType <;> rw [kind] at writes <;> cases writes <;> rfl

theorem leases_bounded (inv : LeaseInv now store)
    {runId : String} {run : Run} (found : store.run? runId = some run) :
    (store.leases.filter fun lease => lease.runId = runId).length ≤ run.leaseEpoch := by
  let held := store.leases.filter fun lease => lease.runId = runId
  have distinct : (held.map Lease.leaseEpoch).Nodup := by
    rw [List.Nodup, pairwise_map]
    refine (inv.epochs.sublist filter_sublist).imp_of_mem ?_
    intro earlier later earlierMem laterMem order
    have earlierRun : earlier.runId = runId := by simpa using (mem_filter.mp earlierMem).2
    have laterRun : later.runId = runId := by simpa using (mem_filter.mp laterMem).2
    exact Nat.ne_of_lt (order (earlierRun.trans laterRun.symm))
  have within : held.map Lease.leaseEpoch ⊆ List.range' 1 run.leaseEpoch := by
    intro epoch mem
    obtain ⟨lease, heldMem, rfl⟩ := mem_map.mp mem
    obtain ⟨leaseMem, sameRun⟩ := mem_filter.mp heldMem
    obtain ⟨holder, holderFound, -, positive, bound⟩ := inv.held lease leaseMem
    rw [show lease.runId = runId by simpa using sameRun, found] at holderFound
    cases holderFound
    rw [mem_range'_1]
    omega
  have counted := (subperm_of_subset distinct within).length_le
  rwa [length_map, length_range'] at counted

end

/-- The Run was leased up to `epoch`, is paused or has ended, and no device holds it. -/
structure Shelved (now : Time) (store : Store Hash) (runId : String) (epoch : Nat) : Prop where
  leased : 1 ≤ epoch
  run : ∃ run, store.run? runId = some run ∧ run.leaseEpoch = epoch ∧
    (run.status = .paused ∨ run.status.isTerminal = true)
  idle : store.hasLiveLease runId now = false

section

variable {now : Time} {store next : Store Hash} {runId : String} {epoch : Nat}

theorem not_live_iff : store.hasLiveLease runId now = false ↔
    ∀ lease ∈ store.leases, lease.runId = runId → lease.isLive now = false := by
  simp [Store.hasLiveLease, any_eq_false]

theorem not_live_later {later : Time} (idle : store.hasLiveLease runId now = false)
    (order : now ≤ later) : store.hasLiveLease runId later = false := by
  rw [not_live_iff] at idle ⊢
  intro lease mem sameRun
  have dead := idle lease mem sameRun
  simp only [Lease.isLive, Bool.and_eq_false_iff, decide_eq_false_iff_not, not_lt] at dead ⊢
  exact dead.imp id fun expired => expired.trans order

theorem not_live_map (assign : Lease → Lease) (rows : next.leases = store.leases.map assign)
    (keeps : ∀ lease ∈ store.leases, (assign lease).runId = lease.runId ∧
      (lease.runId = runId → (assign lease).isLive now = true → lease.isLive now = true))
    (idle : store.hasLiveLease runId now = false) : next.hasLiveLease runId now = false := by
  rw [not_live_iff] at idle ⊢
  intro lease mem sameRun
  rw [rows] at mem
  obtain ⟨old, oldMem, rfl⟩ := mem_map.mp mem
  obtain ⟨same, alive⟩ := keeps old oldMem
  have oldRun : old.runId = runId := same.symm.trans sameRun
  cases live : (assign old).isLive now with
  | false => rfl
  | true =>
    have dead := idle old oldMem oldRun
    rw [alive oldRun live] at dead
    cases dead

theorem not_live_settled {lease : Lease} {assign : Lease → Lease}
    (keeps : ∀ row, (assign row).runId = row.runId ∧
      ((assign row).isLive now = true → row.isLive now = true))
    (idle : store.hasLiveLease runId now = false) :
    (store.updateLease lease.id assign).hasLiveLease runId now = false := by
  refine not_live_map _ (update_lease_map store lease.id assign) (fun row _ => ?_) idle
  split
  · exact ⟨(keeps row).1, fun _ => (keeps row).2⟩
  · exact ⟨rfl, fun _ live => live⟩

theorem shelved_not_claimable {run : Run} (status : run.status = .paused ∨
    run.status.isTerminal = true) : run.status.isClaimable = false := by
  rcases status with paused | terminal
  · rw [paused]
    rfl
  · cases claimable : run.status.isClaimable with
    | false => rfl
    | true =>
      rw [claimable_open claimable] at terminal
      cases terminal

theorem effect_not_live (keyed : store.Keyed) {run : Run} (found : store.run? runId = some run)
    (held : run.status.isClaimable = false) (idle : store.hasLiveLease runId now = false)
    (effect : Effect now store next) : next.hasLiveLease runId now = false := by
  have dead := not_live_iff.mp idle
  cases effect with
  | devices => exact idle
  | command => exact idle
  | create => exact idle
  | endRun => exact idle
  | pause => exact idle
  | mark => exact idle
  | renew lease expiresAt mem live =>
    -- only a live lease is renewed, and its key names one row
    refine not_live_map _ (update_lease_map store lease.id _) (fun row rowMem => ?_) idle
    split
    · next sameId =>
      refine ⟨rfl, fun _ _ => ?_⟩
      rw [Table.unique_key_eq keyed.leases rowMem mem sameId]
      exact live
    · exact ⟨rfl, fun _ alive => alive⟩
  | grant chosen assign lease chosenFound claimable admitted frame leased epoch leaseRun =>
    rw [not_live_iff]
    intro row rowMem sameRun
    rcases mem_append.mp rowMem with old | new
    · exact dead row old sameRun
    · rw [mem_singleton.mp new, leaseRun] at sameRun
      rw [sameRun, found] at chosenFound
      cases chosenFound
      rw [held] at claimable
      cases claimable
  | release lease status assign business mem active cause move =>
    have dead : ∀ row : Lease, (row.setStatus status).runId = row.runId ∧
        ((row.setStatus status).isLive now = true → row.isLive now = true) := by
      intro row
      apply And.intro rfl
      intro alive
      simp only [Lease.isLive, Lease.setStatus, Bool.and_eq_true] at alive
      rcases cause with revoked | ⟨expired, -⟩
      · rw [revoked] at alive
        cases alive.1
      · rw [expired] at alive
        cases alive.1
    exact @not_live_settled _ _ _ _ lease _ dead idle
  | abandon chosen assign business chosenFound paused quiet move =>
    refine not_live_map _ rfl (fun row rowMem => ?_) idle
    split
    · refine ⟨rfl, fun _ alive => ?_⟩
      simp [Lease.isLive, Lease.setStatus] at alive
    · exact ⟨rfl, fun _ alive => alive⟩

theorem effect_shelved (keyed : store.Keyed) (shelved : Shelved now store runId epoch)
    (effect : Effect now store next) : Shelved now next runId epoch := by
  obtain ⟨leased, ⟨run, found, sameEpoch, status⟩, idle⟩ := shelved
  have held := shelved_not_claimable status
  have never (claimable : run.status.isClaimable = true) : False := by
    rw [held] at claimable
    cases claimable
  obtain ⟨after, afterFound, frame, -, change⟩ := effect_run_change effect found
  refine ⟨leased, ⟨after, afterFound, ?_⟩, effect_not_live keyed found held idle effect⟩
  cases change with
  | kept sameStatus kept => exact ⟨by omega, by rw [sameStatus]; exact status⟩
  | leased claimable => exact (never claimable).elim
  | withdrawn kept claimable => exact (never claimable).elim
  | recovered kept outcome =>
    refine ⟨by omega, ?_⟩
    rcases outcome with ⟨terminal, same⟩ | ⟨-, paused⟩ | ⟨open_, notPaused, -⟩
    · exact Or.inr (by rw [same]; exact terminal)
    · exact Or.inl paused
    · rcases status with paused | terminal
      · exact absurd paused notPaused
      · rw [open_] at terminal
        cases terminal
  | unpaused kept paused quiet outcome =>
    refine ⟨by omega, ?_⟩
    rcases outcome with cancelled | failed | ⟨unleased, -⟩
    · exact Or.inr (by rw [cancelled]; rfl)
    · exact Or.inr (by rw [failed]; rfl)
    · omega

theorem effects_shelved (keyed : store.Keyed) (shelved : Shelved now store runId epoch)
    (effects : Effects now store next) : Shelved now next runId epoch := by
  induction effects with
  | refl => exact shelved
  | tail before effect ih => exact effect_shelved (effects_keyed keyed before) ih effect

end

section

variable [DecidableEq Hash] {host : Host Hash}

theorem server_bounded {server : Server Hash}
    (reachable : (serverMachine host).Reachable Anything server) :
    RecoveriesBounded server.store := by
  obtain ⟨start, fresh, path⟩ := reachable
  apply path_stable (fun server => RecoveriesBounded server.store) ⟨start, fresh, .refl start⟩
    ?_ ?_ path
  · intro server action next reached inv _ step
    rcases server_step_cases (server_lease_inv reached) (server_log_inv reached) step with
      effects | ⟨lease, events, final, -, start, applied, -, same⟩
    · exact effects_bounded inv effects
    · intro runId after afterFound
      rw [same] at afterFound
      by_cases own : runId = lease.runId
      · subst own
        obtain ⟨run, found, -⟩ := start.holding.run
        obtain ⟨moved, movedFound, frame, epoch, status⟩ := applied_all_status applied found
        cases movedFound.symm.trans afterFound
        have counted := applied_all_column Run.recoveryCount (fun _ _ _ _ _ => rfl) applied
          lease.runId
        rw [movedFound, found] at counted
        have count : after.recoveryCount = run.recoveryCount := Option.some.inj counted
        have before := inv lease.runId run found
        have limit := frame.maxRecoveries
        refine ⟨by have := before.recovered; omega, by have := before.limited; omega, ?_⟩
        intro claimable
        rw [status] at claimable
        cases last : (events.filterMap RunEvent.status?).getLast? with
        | none =>
          rw [last, Option.getD_none] at claimable
          have spare := before.claimable claimable
          omega
        | some written =>
          obtain ⟨event, -, writes⟩ := mem_filterMap.mp (mem_of_getLast? last)
          rw [last, Option.getD_some, event_status_not_claimable writes] at claimable
          cases claimable
      · exact inv runId after ((applied_all_other_run applied own).symm.trans afterFound)
  · intro runId run found
    have mem := run_mem found
    rw [fresh.runs] at mem
    cases mem

theorem server_step_shelved {server next : Server Hash} {action : Server.Action Hash}
    {runId : String} {epoch : Nat} (reachable : (serverMachine host).Reachable Anything server)
    (shelved : Shelved server.now server.store runId epoch)
    (step : (serverMachine host).Step server action next) :
    Shelved next.now next.store runId epoch := by
  have keyed := (server_lease_inv reachable).keyed
  obtain ⟨order, nextNow⟩ : server.now ≤ action.now ∧ next.now = action.now :=
    ⟨step.1, by rw [step.2]; rfl⟩
  have later : Shelved action.now server.store runId epoch :=
    ⟨shelved.leased, shelved.run, not_live_later shelved.idle order⟩
  rw [nextNow]
  rcases server_step_cases (server_lease_inv reachable) (server_log_inv reachable) step with
    effects | ⟨lease, events, final, mem, start, applied, -, same⟩
  · exact effects_shelved keyed later effects
  · rw [same]
    have idle : final.store.hasLiveLease runId action.now = false := by
      rcases applied_all_leases applied with ⟨rows, -⟩ | ⟨-, eventId, rows⟩
      · rw [Store.hasLiveLease, rows]
        exact later.idle
      · rw [Store.hasLiveLease, rows]
        refine not_live_settled (fun row => ⟨rfl, fun alive => ?_⟩) later.idle
        simp [Lease.isLive, Lease.complete] at alive
    refine ⟨later.leased, ?_, not_live_settled (fun row => ⟨rfl, fun alive => alive⟩) idle⟩
    obtain ⟨run, found, sameEpoch, status⟩ := later.run
    by_cases own : runId = lease.runId
    · subst own
      -- without a live lease the batch adds nothing
      have nothing : events = [] := by
        refine (applied_all_live applied).resolve_right fun live => ?_
        rw [not_live_iff.mp later.idle lease mem rfl] at live
        cases live
      rw [nothing] at applied
      cases applied
      exact ⟨run, found, sameEpoch, status⟩
    · exact ⟨run, (applied_all_other_run applied own).trans found, sameEpoch, status⟩

end

/-- No Run is leased more often than its recoveries allow; and a leased Run that is
paused while no device holds it stays paused until it ends, and resuming fails it. -/
theorem reexecution_bounded [DecidableEq Hash] (host : Host Hash) {server : Server Hash}
    (reachable : (serverMachine host).Reachable Anything server) {runId : String} {run : Run}
    (found : server.store.run? runId = some run) :
    (run.leaseEpoch ≤ run.recoveryCount + 1 ∧ run.leaseEpoch ≤ run.maxRecoveries + 1 ∧
      (server.store.leases.filter fun lease => lease.runId = runId).length ≤
        run.maxRecoveries + 1) ∧
    (1 ≤ run.leaseEpoch → run.status = .paused →
      server.store.hasLiveLease runId server.now = false →
      (∀ later, (serverMachine host).Path Anything server later →
        ∃ after, later.store.run? runId = some after ∧ after.leaseEpoch = run.leaseEpoch ∧
          (after.status = .paused ∨ after.status.isTerminal = true)) ∧
      ∀ ownerId commandId now next, server.now ≤ now →
        requestResume host.toPyText server.store runId ownerId commandId now = .ok next →
        (next.run? runId).map Run.status = some .failed) := by
  have leaseInv := server_lease_inv reachable
  have bound := server_bounded reachable runId run found
  refine ⟨⟨bound.recovered, bound.limited, (leases_bounded leaseInv found).trans bound.limited⟩, ?_⟩
  intro leased paused idle
  constructor
  · intro later path
    have shelved : Shelved server.now server.store runId run.leaseEpoch :=
      ⟨leased, ⟨run, found, rfl, Or.inl paused⟩, idle⟩
    have last := path_stable (fun server => Shelved server.now server.store runId run.leaseEpoch)
      reachable (fun _ _ _ reached holds _ step => server_step_shelved reached holds step)
      shelved path
    exact last.run
  · intro ownerId commandId now next order done
    obtain ⟨owned, isOwned, rest⟩ := Rollback.bind_ok done
    cases found.symm.trans (owned_run_ok isOwned).1
    have dead := not_live_later idle order
    rw [if_neg (by simp [paused]), if_neg (by simp [dead]), if_neg (by omega)] at rest
    obtain rfl := run_id found
    have expired : (server.store.expireLeasesOf run.id).run? run.id = some run := found
    obtain ⟨assign, business, rfl, move, status⟩ :=
      server_terminal_cases expired (by rw [paused]; rfl) rfl rest
    have committed : ({ server.store.expireLeasesOf run.id with
        business := business } : Store Hash).run? run.id = some run := found
    rw [run_update_self move.frame committed]
    exact congrArg some (status run)

def pausedRun : List (Server.Action Envelope) :=
  [⟨1, .createRun (plainDraft "run-1")⟩, ⟨2, .leaseRun laptop 30 "lease-1"⟩,
    ⟨3, .submitEvents laptop "run-1" "lease-1" 1
      [plainEvent laptop "run-1" 1 1 "event-1" "run.paused" (.obj [])]⟩,
    ⟨100, .expireLeases none⟩]

theorem paused_run_fails_closed :
    ∃ next, requestResume plainHost.toPyText (emptyServer.serveAll plainHost pausedRun).store
        "run-1" "owner" "command-1" 101 = .ok next ∧
      (next.run? "run-1").map Run.status = some .failed := by
  obtain ⟨run, found⟩ : ∃ run,
      (emptyServer.serveAll plainHost pausedRun).store.run? "run-1" = some run :=
    Option.isSome_iff_exists.mp (by decide +kernel)
  have columns : ((emptyServer.serveAll plainHost pausedRun).store.run? "run-1").map
      (fun run => (run.leaseEpoch, run.status)) = some (1, .paused) := by decide +kernel
  rw [found] at columns
  obtain ⟨epoch, status⟩ := Prod.mk.inj (Option.some.inj columns)
  have closed := (reexecution_bounded plainHost (small_run_reachable pausedRun (by decide +kernel))
    found).2 (Nat.le_of_eq epoch.symm) status (by decide +kernel)
  obtain ⟨next, done⟩ := Rollback.exists_ok (show (requestResume plainHost.toPyText
    (emptyServer.serveAll plainHost pausedRun).store "run-1" "owner" "command-1" 101).isOk = true
    by decide +kernel)
  exact ⟨next, done, closed.2 "owner" "command-1" 101 next (by decide +kernel) done⟩

end AgentMate
