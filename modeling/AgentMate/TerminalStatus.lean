import AgentMate.EventReplay

/-! # Terminal Runs -/

namespace AgentMate

open TransitionSystem List Option

variable {Hash : Type}

def StatusKept (store next : Store Hash) : Prop :=
  ∀ runId run, store.run? runId = some run → run.status.isTerminal = true →
    ∃ after, next.run? runId = some after ∧ after.status = run.status

theorem status_kept_refl (store : Store Hash) : StatusKept store store :=
  fun _ run found _ => ⟨run, found, rfl⟩

theorem status_kept_trans {store middle next : Store Hash} (first : StatusKept store middle)
    (second : StatusKept middle next) : StatusKept store next := by
  intro runId run found terminal
  obtain ⟨between, betweenFound, same⟩ := first runId run found terminal
  obtain ⟨after, afterFound, still⟩ := second runId between betweenFound (by rw [same]; exact terminal)
  exact ⟨after, afterFound, still.trans same⟩

theorem move_status_kept (store : Store Hash) {runId : String} {assign : Run → Run}
    (frame : ∀ row, Run.Frame row (assign row))
    (own : ∀ run, store.run? runId = some run → run.status.isTerminal = true →
      (assign run).status = run.status) : StatusKept store (store.updateRun runId assign) := by
  intro other run found terminal
  rw [run_update_run store frame, found]
  split
  · next same =>
    subst same
    exact ⟨assign run, rfl, own run found terminal⟩
  · exact ⟨run, rfl, rfl⟩

variable {now : Time} {store next : Store Hash}

theorem effect_status_kept (effect : Effect now store next) : StatusKept store next := by
  have never {run row : Run} (found : store.run? run.id = some run)
      (rowFound : store.run? run.id = some row) (open_ : run.status.isTerminal = false)
      (terminal : row.status.isTerminal = true) : False := by
    cases found.symm.trans rowFound
    rw [open_] at terminal
    cases terminal
  cases effect with
  | devices => exact status_kept_refl store
  | command => exact status_kept_refl store
  | renew => exact status_kept_refl store
  | create run absent =>
    intro runId row found _
    have different : run.id ≠ runId := by
      rintro rfl
      rw [absent] at found
      cases found
    exact ⟨row, (Table.lookup_append_singleton different).trans found, rfl⟩
  | grant run assign lease found claimable admitted frame =>
    exact move_status_kept store frame fun row rowFound terminal =>
      (never found rowFound (claimable_open claimable) terminal).elim
  | release lease status assign business mem active cause move recovered =>
    refine move_status_kept { store with business := business } move.frame fun row rowFound terminal => ?_
    rcases recovered row rowFound with ⟨-, same⟩ | ⟨paused, -⟩ | ⟨open_, -⟩
    · exact same
    · rw [paused] at terminal
      cases terminal
    · rw [open_] at terminal
      cases terminal
  | abandon run assign business found paused idle move =>
    refine move_status_kept { store with business := business } move.frame fun row rowFound terminal =>
      (never found rowFound ?_ terminal).elim
    rw [paused]
    rfl
  | endRun run assign business found status idle move =>
    refine move_status_kept { store with business := business } move.frame fun row rowFound terminal =>
      (never found rowFound ?_ terminal).elim
    rcases status with claimable | paused
    · exact claimable_open claimable
    · rw [paused]
      rfl
  | pause run assign found claimable move =>
    exact move_status_kept store move.frame fun row rowFound terminal =>
      (never found rowFound (claimable_open claimable) terminal).elim
  | mark runId assign move status => exact move_status_kept store move.frame fun row _ _ => status row

theorem effects_status_kept (effects : Effects now store next) : StatusKept store next := by
  induction effects with
  | refl => exact status_kept_refl store
  | tail _ effect ih => exact status_kept_trans ih (effect_status_kept effect)

theorem live_lease_open {lease : Lease} (inv : LeaseInv now store) (mem : lease ∈ store.leases)
    (live : lease.isLive now = true) {run : Run} (found : store.run? lease.runId = some run) :
    run.status.isTerminal = false := by
  have resident := live_resident inv mem live found
  cases status : run.status <;> rw [status] at resident <;> first | rfl | cases resident

def EndKept (earlier later : RunStatus) : Prop :=
  earlier.isTerminal = true → later = earlier

instance : DecidableRel EndKept := fun _ _ => inferInstanceAs (Decidable (_ → _))

theorem applied_status_kept {host : Host Hash} {lease : Lease} {batch next : Batch Hash}
    {event : RunEvent Hash} (applied : Applied host lease now batch next event) {run : Run}
    (found : batch.store.run? lease.runId = some run) :
    StatusKept batch.store next.store ↔ EndKept run.status (event.status?.getD run.status) := by
  obtain ⟨moved, movedFound, -, -, status⟩ := applied_run applied found
  constructor
  · intro kept terminal
    obtain ⟨after, afterFound, same⟩ := kept lease.runId run found terminal
    cases movedFound.symm.trans afterFound
    exact status.symm.trans same
  · intro kept other row rowFound terminal
    by_cases same : other = lease.runId
    · subst same
      cases found.symm.trans rowFound
      exact ⟨moved, movedFound, status.trans (kept terminal)⟩
    · exact ⟨row, (applied_other_run applied same).trans rowFound, rfl⟩

theorem end_kept_cons {status written : RunStatus} {others : List RunStatus} :
    (status :: written :: others).Pairwise EndKept ↔
      EndKept status written ∧ (written :: others).Pairwise EndKept := by
  constructor
  · intro all
    rw [pairwise_cons] at all
    exact ⟨all.1 written mem_cons_self, all.2⟩
  · rintro ⟨first, rest⟩
    refine pairwise_cons.mpr ⟨fun other mem terminal => ?_, rest⟩
    have same : written = status := first terminal
    rcases mem_cons.mp mem with rfl | mem
    · exact same
    · have later := (pairwise_cons.mp rest).1 other mem
      rw [same] at later
      exact later terminal

def NothingAfterEnd (ack : Nat) (events : List (RunEvent Hash)) : Prop :=
  (writtenStatuses ack events).Pairwise EndKept

instance (ack : Nat) (events : List (RunEvent Hash)) : Decidable (NothingAfterEnd ack events) :=
  inferInstanceAs (Decidable (List.Pairwise _ _))

section

variable [DecidableEq Hash] {host : Host Hash} {lease : Lease} {now : Time}

variable {batch final : Batch Hash} {events : List (RunEvent Hash)} {principal : DevicePrincipal}

theorem applied_all_other_run (applied : AppliedAll host lease now batch events final)
    {other : String} (different : other ≠ lease.runId) :
    final.store.run? other = batch.store.run? other := by
  induction applied with
  | nil => rfl
  | cons _ _ first _ ih => exact ih.trans (applied_other_run first different)

theorem submit_events_status_kept {store finish : Store Hash}
    {runId leaseId : String} {leaseEpoch : Nat}
    {reply : SubmitReply} (leaseInv : LeaseInv now store) (logInv : LogInv host store)
    (done : submitEvents host store principal runId leaseId leaseEpoch events now =
      .ok (finish, reply)) : StatusKept store finish := by
  obtain ⟨lease, final, current, loop, rfl, -⟩ := submit_events_cases done
  have applied := submit_batch_applied (start_batch_inv now leaseInv logInv current) loop
  intro other run found terminal
  by_cases same : other = lease.runId
  · subst same
    rcases applied_all_live applied with none | live
    · rw [none] at applied
      cases applied
      exact ⟨run, found, rfl⟩
    · rw [live_lease_open leaseInv (current_lease_ok current).1 live found] at terminal
      cases terminal
  · exact ⟨run, (applied_all_other_run applied same).trans found, rfl⟩

theorem server_step_status_kept {server next : Server Hash} {action : Server.Action Hash}
    (leaseInv : LeaseInv server.now server.store) (logInv : LogInv host server.store)
    (step : (serverMachine host).Step server action next) :
    StatusKept server.store next.store := by
  obtain ⟨order, rfl⟩ := step
  refine commit_cases (StatusKept server.store) (status_kept_refl server.store) fun after done => ?_
  rcases perform_cases leaseInv.keyed done with effects | ⟨_, _, _, _, _, _, -, submit⟩
  · exact effects_status_kept effects
  · exact submit_events_status_kept (lease_inv_later leaseInv order) logInv submit

theorem server_path_status_kept {server later : Server Hash}
    (reachable : (serverMachine host).Reachable Anything server)
    (path : (serverMachine host).Path Anything server later) :
    StatusKept server.store later.store :=
  path_stable (fun after => StatusKept server.store after.store) reachable
    (fun _ _ _ reached before _ step => status_kept_trans before
      (server_step_status_kept (server_lease_inv reached) (server_log_inv reached) step))
    (status_kept_refl server.store) path

def BatchKept (host : Host Hash) (lease : Lease) (now : Time) :
    Batch Hash → List (RunEvent Hash) → Prop
  | _, [] => True
  | batch, event :: rest => ∀ next, submitEvent host lease now batch event = .ok next →
      StatusKept batch.store next.store ∧ BatchKept host lease now next rest

theorem batch_kept_iff {run : Run} (inv : BatchInv host now lease batch)
    (found : batch.store.run? lease.runId = some run)
    (done : events.foldlM (submitEvent host lease now) batch = .ok final) :
    BatchKept host lease now batch events ↔
      (run.status :: writtenStatuses batch.ack events).Pairwise EndKept := by
  induction events generalizing batch run with
  | nil => simp [BatchKept, writtenStatuses, freshEvents]
  | cons event rest ih =>
    obtain ⟨middle, pass, remaining⟩ := Rollback.fold_cons_ok done
    have unfolded : BatchKept host lease now batch (event :: rest) ↔
        StatusKept batch.store middle.store ∧ BatchKept host lease now middle rest := by
      constructor
      · exact fun kept => kept middle pass
      · intro kept next again
        cases pass.symm.trans again
        exact kept
    have middleInv := submit_event_batch_inv inv pass
    rw [unfolded]
    obtain ⟨checked, replayed | applied⟩ := submit_event_cases pass
    · obtain ⟨rfl, behind⟩ := replayed_same inv checked replayed
      have skipped : writtenStatuses middle.ack (event :: rest) =
          writtenStatuses middle.ack rest := by
        rw [writtenStatuses, freshEvents, if_neg (by omega), writtenStatuses]
      rw [skipped, ← ih inv found remaining]
      exact ⟨fun kept => kept.2, fun kept => ⟨status_kept_refl _, kept⟩⟩
    · obtain ⟨moved, movedFound, -, -, status⟩ := applied_run applied found
      have later := ih middleInv movedFound remaining
      rw [applied_status_kept applied found, later, status, applied.ack, applied.sequence]
      have fresh : freshEvents batch.ack (event :: rest) =
          event :: freshEvents (batch.ack + 1) rest := by
        rw [freshEvents, if_pos applied.sequence]
      rw [writtenStatuses, writtenStatuses, fresh]
      cases written : event.status? with
      | none =>
        rw [filterMap_cons_none written, getD_none]
        exact ⟨fun kept => kept.2, fun kept => ⟨fun _ => rfl, kept⟩⟩
      | some status =>
        rw [filterMap_cons_some written, getD_some, end_kept_cons]

theorem accepted_batch_kept {server : Server Hash}
    (reachable : (serverMachine host).Reachable Anything server)
    {runId leaseId : String} {leaseEpoch : Nat}
    {accepted : Store Hash × SubmitReply} (order : server.now ≤ now)
    (current : currentLease server.store principal runId leaseId leaseEpoch = .ok lease)
    (done : submitEvents host server.store principal runId leaseId leaseEpoch events now =
      .ok accepted) :
    BatchKept host lease now (Batch.start server.store lease) events ↔
      NothingAfterEnd lease.ackHighWater events := by
  obtain ⟨same, final, again, loop, -⟩ := submit_events_cases done
  cases current.symm.trans again
  have leaseInv := lease_inv_later (server_lease_inv reachable) order
  have start := start_batch_inv now leaseInv (server_log_inv reachable) current
  obtain ⟨run, found, -⟩ := start.holding.run
  rw [batch_kept_iff start found loop, pairwise_cons]
  refine ⟨fun kept => kept.2, fun kept => ⟨fun written mem terminal => ?_, kept⟩⟩
  rcases applied_all_live (submit_batch_applied start loop) with none | live
  · have nothing : writtenStatuses (Batch.start server.store lease).ack events = [] := by
      rw [writtenStatuses, none, filterMap_nil]
    rw [nothing] at mem
    cases mem
  · rw [live_lease_open leaseInv (current_lease_ok current).1 live found] at terminal
    cases terminal

end

/-- Terminal statuses are absorbing along every run, the passes of an accepted
batch included. -/
def TerminalAbsorbing [DecidableEq Hash] (host : Host Hash) : Prop :=
  ∀ server, (serverMachine host).Reachable Anything server →
    (∀ later, (serverMachine host).Path Anything server later →
      StatusKept server.store later.store) ∧
    ∀ principal runId leaseId leaseEpoch lease events now accepted, server.now ≤ now →
      currentLease server.store principal runId leaseId leaseEpoch = .ok lease →
      submitEvents host server.store principal runId leaseId leaseEpoch events now = .ok accepted →
      BatchKept host lease now (Batch.start server.store lease) events

/-- Committed states never leave a terminal status. Within an accepted batch this
holds exactly when no new event writes another status after a terminal one. -/
theorem terminal_status_absorbing [DecidableEq Hash] (host : Host Hash) {server : Server Hash}
    (reachable : (serverMachine host).Reachable Anything server) :
    (∀ later, (serverMachine host).Path Anything server later →
      StatusKept server.store later.store) ∧
    ∀ principal runId leaseId leaseEpoch lease events now accepted, server.now ≤ now →
      currentLease server.store principal runId leaseId leaseEpoch = .ok lease →
      submitEvents host server.store principal runId leaseId leaseEpoch events now = .ok accepted →
      (BatchKept host lease now (Batch.start server.store lease) events ↔
        NothingAfterEnd lease.ackHighWater events) := by
  refine ⟨fun later path => server_path_status_kept reachable path, ?_⟩
  intro principal runId leaseId leaseEpoch lease events now accepted order current done
  exact accepted_batch_kept reachable order current done

def leasedRun : List (Server.Action Envelope) :=
  [⟨1, .createRun (plainDraft "run-1")⟩, ⟨2, .leaseRun laptop 30 "lease-1"⟩]

def firstLease : Lease :=
  ⟨"lease-1", "run-1", "owner", "device-laptop", 1, .active, 2, 32, 2, 0, ""⟩

theorem leased_run_current :
    currentLease (emptyServer.serveAll plainHost leasedRun).store laptop "run-1" "lease-1" 1 =
      .ok firstLease := by
  decide +kernel

def startThenEnd : List (RunEvent Envelope) :=
  [plainEvent laptop "run-1" 1 1 "event-started" "run.started" (.obj []),
    plainEvent laptop "run-1" 1 2 "event-completed" "run.completed" (.obj [])]

theorem natural_order_kept : BatchKept plainHost firstLease 3
      (Batch.start (emptyServer.serveAll plainHost leasedRun).store firstLease) startThenEnd := by
  obtain ⟨accepted, done⟩ := Rollback.exists_ok (show (submitEvents plainHost
    (emptyServer.serveAll plainHost leasedRun).store laptop "run-1" "lease-1" 1 startThenEnd
    3).isOk = true by decide +kernel)
  have absorbing := terminal_status_absorbing plainHost
    (small_run_reachable leasedRun (by decide +kernel))
  exact (absorbing.2 laptop "run-1" "lease-1" 1 firstLease startThenEnd 3 accepted
    (by decide +kernel) leased_run_current done).mpr (by decide +kernel)

def endThenStart : List (RunEvent Envelope) :=
  [plainEvent laptop "run-1" 1 1 "event-completed" "run.completed" (.obj []),
    plainEvent laptop "run-1" 1 2 "event-started" "run.started" (.obj [])]

theorem terminal_absorbing_fails : ¬TerminalAbsorbing plainHost := by
  intro absorbing
  have reachable := small_run_reachable leasedRun (by decide +kernel)
  obtain ⟨accepted, done⟩ := Rollback.exists_ok (show (submitEvents plainHost
    (emptyServer.serveAll plainHost leasedRun).store laptop "run-1" "lease-1" 1 endThenStart
    3).isOk = true by decide +kernel)
  have order : (emptyServer.serveAll plainHost leasedRun).now ≤ 3 := by decide +kernel
  have kept := (absorbing _ reachable).2 laptop "run-1" "lease-1" 1 firstLease endThenStart 3
    accepted order leased_run_current done
  rw [accepted_batch_kept reachable order leased_run_current done] at kept
  have broken : ¬NothingAfterEnd firstLease.ackHighWater endThenStart := by decide +kernel
  exact broken kept

end AgentMate
