import AgentMate.OrphanedRuns

/-! # A requested cancel -/

namespace AgentMate

open TransitionSystem List Option

variable {Hash : Type}

variable {now : Time} {store next : Store Hash} {runId : String} {text : PyText}

theorem effect_commands (effect : Effect now store next) :
    ∃ added, next.commands = store.commands ++ added ∧
      ∀ command ∈ added, command.status = .pending := by
  cases effect with
  | command run command found open_ runId pending =>
    refine ⟨[command], rfl, fun other mem => ?_⟩
    rw [mem_singleton] at mem
    rw [mem]
    exact pending
  | _ => exact ⟨[], (append_nil _).symm, nofun⟩

theorem effects_commands (effects : Effects now store next) :
    ∃ added, next.commands = store.commands ++ added ∧
      ∀ command ∈ added, command.status = .pending := by
  induction effects with
  | refl => exact ⟨[], (append_nil _).symm, nofun⟩
  | tail _ effect ih =>
    obtain ⟨first, firstEq, firstPending⟩ := ih
    obtain ⟨second, secondEq, secondPending⟩ := effect_commands effect
    refine ⟨first ++ second, by rw [secondEq, firstEq, append_assoc], ?_⟩
    intro command mem
    rcases mem_append.mp mem with mem | mem
    · exact firstPending command mem
    · exact secondPending command mem

abbrev RunEvent.Acknowledges (text : PyText) (runId : String) (event : RunEvent Hash)
    (command : Command) : Prop :=
  (eventKind event.eventType).acknowledges text event.payload runId command = true

section

variable [DecidableEq Hash] {host : Host Hash} {lease : Lease} {now : Time}

theorem applied_all_pending {batch final : Batch Hash} {events : List (RunEvent Hash)}
    (applied : AppliedAll host lease now batch events final) (command : Command)
    (pending : command.status = .pending) :
    command ∈ final.store.commands ↔ command ∈ batch.store.commands ∧
      ∀ event ∈ events, ¬event.Acknowledges host.toPyText lease.runId command := by
  induction applied with
  | nil => exact ⟨fun mem => ⟨mem, nofun⟩, fun both => both.1⟩
  | @cons batch middle final event rest inv checked first later ih =>
    obtain ⟨output, business, -, after⟩ := first.store
    have step : command ∈ middle.store.commands ↔ command ∈ batch.store.commands ∧
        ¬event.Acknowledges host.toPyText lease.runId command := by
      rw [after, after_event_commands, Table.mem_update_where]
      constructor
      · rintro ⟨old, mem, same⟩
        by_cases acknowledged : event.Acknowledges host.toPyText lease.runId old
        · rw [if_pos acknowledged] at same
          rw [← same] at pending
          cases pending
        · rw [if_neg acknowledged] at same
          exact same ▸ ⟨mem, acknowledged⟩
      · rintro ⟨mem, kept⟩
        exact ⟨command, mem, if_neg kept⟩
    rw [ih, step, forall_mem_cons]
    exact and_assoc

end

def Command.IsPendingCancel (runId : String) (command : Command) : Prop :=
  command.runId = runId ∧ command.commandType = .cancel ∧ command.status = .pending

def CancelHeld (store : Store Hash) (runId : String) : Prop :=
  (∃ run, store.run? runId = some run ∧ run.status.isTerminal = true) ∨
    ∃ command ∈ store.commands, command.IsPendingCancel runId

theorem mem_pending_commands {command : Command} : command ∈ pendingCommands store runId ↔
      command ∈ store.commands ∧ command.runId = runId ∧ command.status = .pending := by
  simp [pendingCommands, mem_insertionSort]

theorem held_delivered (held : CancelHeld store runId) :
    (∃ run, store.run? runId = some run ∧ run.status.isTerminal = true) ∨
      ∃ command ∈ pendingCommands store runId, command.commandType = .cancel := by
  rcases held with ended | ⟨command, mem, sameRun, cancel, pending⟩
  · exact Or.inl ended
  · exact Or.inr ⟨command, mem_pending_commands.mpr ⟨mem, sameRun, pending⟩, cancel⟩

/-- Unless the batch ends the Run, some pending cancel of the Run is acknowledged by
no new event. -/
def CancelRetained (text : PyText) (store : Store Hash) (runId : String) (ack : Nat)
    (events : List (RunEvent Hash)) : Prop :=
  (∃ status ∈ (writtenStatuses ack events).getLast?, status.isTerminal = true) ∨
    ∃ command ∈ store.commands, command.IsPendingCancel runId ∧
      ∀ event ∈ freshEvents ack events, ¬event.Acknowledges text runId command

theorem effects_cancel_held (held : CancelHeld store runId) (effects : Effects now store next) :
    CancelHeld next runId := by
  rcases held with ⟨run, found, terminal⟩ | ⟨command, mem, facts⟩
  · obtain ⟨after, afterFound, same⟩ := effects_status_kept effects runId run found terminal
    exact Or.inl ⟨after, afterFound, by rw [same]; exact terminal⟩
  · obtain ⟨added, grown, -⟩ := effects_commands effects
    exact Or.inr ⟨command, grown ▸ mem_append_left added mem, facts⟩

/-- A batch submitted for the Run under a current lease retains its cancel. -/
def SubmitsRetained (text : PyText) (runId : String) (server : Server Hash)
    (action : Server.Action Hash) : Prop :=
  match action.call with
  | .submitEvents principal calledRun leaseId leaseEpoch events =>
    calledRun = runId →
      ∀ lease, currentLease server.store principal runId leaseId leaseEpoch = .ok lease →
        CancelRetained text server.store runId lease.ackHighWater events
  | _ => True

theorem needs_lease_taken {status : RunStatus} (working : status.needsLease = true) :
    status.isTerminal = false ∧ status.isClaimable = false ∧ status ≠ .paused := by
  cases status <;> first | exact ⟨rfl, rfl, by decide⟩ | cases working

theorem request_cancel_held {cancelled : Store Hash} {ownerId commandId : String}
    {run : Run} (found : store.run? runId = some run) (working : run.status.needsLease = true)
    (done : requestCancel text store runId ownerId commandId now = .ok cancelled) :
    CancelHeld cancelled runId := by
  obtain ⟨row, owned, done⟩ := Rollback.bind_ok done
  obtain ⟨rowFound, -⟩ := owned_run_ok owned
  cases found.symm.trans rowFound
  obtain ⟨open_, taken, running⟩ := needs_lease_taken working
  have held : ¬((run.status.isClaimable || run.status = .paused) &&
      !store.hasLiveLease runId now) = true := by
    simp [taken, running]
  rw [if_neg (by simp [open_]), if_neg held] at done
  obtain ⟨-, rfl⟩ := insert_command_ok done
  exact Or.inr ⟨_, mem_append_right _ (mem_singleton.mpr rfl), rfl, rfl, rfl⟩

section

variable [DecidableEq Hash] {host : Host Hash} {now : Time}

variable {store finish : Store Hash} {principal : DevicePrincipal} {events : List (RunEvent Hash)}
  {reply : SubmitReply}

theorem submit_events_cancel_held {leaseId : String} {leaseEpoch : Nat} {lease : Lease}
    {run : Run} (leaseInv : LeaseInv now store)
    (logInv : LogInv host store) (found : store.run? runId = some run)
    (open_ : run.status.isTerminal = false)
    (current : currentLease store principal runId leaseId leaseEpoch = .ok lease)
    (done : submitEvents host store principal runId leaseId leaseEpoch events now =
      .ok (finish, reply)) :
    CancelHeld finish runId ↔
      CancelRetained host.toPyText store runId lease.ackHighWater events := by
  obtain ⟨same, final, again, loop, rfl, -⟩ := submit_events_cases done
  cases current.symm.trans again
  obtain ⟨-, -, rfl, -⟩ := current_lease_ok current
  have applied := submit_batch_applied (start_batch_inv now leaseInv logInv current) loop
  obtain ⟨moved, movedFound, -, -, status⟩ := applied_all_status applied found
  have written : (freshEvents (Batch.start store lease).ack events).filterMap RunEvent.status? =
      writtenStatuses lease.ackHighWater events := rfl
  rw [written] at status
  have ended : (∃ row, final.store.run? lease.runId = some row ∧ row.status.isTerminal = true) ↔
      ∃ status ∈ (writtenStatuses lease.ackHighWater events).getLast?,
        status.isTerminal = true := by
    have own : (∃ row, final.store.run? lease.runId = some row ∧ row.status.isTerminal = true) ↔
        moved.status.isTerminal = true := by
      rw [movedFound]
      simp
    rw [own, status]
    cases (writtenStatuses lease.ackHighWater events).getLast? with
    | none => simp [open_]
    | some last => simp
  refine or_congr ended ?_
  constructor
  · rintro ⟨command, mem, facts⟩
    obtain ⟨before, kept⟩ := (applied_all_pending applied command facts.2.2).mp mem
    exact ⟨command, before, facts, kept⟩
  · rintro ⟨command, mem, facts, kept⟩
    exact ⟨command, (applied_all_pending applied command facts.2.2).mpr ⟨mem, kept⟩, facts⟩

theorem submit_events_other_cancel {other leaseId : String} {leaseEpoch : Nat}
    (leaseInv : LeaseInv now store) (logInv : LogInv host store)
    (different : runId ≠ other) (held : CancelHeld store runId)
    (done : submitEvents host store principal other leaseId leaseEpoch events now =
      .ok (finish, reply)) : CancelHeld finish runId := by
  obtain ⟨lease, final, current, loop, rfl, -⟩ := submit_events_cases done
  obtain ⟨-, -, rfl, -⟩ := current_lease_ok current
  have applied := submit_batch_applied (start_batch_inv now leaseInv logInv current) loop
  rcases held with ⟨run, found, terminal⟩ | ⟨command, mem, sameRun, facts⟩
  · exact Or.inl ⟨run, (applied_all_other_run applied different).trans found, terminal⟩
  · refine Or.inr ⟨command, (applied_all_pending applied command facts.2).mpr ⟨mem, ?_⟩,
      sameRun, facts⟩
    intro event _ acknowledged
    simp only [RunEvent.Acknowledges, EventKind.acknowledges, Bool.and_eq_true,
      decide_eq_true_eq] at acknowledged
    exact different (sameRun.symm.trans acknowledged.1)

theorem server_step_cancel_held {server next : Server Hash} {action : Server.Action Hash}
    (leaseInv : LeaseInv server.now server.store) (logInv : LogInv host server.store)
    (retained : SubmitsRetained host.toPyText runId server action)
    (held : CancelHeld server.store runId)
    (step : (serverMachine host).Step server action next) : CancelHeld next.store runId := by
  have kept := server_step_status_kept leaseInv logInv step
  obtain ⟨order, rfl⟩ := step
  have later := lease_inv_later leaseInv order
  by_cases ended : ∃ run, server.store.run? runId = some run ∧ run.status.isTerminal = true
  · obtain ⟨run, found, terminal⟩ := ended
    obtain ⟨after, afterFound, same⟩ := kept runId run found terminal
    exact Or.inl ⟨after, afterFound, by rw [same]; exact terminal⟩
  refine commit_cases (fun after => CancelHeld after runId) held fun after done => ?_
  rcases perform_cases leaseInv.keyed done with
    effects | ⟨_, calledRun, _, _, _, _, call, submit⟩
  · exact effects_cancel_held held effects
  · by_cases own : calledRun = runId
    · subst own
      obtain ⟨lease, -, current, -⟩ := submit_events_cases submit
      obtain ⟨-, -, -, -, -, -, run, found, -⟩ := current_lease_ok current
      have open_ : run.status.isTerminal = false := by
        by_contra terminal
        exact ended ⟨run, found, by simpa using terminal⟩
      rw [SubmitsRetained, call] at retained
      exact (submit_events_cancel_held later logInv found open_ current submit).mpr
        (retained rfl lease current)
    · exact submit_events_other_cancel later logInv (Ne.symm own) held submit

end

theorem lease_run_granted {leased : Store Hash}
    {principal : DevicePrincipal} {leaseSeconds : Int} {leaseId : String}
    {grant : LeaseGrant} (keyed : store.Keyed)
    (done : leaseRun text store principal leaseSeconds leaseId now = .ok (leased, some grant)) :
    leased.run? grant.run.id = some grant.run ∧ grant.run.status = .leased := by
  obtain ⟨expired, expiring, ⟨-, -, none⟩ | ⟨run, selected, -, rfl, granted⟩⟩ :=
    lease_run_cases keyed done
  · cases none
  · cases granted
    have keyedExpired := effects_keyed keyed (expire_leases_effects keyed expiring)
    have found := run_of_mem keyedExpired (lease_candidate_some selected).1
    have frame (row : Run) : Run.Frame row (row.granted (run.leaseEpoch + 1) now) := rfl
    exact ⟨run_update_self frame found, rfl⟩

/-- The cancel of the Run is held; a device that renews its lease is told so, and a
device that is granted the Run finds it pending. -/
structure CancelDelivered (text : PyText) (server : Server Hash) (runId : String) : Prop where
  held : CancelHeld server.store runId
  renewed : ∀ principal leaseId leaseEpoch leaseSeconds now store renewal, server.now ≤ now →
    renewLease server.store principal runId leaseId leaseEpoch leaseSeconds now =
      .ok (store, renewal) →
    ∃ command ∈ renewal.commands, command.commandType = .cancel
  granted : ∀ principal leaseSeconds leaseId now leased grant, server.now ≤ now →
    leaseRun text server.store principal leaseSeconds leaseId now = .ok (leased, some grant) →
    grant.run.id = runId →
    ∃ command ∈ pendingCommands leased runId, command.commandType = .cancel

theorem cancel_held_delivered {server : Server Hash} (inv : LeaseInv server.now server.store)
    (held : CancelHeld server.store runId) :
    CancelDelivered text server runId := by
  refine ⟨held, ?_, ?_⟩
  · intro principal leaseId leaseEpoch leaseSeconds now store renewal order done
    obtain ⟨lease, current, done⟩ := Rollback.bind_ok done
    obtain ⟨mem, -, rfl, -⟩ := current_lease_ok current
    split at done
    · next live =>
      obtain ⟨-, rfl⟩ := Prod.mk.inj (Except.ok.inj done)
      rcases held_delivered held with ⟨run, found, terminal⟩ | delivered
      · rw [live_lease_open (lease_inv_later inv order) mem live found] at terminal
        cases terminal
      · exact delivered
    · cases done
  · rintro principal leaseSeconds leaseId now leased grant order done rfl
    have later := lease_inv_later inv order
    obtain ⟨found, status⟩ := lease_run_granted later.keyed done
    rcases held_delivered (effects_cancel_held held (lease_run_effects later.keyed done)) with
      ⟨run, runFound, terminal⟩ | delivered
    · cases found.symm.trans runFound
      rw [status] at terminal
      cases terminal
    · exact delivered

/-- A requested cancel of a Run that a device works on is never lost, whatever
happens next. -/
def CancelNeverLost [DecidableEq Hash] (host : Host Hash) : Prop :=
  ∀ server, (serverMachine host).Reachable Anything server →
    ∀ runId ownerId commandId now run cancelled, server.now ≤ now →
      server.store.run? runId = some run → run.status.needsLease = true →
      requestCancel host.toPyText server.store runId ownerId commandId now = .ok cancelled →
      ∀ later, (serverMachine host).Path Anything ⟨now, cancelled⟩ later →
        CancelDelivered host.toPyText later runId

/-- After `request_cancel` committed for a Run that a device works on, the cancel is
delivered in every state of every run whose batches for this Run retain it; and an
accepted batch for the Run, while it has not ended, keeps the cancel exactly when it
retains it. -/
theorem cancel_never_lost [DecidableEq Hash] (host : Host Hash) {server later : Server Hash}
    (reachable : (serverMachine host).Reachable Anything server) {runId ownerId commandId : String}
    {now : Time} {run : Run} {cancelled : Store Hash} (order : server.now ≤ now)
    (found : server.store.run? runId = some run) (working : run.status.needsLease = true)
    (done : requestCancel host.toPyText server.store runId ownerId commandId now = .ok cancelled)
    (path : (serverMachine host).Path (SubmitsRetained host.toPyText runId)
      ⟨now, cancelled⟩ later) :
    CancelDelivered host.toPyText later runId ∧
    ∀ row principal leaseId leaseEpoch lease events after accepted, later.now ≤ after →
      later.store.run? runId = some row → row.status.isTerminal = false →
      currentLease later.store principal runId leaseId leaseEpoch = .ok lease →
      submitEvents host later.store principal runId leaseId leaseEpoch events after = .ok accepted →
      (CancelHeld accepted.1 runId ↔
        CancelRetained host.toPyText later.store runId lease.ackHighWater events) := by
  have requested : (serverMachine host).Reachable Anything ⟨now, cancelled⟩ := by
    let action : Server.Action Hash := ⟨now, .requestCancel runId ownerId commandId⟩
    have performed : perform host server.store action.now action.call = .ok cancelled := done
    have step : (serverMachine host).Step server action ⟨now, cancelled⟩ :=
      ⟨order, (serve_of_ok host performed).symm⟩
    exact reachable_step reachable trivial step
  have reached : (serverMachine host).Reachable Anything later :=
    reachable_path requested (path_weaken (fun _ _ _ => trivial) path)
  have held : (LeaseInv later.now later.store ∧ LogInv host later.store) ∧
      CancelHeld later.store runId := by
    refine path_invariant (fun server => (LeaseInv server.now server.store ∧
      LogInv host server.store) ∧ CancelHeld server.store runId) ?_
      ⟨⟨server_lease_inv requested, server_log_inv requested⟩,
        request_cancel_held found working done⟩ path
    rintro before action next ⟨⟨leaseInv, logInv⟩, kept⟩ retained step
    have cancelKept := server_step_cancel_held leaseInv logInv retained kept step
    have leaseNext := server_step_lease_inv leaseInv step
    obtain ⟨clock, rfl⟩ := step
    exact ⟨⟨leaseNext, commit_cases (LogInv host) logInv fun _ performed =>
      perform_log_inv (lease_inv_later leaseInv clock) logInv performed⟩, cancelKept⟩
  refine ⟨cancel_held_delivered held.1.1 held.2, ?_⟩
  rintro row principal leaseId leaseEpoch lease events after ⟨finish, reply⟩ clock rowFound open_
    current accepted
  exact submit_events_cancel_held (lease_inv_later held.1.1 clock) held.1.2 rowFound open_
    current accepted

def cancelledRun : List (Server.Action Envelope) :=
  leasedRun ++ [⟨3, .requestCancel "run-1" "owner" "command-1"⟩]

theorem cancelled_run_requested :
    ∃ run cancelled, (emptyServer.serveAll plainHost leasedRun).store.run? "run-1" = some run ∧
      run.status.needsLease = true ∧
      requestCancel plainHost.toPyText (emptyServer.serveAll plainHost leasedRun).store "run-1"
        "owner" "command-1" 3 = .ok cancelled ∧
      emptyServer.serveAll plainHost cancelledRun = ⟨3, cancelled⟩ := by
  obtain ⟨run, found⟩ : ∃ run,
      (emptyServer.serveAll plainHost leasedRun).store.run? "run-1" = some run :=
    isSome_iff_exists.mp (by decide +kernel)
  have status : ((emptyServer.serveAll plainHost leasedRun).store.run? "run-1").map
      (fun run => run.status) = some .leased := by decide +kernel
  rw [found, map_some, Option.some.injEq] at status
  obtain ⟨cancelled, done⟩ := Rollback.exists_ok (show (requestCancel plainHost.toPyText
    (emptyServer.serveAll plainHost leasedRun).store "run-1" "owner" "command-1" 3).isOk = true
    by decide +kernel)
  refine ⟨run, cancelled, found, by rw [status]; rfl, done, ?_⟩
  rw [cancelledRun, serve_all_append]
  let action : Server.Action Envelope := ⟨3, .requestCancel "run-1" "owner" "command-1"⟩
  have performed : perform plainHost (emptyServer.serveAll plainHost leasedRun).store action.now
      action.call = .ok cancelled := done
  exact serve_of_ok plainHost performed

def confirmedCancel : Server.Action Envelope :=
  ⟨4, .submitEvents laptop "run-1" "lease-1" 1
    [plainEvent laptop "run-1" 1 1 "event-acknowledged" "command.ack"
        (.obj [("command_id", .str "command-1")]),
      plainEvent laptop "run-1" 1 2 "event-cancelled" "run.cancelled" (.obj [])]⟩

theorem confirmed_cancel_delivered : CancelDelivered plainHost.toPyText
      ((emptyServer.serveAll plainHost cancelledRun).serve plainHost confirmedCancel) "run-1" := by
  obtain ⟨run, cancelled, found, working, done, requested⟩ := cancelled_run_requested
  have current : currentLease (emptyServer.serveAll plainHost cancelledRun).store laptop "run-1"
      "lease-1" 1 = .ok firstLease := by decide +kernel
  rw [requested] at current ⊢
  have order : (3 : Time) ≤ confirmedCancel.now := by decide +kernel
  refine (cancel_never_lost plainHost
    (small_run_reachable leasedRun (by decide +kernel)) (by decide +kernel) found
    working done (.step (.refl _) ?_ ⟨order, rfl⟩)).1
  intro _ lease again
  cases current.symm.trans again
  exact Or.inl ⟨.cancelled, by decide +kernel, rfl⟩

def acknowledgedCancel : List (Server.Action Envelope) :=
  [⟨4, .submitEvents laptop "run-1" "lease-1" 1
      [plainEvent laptop "run-1" 1 1 "event-started" "run.started" (.obj []),
        plainEvent laptop "run-1" 1 2 "event-acknowledged" "command.ack"
          (.obj [("command_id", .str "command-1")])]⟩,
    ⟨40, .leaseRun desktop 30 "lease-2"⟩]

theorem cancel_lost : ¬CancelNeverLost plainHost := by
  intro neverLost
  obtain ⟨run, cancelled, found, working, done, requested⟩ := cancelled_run_requested
  have path : (serverMachine plainHost).Path Anything (emptyServer.serveAll plainHost cancelledRun)
      ((emptyServer.serveAll plainHost cancelledRun).serveAll plainHost acknowledgedCancel) :=
    serve_all_path plainHost (by decide +kernel)
  have status : (((emptyServer.serveAll plainHost cancelledRun).serveAll plainHost
      acknowledgedCancel).store.run? "run-1").map (fun run => run.status) = some .leased := by
    decide +kernel
  have commands : ((emptyServer.serveAll plainHost cancelledRun).serveAll plainHost
      acknowledgedCancel).store.commands.map (fun command => command.status) =
      [.acknowledged] := by
    decide +kernel
  rw [requested] at path status commands
  have delivered := neverLost _
    (small_run_reachable leasedRun (by decide +kernel)) "run-1" "owner" "command-1"
    3 run cancelled (by decide +kernel) found working done _ path
  rcases delivered.held with ⟨row, rowFound, terminal⟩ | ⟨command, mem, -, -, pending⟩
  · rw [rowFound, map_some, Option.some.injEq] at status
    rw [status] at terminal
    cases terminal
  · have listed := List.mem_map_of_mem (f := fun command : Command => command.status) mem
    rw [commands, mem_singleton, pending] at listed
    cases listed

end AgentMate
