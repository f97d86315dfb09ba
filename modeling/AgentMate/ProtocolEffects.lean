import AgentMate.ProtocolMachine

/-!
# What one transaction can do

Every operation except `submit_events` is a sequence of the elementary effects
below; each names the rows it touches and the condition under which it happens.
The invariants of the later modules are proved effect by effect.
-/

namespace AgentMate

open Rollback Table List Option

variable {Hash : Type}

/-- `new` differs from `old` only in the columns the protocol writes. -/
def Run.Frame (old new : Run) : Prop :=
  new = { old with
    status := new.status, leaseEpoch := new.leaseEpoch, recoveryCount := new.recoveryCount
    cancelVersion := new.cancelVersion, cancelRequestedAt := new.cancelRequestedAt
    report := new.report }

theorem Run.Frame.refl (run : Run) : Run.Frame run run := rfl

variable {old new run : Run} {store next : Store Hash} {runId leaseId : String} {assign : Run → Run}
  {lease : Lease} {text : PyText} {now : Time} {status : RunStatus} {items : List Lease}
  {principal : DevicePrincipal} {leaseSeconds : Int} {grant : Option LeaseGrant}

theorem Run.Frame.id (frame : Run.Frame old new) : new.id = old.id := by
  rw [show new = _ from frame]

theorem Run.Frame.ownerId (frame : Run.Frame old new) : new.ownerId = old.ownerId := by
  rw [show new = _ from frame]

theorem Run.Frame.mode (frame : Run.Frame old new) : new.mode = old.mode := by
  rw [show new = _ from frame]

theorem Run.Frame.workspaceScope (frame : Run.Frame old new) :
    AgentMate.workspaceScope new = AgentMate.workspaceScope old := by
  rw [show new = _ from frame]
  rfl

theorem run_id (found : store.run? runId = some run) : run.id = runId :=
  lookup_key found

theorem run_mem (found : store.run? runId = some run) : run ∈ store.runs :=
  lookup_mem found

@[simp] theorem events_update_lease (store : Store Hash) (leaseId : String)
    (assign : Lease → Lease) : (store.updateLease leaseId assign).events = store.events := rfl

theorem run_update_run (store : Store Hash) (frame : ∀ row, Run.Frame row (assign row))
    (other : String) :
    (store.updateRun runId assign).run? other =
      if other = runId then (store.run? other).map assign else store.run? other := by
  have read : (store.updateRun runId assign).run? other =
      (lookup Run.id other store.runs).map fun run =>
        if run.id = runId then assign run else run :=
    lookup_update_where fun row => (frame row).id
  rw [read]
  cases found : lookup Run.id other store.runs with
  | none => simp [Store.run?, found]
  | some run =>
    have same : run.id = other := lookup_key found
    simp only [map_some, same, Store.run?, found]
    split <;> rfl

theorem run_update_self (frame : ∀ row, Run.Frame row (assign row))
    (found : store.run? runId = some run) :
    (store.updateRun runId assign).run? runId = some (assign run) := by
  rw [run_update_run store frame, if_pos rfl, found, map_some]

theorem run_update_other {other : String} (frame : ∀ row, Run.Frame row (assign row))
    (different : other ≠ runId) : (store.updateRun runId assign).run? other = store.run? other := by
  rw [run_update_run store frame, if_neg different]

theorem update_run_same (store : Store Hash) (runId : String) :
    store.updateRun runId (fun row => row) = store := by
  have same : updateWhere (fun run => run.id = runId) (fun row => row) store.runs =
      store.runs := update_where_eq_self fun _ _ _ => rfl
  rw [Store.updateRun, same]

theorem update_run_comp (store : Store Hash) (runId : String) {first second : Run → Run}
    (frame : ∀ row, Run.Frame row (first row)) :
    (store.updateRun runId first).updateRun runId second =
      store.updateRun runId (fun row => second (first row)) := by
  simp only [Store.updateRun]
  rw [update_where_comp first second]
  exact fun row same => (frame row).id.trans same

theorem mem_update_lease {assign : Lease → Lease} :
    lease ∈ (store.updateLease leaseId assign).leases ↔
      ∃ old ∈ store.leases, (if old.id = leaseId then assign old else old) = lease :=
  mem_update_where

/-- A change of one Run row together with what it says in the business tables: an
assistant message is added only when the Run reaches a terminal status and has none. -/
structure RunMove (store : Store Hash) (runId : String) (assign : Run → Run)
    (business : Business) : Prop where
  frame : ∀ row, Run.Frame row (assign row)
  epoch : ∀ row, (assign row).leaseEpoch = row.leaseEpoch
  recoveries : ∀ run, store.run? runId = some run → run.recoveryCount ≤ (assign run).recoveryCount
  messages : business.messages = store.business.messages ∨
    ∃ run message, store.run? runId = some run ∧ run.status.isTerminal = false ∧
      (assign run).status.isTerminal = true ∧ message.runId = runId ∧
      assistantMessage store.business.messages runId = none ∧
      business.messages = store.business.messages ++ [message]

/-- What `_recover_run` makes of a Run whose lease was taken away. -/
def Recovered (old new : Run) : Prop :=
  (old.status.isTerminal = true ∧ new.status = old.status) ∨
    (old.status = .paused ∧ new.status = .paused) ∨
    (old.status.isTerminal = false ∧ old.status ≠ .paused ∧
      ((new.status = .recoverable ∧ new.recoveryCount = old.recoveryCount + 1 ∧
        new.recoveryCount ≤ old.maxRecoveries) ∨ new.status = .failed))

inductive Effect (now : Time) (store : Store Hash) : Store Hash → Prop
  | devices (devices : List Device) (tokens : List DeviceToken) :
      Effect now store { store with devices := devices, tokens := tokens }
  | create (run : Run) : store.run? run.id = none → run.status = .queued → run.leaseEpoch = 0 →
      Effect now store { store with runs := store.runs ++ [run] }
  | grant (run : Run) (assign : Run → Run) (lease : Lease) :
      store.run? run.id = some run → run.status.isClaimable = true →
        scopeConflicts store run now = false →
      (∀ row, Run.Frame row (assign row)) → (assign run).status = .leased →
        (assign run).leaseEpoch = run.leaseEpoch + 1 →
      lease.runId = run.id → lease.ownerId = run.ownerId →
        lease.leaseEpoch = run.leaseEpoch + 1 → lease.status = .active →
        lease.ackHighWater = 0 → lease.terminalEventId = "" →
      (∀ other ∈ store.leases, other.id ≠ lease.id) →
      run.recoveryCount ≤ (assign run).recoveryCount →
      Effect now store { store.updateRun run.id assign with leases := store.leases ++ [lease] }
  | renew (lease : Lease) (expiresAt : Time) :
      lease ∈ store.leases → lease.isLive now = true → now < expiresAt →
      Effect now store (store.updateLease lease.id (Lease.renew expiresAt now))
  | release (lease : Lease) (status : LeaseStatus) (assign : Run → Run) (business : Business) :
      lease ∈ store.leases → lease.status = .active →
        (status = .revoked ∨ (status = .expired ∧ lease.expiresAt ≤ now)) →
      RunMove store lease.runId assign business →
        (∀ run, store.run? lease.runId = some run → Recovered run (assign run)) →
      Effect now store (({ store with business := business }.updateLease lease.id
        (Lease.setStatus status)).updateRun lease.runId assign)
  | abandon (run : Run) (assign : Run → Run) (business : Business) :
      store.run? run.id = some run → run.status = .paused →
        store.hasLiveLease run.id now = false → RunMove store run.id assign business →
      ((assign run).status = .failed ∨ (run.leaseEpoch = 0 ∧ (assign run).status = .recoverable)) →
      Effect now store
        (({ store with business := business }.expireLeasesOf run.id).updateRun run.id assign)
  | endRun (run : Run) (assign : Run → Run) (business : Business) : store.run? run.id = some run →
        (run.status.isClaimable = true ∨ run.status = .paused) →
        store.hasLiveLease run.id now = false → RunMove store run.id assign business →
        (assign run).status = .cancelled →
      Effect now store ({ store with business := business }.updateRun run.id assign)
  | pause (run : Run) (assign : Run → Run) :
      store.run? run.id = some run → run.status.isClaimable = true →
        RunMove store run.id assign store.business → (assign run).status = .paused →
      Effect now store (store.updateRun run.id assign)
  | mark (runId : String) (assign : Run → Run) : RunMove store runId assign store.business →
        (∀ row, (assign row).status = row.status) →
      Effect now store (store.updateRun runId assign)
  | command (run : Run) (command : Command) :
      store.run? run.id = some run → run.status.isTerminal = false → command.runId = run.id →
        command.status = .pending →
        (∀ other ∈ store.commands, other.id ≠ command.id) →
      Effect now store { store with commands := store.commands ++ [command] }

abbrev Effects (now : Time) (store next : Store Hash) : Prop :=
  Relation.ReflTransGen (Effect now) store next

theorem finish_run_messages (business : Business) (runId ownerId : String)
    (failed cancelled : Bool) (errorCode errorMessage : String) (usage : Usage) (now : Time) :
    (finishRun business runId ownerId failed cancelled errorCode errorMessage usage now).messages =
      business.messages := by
  unfold finishRun
  split
  · rfl
  · split <;> rfl

theorem settle_work_item_messages (business : Business) (run : Run) (failed cancelled : Bool)
    (now : Time) : (settleWorkItem business run failed cancelled now).messages =
      business.messages := by
  unfold settleWorkItem
  split
  · split <;> rfl
  · rfl

theorem commit_output_messages {events : List (EventRow Hash)}
    {business committed : Business} {event : TerminalEvent} {failed cancelled : Bool}
    {output : TerminalOutput}
    (done : commitTerminalOutput text events business run event failed cancelled now =
      .ok (output, committed)) :
    ∃ fold, foldEpoch text (epochEvents events run.id event.leaseEpoch) = .ok fold ∧
      committed.messages = storeAssistant business.messages
        (terminalMessage business.messages run event.eventId fold
          (terminalErrorText text event fold) now) := by
  obtain ⟨fold, folded, rest⟩ := bind_ok done
  obtain ⟨-, rfl⟩ := Prod.mk.inj (Except.ok.inj rest)
  refine ⟨fold, folded, ?_⟩
  rw [settle_work_item_messages]
  split
  · rfl
  · rw [finish_run_messages]

theorem store_assistant_cases (messages : List Message) (message : Message) :
    ((∃ stored, assistantMessage messages message.runId = some stored) ∧
      storeAssistant messages message = messages) ∨
    (assistantMessage messages message.runId = none ∧
      storeAssistant messages message = messages ++ [message]) := by
  unfold storeAssistant
  split
  · next absent => exact Or.inr ⟨absent, rfl⟩
  · next stored found => exact Or.inl ⟨⟨stored, found⟩, rfl⟩

theorem server_terminal_cases {errorCode errorMessage : String}
    (found : store.run? run.id = some run) (open_ : run.status.isTerminal = false)
    (terminal : status.isTerminal = true)
    (done : serverTerminal text store run status errorCode errorMessage now = .ok next) :
    ∃ assign business, next = { store with business := business }.updateRun run.id assign ∧
      RunMove store run.id assign business ∧ ∀ row, (assign row).status = status := by
  obtain ⟨⟨output, business⟩, committed, rest⟩ := bind_ok done
  obtain ⟨fold, -, messages⟩ := commit_output_messages committed
  refine ⟨_, business, (Except.ok.inj rest).symm, ⟨fun _ => rfl, fun _ => rfl, fun _ _ => le_rfl, ?_⟩,
    fun _ => rfl⟩
  rw [messages]
  rcases store_assistant_cases store.business.messages
      (terminalMessage store.business.messages run _ fold _ now) with ⟨-, kept⟩ | ⟨absent, added⟩
  · exact Or.inl kept
  · exact Or.inr ⟨run, _, found, open_, terminal, rfl, absent, added⟩

theorem recover_run_cases (done : recoverRun text store runId now = .ok next) :
    ∃ assign business, next = { store with business := business }.updateRun runId assign ∧
      RunMove store runId assign business ∧
      ∀ run, store.run? runId = some run → Recovered run (assign run) := by
  have untouched : RunMove store runId (fun row => row) store.business :=
    ⟨Run.Frame.refl, fun _ => rfl, fun _ _ => le_rfl, Or.inl rfl⟩
  cases found : store.run? runId with
  | none =>
    rw [recoverRun, found] at done
    refine ⟨fun row => row, store.business, ?_, untouched, fun run same => ?_⟩
    · exact (Except.ok.inj done).symm.trans (update_run_same store runId).symm
    · cases same
  | some run =>
    have same : run.id = runId := run_id found
    simp only [recoverRun, found] at done
    by_cases terminal : run.status.isTerminal = true
    · rw [if_pos terminal] at done
      refine ⟨fun row => row, store.business, ?_, untouched, ?_⟩
      · exact (Except.ok.inj done).symm.trans (update_run_same store runId).symm
      · rintro _ ⟨⟩
        exact Or.inl ⟨terminal, rfl⟩
    rw [if_neg terminal] at done
    have open_ : run.status.isTerminal = false := by simpa using terminal
    by_cases paused : run.status = .paused
    · rw [if_pos paused] at done
      refine ⟨_, store.business, (Except.ok.inj done).symm,
        ⟨fun _ => rfl, fun _ => rfl, fun _ _ => le_rfl, Or.inl rfl⟩, ?_⟩
      rintro _ ⟨⟩
      exact Or.inr (Or.inl ⟨paused, paused⟩)
    rw [if_neg paused] at done
    by_cases exhausted : run.recoveryCount + 1 > run.maxRecoveries
    · rw [if_pos exhausted] at done
      obtain ⟨ended, ending, rest⟩ := bind_ok done
      rw [← same] at found
      obtain ⟨assign, business, rfl, move, status⟩ :=
        server_terminal_cases found open_ rfl ending
      subst same
      refine ⟨fun row => { assign row with recoveryCount := run.recoveryCount + 1 }, business,
        ?_, ?_, ?_⟩
      · exact (Except.ok.inj rest).symm.trans (update_run_comp _ run.id move.frame)
      · refine ⟨fun row => ?_, fun row => move.epoch row, fun row rowFound => ?_, ?_⟩
        · have frame := move.frame row
          rw [Run.Frame] at frame ⊢
          rw [frame]
        · rw [found] at rowFound
          cases rowFound
          exact Nat.le_succ _
        · exact move.messages
      · rintro _ ⟨⟩
        exact Or.inr (Or.inr ⟨open_, paused, Or.inr (status run)⟩)
    · rw [if_neg exhausted] at done
      refine ⟨_, store.business, (Except.ok.inj done).symm,
        ⟨fun _ => rfl, fun _ => rfl, fun row rowFound => ?_, Or.inl rfl⟩, ?_⟩
      · rw [found] at rowFound
        cases rowFound
        exact Nat.le_succ _
      · rintro _ ⟨⟩
        exact Or.inr (Or.inr ⟨open_, paused, Or.inl ⟨rfl, rfl, Nat.le_of_not_lt exhausted⟩⟩)

theorem release_lease_effect {status : LeaseStatus} (mem : lease ∈ store.leases)
    (active : lease.status = .active)
    (cause : status = .revoked ∨ (status = .expired ∧ lease.expiresAt ≤ now))
    (done : releaseLease text now status store lease = .ok next) : Effect now store next := by
  obtain ⟨assign, business, rfl, move, recovered⟩ := recover_run_cases done
  exact .release lease status assign business mem active cause
    ⟨move.frame, move.epoch, move.recoveries, move.messages⟩ recovered

structure Store.Keyed (store : Store Hash) : Prop where
  runs : UniqueKey Run.id store.runs
  leases : UniqueKey Lease.id store.leases

theorem keyed_update_run (frame : ∀ row, Run.Frame row (assign row)) (keyed : store.Keyed) :
    (store.updateRun runId assign).Keyed :=
  ⟨unique_key_update (fun row => (frame row).id) keyed.runs, keyed.leases⟩

theorem keyed_update_lease {assign : Lease → Lease} (same : ∀ row, (assign row).id = row.id)
    (keyed : store.Keyed) :
    (store.updateLease leaseId assign).Keyed :=
  ⟨keyed.runs, unique_key_update same keyed.leases⟩

theorem effect_keyed (keyed : store.Keyed) (effect : Effect now store next) : next.Keyed := by
  have quiet (business : Business) : { store with business := business }.Keyed :=
    ⟨keyed.runs, keyed.leases⟩
  cases effect with
  | devices => exact ⟨keyed.runs, keyed.leases⟩
  | create run absent =>
    exact ⟨unique_key_append keyed.runs (lookup_eq_none_iff.mp absent), keyed.leases⟩
  | grant run assign lease found claimable admitted frame status epoch runId owner leaseEpoch
        active ack terminal fresh =>
      exact ⟨(keyed_update_run frame keyed).runs, unique_key_append keyed.leases fresh⟩
  | renew lease expiresAt => exact keyed_update_lease (fun _ => rfl) keyed
  | release lease status assign business mem active cause move =>
    exact keyed_update_run move.frame (keyed_update_lease (fun _ => rfl) (quiet business))
  | abandon run assign business found paused expired move =>
    refine keyed_update_run move.frame ⟨keyed.runs, ?_⟩
    exact unique_key_update (fun _ => rfl) keyed.leases
  | endRun run assign business found status expired move =>
    exact keyed_update_run move.frame (quiet business)
  | pause run assign found claimable move => exact keyed_update_run move.frame keyed
  | mark runId assign move => exact keyed_update_run move.frame keyed
  | command => exact ⟨keyed.runs, keyed.leases⟩

theorem run_of_mem (keyed : store.Keyed) (mem : run ∈ store.runs) : store.run? run.id = some run :=
  lookup_of_mem keyed.runs mem

theorem release_lease_leases {status : LeaseStatus}
    (done : releaseLease text now status store lease = .ok next) :
    next.leases = (store.updateLease lease.id (Lease.setStatus status)).leases := by
  obtain ⟨assign, business, rfl, -, -⟩ := recover_run_cases done
  rfl

theorem releases_effects {status : LeaseStatus} (unique : UniqueKey Lease.id items)
    (held : ∀ lease ∈ items, lease ∈ store.leases ∧ lease.status = .active ∧
      (status = .revoked ∨ (status = .expired ∧ lease.expiresAt ≤ now)))
    (done : items.foldlM (releaseLease text now status) store = .ok next) :
    Effects now store next := by
  induction items generalizing store with
  | nil =>
    rw [fold_nil_ok done]
  | cons lease rest ih =>
    obtain ⟨middle, pass, remaining⟩ := fold_cons_ok done
    obtain ⟨mem, active, cause⟩ := held lease mem_cons_self
    have different : ∀ other ∈ rest, other.id ≠ lease.id := by
      intro other otherMem same
      refine (nodup_cons.mp unique).1 ?_
      exact List.mem_map.mpr ⟨other, otherMem, same⟩
    refine Relation.ReflTransGen.head (release_lease_effect mem active cause pass) ?_
    refine ih (nodup_cons.mp unique).2 ?_ remaining
    intro other otherMem
    obtain ⟨stored, facts⟩ := held other (mem_cons_of_mem lease otherMem)
    refine ⟨?_, facts⟩
    rw [release_lease_leases pass]
    exact mem_update_of_not_chosen stored (different other otherMem)

theorem filter_unique (chosen : Lease → Bool) (unique : UniqueKey Lease.id items) :
    UniqueKey Lease.id (items.filter chosen) :=
  List.Nodup.sublist (filter_sublist.map Lease.id) unique

theorem expire_leases_effects {ownerId : Option String} (keyed : store.Keyed)
    (done : expireLeases text store ownerId now = .ok next) :
    Effects now store next := by
  refine releases_effects (filter_unique _ keyed.leases) ?_ done
  intro lease mem
  simp only [mem_filter, Bool.and_eq_true, decide_eq_true_eq] at mem
  exact ⟨mem.1, mem.2.1.1, Or.inr ⟨rfl, mem.2.1.2⟩⟩

variable {ownerId : String}

theorem revoke_device_effects {deviceId : String} {found : Bool} (keyed : store.Keyed)
    (done : revokeDevice text store ownerId deviceId now = .ok (next, found)) :
    Effects now store next := by
  unfold revokeDevice at done
  split at done
  · obtain ⟨released, loop, rest⟩ := bind_ok done
    obtain ⟨rfl, -⟩ := Prod.mk.inj (Except.ok.inj rest)
    refine Relation.ReflTransGen.head (.devices _ _) (releases_effects ?_ ?_ loop)
    · exact filter_unique _ keyed.leases
    · intro lease mem
      simp only [mem_filter, Bool.and_eq_true, decide_eq_true_eq] at mem
      exact ⟨mem.1, mem.2.2, Or.inl rfl⟩
  · obtain ⟨rfl, -⟩ := Prod.mk.inj (Except.ok.inj done)
    exact Relation.ReflTransGen.refl

theorem insert_lease_ok (done : store.insertLease lease = .ok next) :
    (∀ other ∈ store.leases, other.id ≠ lease.id) ∧
      next = { store with leases := store.leases ++ [lease] } := by
  unfold Store.insertLease at done
  split at done
  · cases done
  · next fresh =>
    refine ⟨by simpa using fresh, ?_⟩
    split at done
    · cases done
    · split at done
      · cases done
      · exact (Except.ok.inj done).symm

theorem insert_command_ok {command : Command} (done : store.insertCommand command = .ok next) :
    (∀ other ∈ store.commands, other.id ≠ command.id) ∧
      next = { store with commands := store.commands ++ [command] } := by
  unfold Store.insertCommand at done
  split at done
  · cases done
  · next fresh =>
    refine ⟨by simpa using fresh, ?_⟩
    split at done
    · cases done
    · exact (Except.ok.inj done).symm

theorem owned_run_ok (done : ownedRun store runId ownerId = .ok run) :
    store.run? runId = some run ∧ run.ownerId = ownerId := by
  unfold ownedRun at done
  split at done
  · cases done
  · next row found =>
    split at done
    · next owner =>
      cases done
      exact ⟨found, owner⟩
    · cases done

theorem lease_candidate_some (selected : leaseCandidate text store principal now = some run) :
    run ∈ store.runs ∧ run.ownerId = principal.ownerId ∧ run.status.isClaimable = true ∧
      scopeConflicts store run now = false := by
  unfold leaseCandidate at selected
  simp only at selected
  split at selected
  · cases selected
  · split at selected
    · cases selected
    · have admitted := find?_some selected
      have mem := mem_of_mem_take (mem_of_find?_eq_some selected)
      simp only [mem_insertionSort, mem_filter, Bool.and_eq_true, decide_eq_true_eq] at mem
      simp only [leaseAdmits, Bool.and_eq_true, Bool.not_eq_true'] at admitted
      exact ⟨mem.1, mem.2.1.1, mem.2.2, admitted.2⟩

theorem effects_keyed (keyed : store.Keyed) (effects : Effects now store next) : next.Keyed := by
  induction effects with
  | refl => exact keyed
  | tail _ effect ih => exact effect_keyed ih effect

theorem lease_deadline_later (now : Time) (leaseSeconds : Int) :
    now < leaseDeadline now leaseSeconds := by
  have positive : (0 : Int) < max 5 (min 300 leaseSeconds) := by omega
  have cast : (0 : ℚ) < ((max 5 (min 300 leaseSeconds) : Int) : ℚ) := by exact_mod_cast positive
  exact lt_add_of_pos_right now cast

def Run.granted (leaseEpoch : Nat) (now : Time) (row : Run) : Run :=
  { row.setStatus .leased now with leaseEpoch := leaseEpoch }

/-- The lease row that `lease_run` inserts. -/
def newLease (principal : DevicePrincipal) (run : Run) (leaseId : String) (expiresAt now : Time) :
    Lease :=
  { id := leaseId, runId := run.id, ownerId := principal.ownerId
    deviceId := principal.deviceId, leaseEpoch := run.leaseEpoch + 1, status := .active
    issuedAt := now, expiresAt := expiresAt, renewedAt := now, ackHighWater := 0
    terminalEventId := "" }

theorem lease_run_cases (keyed : store.Keyed)
    (done : leaseRun text store principal leaseSeconds leaseId now = .ok (next, grant)) :
    ∃ expired, expireLeases text store (some principal.ownerId) now = .ok expired ∧
      ((leaseCandidate text expired principal now = none ∧ next = expired ∧ grant = none) ∨
      ∃ run, leaseCandidate text expired principal now = some run ∧
        (∀ other ∈ expired.leases, other.id ≠ leaseId) ∧
        next = { expired.updateRun run.id (Run.granted (run.leaseEpoch + 1) now) with
          leases := expired.leases ++
            [newLease principal run leaseId (leaseDeadline now leaseSeconds) now] } ∧
        grant = some
          { leaseId := leaseId, leaseEpoch := run.leaseEpoch + 1
            expiresAt := leaseDeadline now leaseSeconds
            run := run.granted (run.leaseEpoch + 1) now, ackHighWater := 0 }) := by
  obtain ⟨expired, expiring, done⟩ := bind_ok done
  refine ⟨expired, expiring, ?_⟩
  have keyedExpired := effects_keyed keyed (expire_leases_effects keyed expiring)
  cases selected : leaseCandidate text expired principal now with
  | none =>
    rw [selected] at done
    obtain ⟨rfl, rfl⟩ := Prod.mk.inj (Except.ok.inj done)
    exact Or.inl ⟨rfl, rfl, rfl⟩
  | some run =>
    rw [selected] at done
    obtain ⟨granted, granting, rest⟩ := bind_ok done
    obtain ⟨fresh, rfl⟩ := insert_lease_ok granting
    have found := run_of_mem keyedExpired (lease_candidate_some selected).1
    have frame (row : Run) : Run.Frame row (row.granted (run.leaseEpoch + 1) now) := rfl
    have moved : ({ expired.updateRun run.id (Run.granted (run.leaseEpoch + 1) now) with
        leases := expired.leases ++
          [newLease principal run leaseId (leaseDeadline now leaseSeconds) now] } :
        Store Hash).run? run.id = some (run.granted (run.leaseEpoch + 1) now) :=
      run_update_self frame found
    simp only at rest
    erw [moved] at rest
    obtain ⟨rfl, rfl⟩ := Prod.mk.inj (Except.ok.inj rest)
    exact Or.inr ⟨run, rfl, fresh, rfl, rfl⟩

theorem lease_run_effects (keyed : store.Keyed)
    (done : leaseRun text store principal leaseSeconds leaseId now = .ok (next, grant)) :
    Effects now store next := by
  obtain ⟨expired, expiring, outcome⟩ := lease_run_cases keyed done
  have before : Effects now store expired := expire_leases_effects keyed expiring
  have keyedExpired : expired.Keyed := effects_keyed keyed before
  rcases outcome with ⟨-, rfl, -⟩ | ⟨run, selected, fresh, rfl, -⟩
  · exact before
  · obtain ⟨mem, owner, claimable, admitted⟩ := lease_candidate_some selected
    refine before.tail ?_
    exact .grant run _ _ (run_of_mem keyedExpired mem) claimable admitted
      (fun _ => rfl) rfl rfl rfl owner.symm rfl rfl rfl rfl fresh le_rfl

theorem current_lease_ok {leaseEpoch : Nat}
    (done : currentLease store principal runId leaseId leaseEpoch = .ok lease) :
    lease ∈ store.leases ∧ lease.id = leaseId ∧ lease.runId = runId ∧
      lease.deviceId = principal.deviceId ∧ lease.ownerId = principal.ownerId ∧
      lease.leaseEpoch = leaseEpoch ∧
      ∃ run, store.run? runId = some run ∧ run.leaseEpoch = leaseEpoch := by
  unfold currentLease at done
  simp only at done
  split at done
  · next held run found ran =>
    have mem := mem_of_find?_eq_some found
    have matched := find?_some found
    simp only [Bool.and_eq_true, decide_eq_true_eq] at matched
    split at done
    · next epochs =>
      cases done
      exact ⟨mem, matched.1.1.1, matched.1.1.2, matched.1.2, matched.2, epochs.1, run, ran,
        epochs.2⟩
    · cases done
  · cases done

theorem renew_lease_effects {leaseEpoch : Nat} {renewal : LeaseRenewal}
    (done : renewLease store principal runId leaseId leaseEpoch leaseSeconds now =
      .ok (next, renewal)) :
    Effects now store next := by
  obtain ⟨lease, current, done⟩ := bind_ok done
  obtain ⟨mem, rfl, -⟩ := current_lease_ok current
  split at done
  · next live =>
    obtain ⟨rfl, -⟩ := Prod.mk.inj (Except.ok.inj done)
    exact Relation.ReflTransGen.single
      (.renew lease _ mem live (lease_deadline_later now leaseSeconds))
  · cases done

theorem create_run_effects {draft : RunDraft} (done : createRun store draft now = .ok next) :
    Effects now store next := by
  unfold createRun at done
  split at done
  · cases done
  · next fresh =>
    cases done
    refine Relation.ReflTransGen.single (.create _ ?_ rfl rfl)
    exact lookup_eq_none_iff.mpr (by simpa using fresh)

theorem insert_command_effects {command : Command} (found : store.run? run.id = some run)
    (open_ : run.status.isTerminal = false) (runId : command.runId = run.id)
    (pending : command.status = .pending) (done : store.insertCommand command = .ok next) :
    Effects now store next := by
  obtain ⟨fresh, rfl⟩ := insert_command_ok done
  exact Relation.ReflTransGen.single (.command run command found open_ runId pending fresh)

variable {commandId : String}

theorem request_command_effects {commandType : CommandType}
    (found : store.run? run.id = some run) (open_ : run.status.isTerminal = false)
    (done : requestCommand store run.id ownerId commandId commandType now = .ok next) :
    Effects now store next := by
  unfold requestCommand at done
  split at done
  · cases done
    exact Relation.ReflTransGen.refl
  · exact insert_command_effects found open_ rfl rfl done

theorem claimable_open (claimable : status.isClaimable = true) : status.isTerminal = false := by
  cases status <;> first | rfl | cases claimable

theorem request_cancel_effects
    (done : requestCancel text store runId ownerId commandId now = .ok next) :
    Effects now store next := by
  obtain ⟨run, owned, done⟩ := bind_ok done
  obtain ⟨found, -⟩ := owned_run_ok owned
  obtain rfl := run_id found
  split at done
  · cases done
    exact Relation.ReflTransGen.refl
  · next notTerminal =>
    have open_ : run.status.isTerminal = false := by simpa using notTerminal
    split at done
    · next idle =>
      simp only [Bool.and_eq_true, Bool.or_eq_true, decide_eq_true_eq, Bool.not_eq_true'] at idle
      obtain ⟨assign, business, rfl, move, status⟩ :=
        server_terminal_cases found open_ rfl done
      exact Relation.ReflTransGen.single
        (.endRun run assign business found idle.1 idle.2 move (status run))
    · let assign : Run → Run := fun row => { row with
        cancelVersion := run.cancelVersion + 1, cancelRequestedAt := now
        report := row.report.touch now }
      have marked : Effect now store (store.updateRun run.id assign) :=
        .mark run.id assign ⟨fun _ => rfl, fun _ => rfl, fun _ _ => le_rfl, Or.inl rfl⟩ fun _ => rfl
      have frame (row : Run) : Run.Frame row (assign row) := rfl
      have foundMarked : (store.updateRun run.id assign).run? (assign run).id =
          some (assign run) := run_update_self frame found
      refine Relation.ReflTransGen.head marked ?_
      exact insert_command_effects foundMarked open_ rfl rfl done

theorem request_pause_effects (done : requestPause store runId ownerId commandId now = .ok next) :
    Effects now store next := by
  obtain ⟨run, owned, done⟩ := bind_ok done
  obtain ⟨found, -⟩ := owned_run_ok owned
  obtain rfl := run_id found
  split at done
  · cases done
  · next notTerminal =>
    have open_ : run.status.isTerminal = false := by simpa using notTerminal
    split at done
    · cases done
      exact Relation.ReflTransGen.refl
    · split at done
      · next claimable =>
        cases done
        exact Relation.ReflTransGen.single (.pause run _ found claimable
          ⟨fun _ => rfl, fun _ => rfl, fun _ _ => le_rfl, Or.inl rfl⟩ rfl)
      · split at done
        · exact request_command_effects found open_ done
        · cases done

theorem request_resume_effects
    (done : requestResume text store runId ownerId commandId now = .ok next) :
    Effects now store next := by
  obtain ⟨run, owned, done⟩ := bind_ok done
  obtain ⟨found, -⟩ := owned_run_ok owned
  obtain rfl := run_id found
  split at done
  · cases done
  · next notPaused =>
    have paused : run.status = .paused := by simpa using notPaused
    have open_ : run.status.isTerminal = false := by rw [paused]; rfl
    split at done
    · exact request_command_effects found open_ done
    · next notLive =>
      have idle : store.hasLiveLease run.id now = false := by simpa using notLive
      split at done
      · next unleased =>
        cases done
        exact Relation.ReflTransGen.single (.abandon run _ store.business found paused idle
          ⟨fun _ => rfl, fun _ => rfl, fun _ _ => le_rfl, Or.inl rfl⟩ (Or.inr ⟨unleased, rfl⟩))
      · have foundExpired : (store.expireLeasesOf run.id).run? run.id = some run := found
        obtain ⟨assign, business, rfl, move, status⟩ :=
          server_terminal_cases foundExpired open_ rfl done
        exact Relation.ReflTransGen.single (.abandon run assign business found paused idle
          ⟨move.frame, move.epoch, move.recoveries, move.messages⟩ (Or.inl (status run)))

theorem answer_user_effects {questionEventId : String} {answers : List String}
    (done : answerUser store runId ownerId questionEventId answers commandId now = .ok next) :
    Effects now store next := by
  obtain ⟨run, owned, done⟩ := bind_ok done
  obtain ⟨found, -⟩ := owned_run_ok owned
  obtain rfl := run_id found
  simp only at done
  split at done
  · cases done
  · next asked =>
    simp only [Bool.or_eq_true, not_or, Bool.not_eq_true', ne_eq, decide_eq_true_eq,
      Decidable.not_not] at asked
    have open_ : run.status.isTerminal = false := by rw [asked.2]; rfl
    exact insert_command_effects found open_ rfl rfl done

/-- How one effect moves the status and the epoch of a Run. -/
inductive RunChange (now : Time) (store : Store Hash) (old new : Run) : Prop
  | kept : new.status = old.status → new.leaseEpoch = old.leaseEpoch → RunChange now store old new
  | leased : old.status.isClaimable = true → new.status = .leased →
      new.leaseEpoch = old.leaseEpoch + 1 → RunChange now store old new
  | recovered : new.leaseEpoch = old.leaseEpoch → Recovered old new → RunChange now store old new
  | withdrawn : new.leaseEpoch = old.leaseEpoch → old.status.isClaimable = true →
      (new.status = .paused ∨ new.status = .cancelled) → RunChange now store old new
  | unpaused : new.leaseEpoch = old.leaseEpoch → old.status = .paused →
      store.hasLiveLease old.id now = false →
      (new.status = .cancelled ∨ new.status = .failed ∨
        (old.leaseEpoch = 0 ∧ new.status = .recoverable)) → RunChange now store old new

theorem move_run_change {moved : Store Hash} {other : String} (rows : moved.runs = store.runs)
    (frame : ∀ row, Run.Frame row (assign row)) (found : store.run? other = some run)
    (own : store.run? runId = some run → run.recoveryCount ≤ (assign run).recoveryCount ∧
      RunChange now store run (assign run)) :
    ∃ after, (moved.updateRun runId assign).run? other = some after ∧ Run.Frame run after ∧
      run.recoveryCount ≤ after.recoveryCount ∧ RunChange now store run after := by
  have same : moved.run? other = some run := by
    rw [Store.run?, rows]
    exact found
  rw [run_update_run moved frame, same]
  split
  · next isOwn =>
    subst isOwn
    exact ⟨assign run, rfl, frame run, own found⟩
  · exact ⟨run, rfl, Run.Frame.refl run, le_rfl, .kept rfl rfl⟩

theorem effect_run_change (effect : Effect now store next) (found : store.run? runId = some run) :
    ∃ after, next.run? runId = some after ∧ Run.Frame run after ∧
      run.recoveryCount ≤ after.recoveryCount ∧ RunChange now store run after := by
  have still : ∃ after, store.run? runId = some after ∧ Run.Frame run after ∧
      run.recoveryCount ≤ after.recoveryCount ∧ RunChange now store run after :=
    ⟨run, found, Run.Frame.refl run, le_rfl, .kept rfl rfl⟩
  cases effect with
  | devices => exact still
  | renew => exact still
  | command => exact still
  | create created absent =>
    have different : created.id ≠ runId := by
      rintro rfl
      rw [absent] at found
      cases found
    obtain ⟨after, afterFound, rest⟩ := still
    exact ⟨after, (lookup_append_singleton different).trans afterFound, rest⟩
  | grant chosen assign lease chosenFound claimable admitted frame leased epoch runId' owner
      leaseEpoch active ack terminal fresh recoveries =>
      refine move_run_change rfl frame found fun own => ?_
      cases chosenFound.symm.trans own
      exact ⟨recoveries, .leased claimable leased epoch⟩
  | release lease status assign business mem active cause move recovered =>
    refine move_run_change rfl move.frame found fun own => ?_
    exact ⟨move.recoveries run own, .recovered (move.epoch run) (recovered run own)⟩
  | abandon chosen assign business chosenFound paused idle move status =>
    refine move_run_change rfl move.frame found fun own => ?_
    cases chosenFound.symm.trans own
    exact ⟨move.recoveries run own, .unpaused (move.epoch run) paused idle (Or.inr status)⟩
  | endRun chosen assign business chosenFound status idle move ended =>
    refine move_run_change rfl move.frame found fun own => ?_
    cases chosenFound.symm.trans own
    refine ⟨move.recoveries run own, ?_⟩
    rcases status with claimable | paused
    · exact .withdrawn (move.epoch run) claimable (Or.inr ended)
    · exact .unpaused (move.epoch run) paused idle (Or.inl ended)
  | pause chosen assign chosenFound claimable move paused =>
    refine move_run_change rfl move.frame found fun own => ?_
    cases chosenFound.symm.trans own
    exact ⟨move.recoveries run own, .withdrawn (move.epoch run) claimable (Or.inl paused)⟩
  | mark marked assign move status =>
    refine move_run_change rfl move.frame found fun own => ?_
    exact ⟨move.recoveries run own, .kept (status run) (move.epoch run)⟩

theorem effect_new_run {after : Run} (effect : Effect now store next)
    (absent : store.run? runId = none) (found : next.run? runId = some after) :
    after.status = .queued ∧ after.leaseEpoch = 0 := by
  have never : store.run? runId = some after → False := by
    rw [absent]
    exact fun impossible => by cases impossible
  have unmoved {moved : Store Hash} {other : String} {assign : Run → Run}
      (rows : moved.runs = store.runs) (frame : ∀ row, Run.Frame row (assign row))
      (movedFound : (moved.updateRun other assign).run? runId = some after) : False := by
    rw [run_update_run moved frame, Store.run?, rows] at movedFound
    change (if _ then (store.run? runId).map assign else store.run? runId) = _ at movedFound
    rw [absent] at movedFound
    split at movedFound <;> cases movedFound
  cases effect with
  | devices => exact (never found).elim
  | renew => exact (never found).elim
  | command => exact (never found).elim
  | create created createdAbsent queued epoch =>
    by_cases same : created.id = runId
    · subst same
      have new : some after = some created :=
        found.symm.trans (lookup_append_self createdAbsent)
      cases new
      exact ⟨queued, epoch⟩
    · exact (never ((lookup_append_singleton same).symm.trans found)).elim
  | grant chosen assign lease chosenFound claimable admitted frame =>
    exact (unmoved rfl frame found).elim
  | release lease status assign business mem active cause move =>
    exact (unmoved rfl move.frame found).elim
  | abandon chosen assign business chosenFound paused idle move =>
    exact (unmoved rfl move.frame found).elim
  | endRun chosen assign business chosenFound status idle move =>
    exact (unmoved rfl move.frame found).elim
  | pause chosen assign chosenFound claimable move => exact (unmoved rfl move.frame found).elim
  | mark marked assign move => exact (unmoved rfl move.frame found).elim

def Call.isSubmit : Call Hash → Bool
  | .submitEvents .. => true
  | _ => false

theorem perform_effects [DecidableEq Hash] {host : Host Hash} {call : Call Hash}
    (keyed : store.Keyed) (other : call.isSubmit = false)
    (done : perform host store now call = .ok next) : Effects now store next := by
  cases call with
  | createRun draft => exact create_run_effects done
  | leaseRun principal leaseSeconds leaseId =>
    obtain ⟨⟨leased, grant⟩, leasing, rest⟩ := bind_ok done
    cases rest
    exact lease_run_effects keyed leasing
  | renewLease principal runId leaseId leaseEpoch leaseSeconds =>
    obtain ⟨⟨renewed, renewal⟩, renewing, rest⟩ := bind_ok done
    cases rest
    exact renew_lease_effects renewing
  | submitEvents => cases other
  | requestCancel => exact request_cancel_effects done
  | requestPause => exact request_pause_effects done
  | requestResume => exact request_resume_effects done
  | answerUser => exact answer_user_effects done
  | revokeDevice ownerId deviceId =>
    obtain ⟨⟨revoked, found⟩, revoking, rest⟩ := bind_ok done
    cases rest
    exact revoke_device_effects keyed revoking
  | expireLeases ownerId => exact expire_leases_effects keyed done

theorem perform_cases [DecidableEq Hash] {host : Host Hash} {call : Call Hash} (keyed : store.Keyed)
    (done : perform host store now call = .ok next) :
    Effects now store next ∨ ∃ principal runId leaseId leaseEpoch events reply,
        call = .submitEvents principal runId leaseId leaseEpoch events ∧
        submitEvents host store principal runId leaseId leaseEpoch events now =
          .ok (next, reply) := by
  cases submitting : call.isSubmit with
  | false => exact Or.inl (perform_effects keyed submitting done)
  | true =>
    cases call with
    | submitEvents principal runId leaseId leaseEpoch events =>
      obtain ⟨⟨submitted, reply⟩, submit, rest⟩ := bind_ok done
      cases rest
      exact Or.inr ⟨principal, runId, leaseId, leaseEpoch, events, reply, rfl, submit⟩
    | _ => cases submitting

end AgentMate
