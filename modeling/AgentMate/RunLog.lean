import AgentMate.OrderedLog
import AgentMate.TerminalStatus
import Mathlib.Data.Prod.Lex

/-! # The log of one Run -/

namespace AgentMate

open TransitionSystem List
open OrderedLog (Ordered)

variable {Hash : Type}

def Store.runLog (store : Store Hash) (runId : String) : List (EventRow Hash) :=
  store.events.filter fun row => row.runId = runId

def EventRow.place (row : EventRow Hash) : ℕ ×ₗ ℕ := toLex (row.leaseEpoch, row.sequence)

theorem place_lt {left right : EventRow Hash} : left.place < right.place ↔
    left.leaseEpoch < right.leaseEpoch ∨
      (left.leaseEpoch = right.leaseEpoch ∧ left.sequence < right.sequence) :=
  Prod.Lex.toLex_lt_toLex

def OrderedLogs (store : Store Hash) : Prop :=
  ∀ runId, Ordered EventRow.place (store.runLog runId)

variable {store : Store Hash} {runId : String} {row : EventRow Hash} {host : Host Hash} {now : Time}
  {seen rest : List (EventRow Hash)}

theorem mem_run_log : row ∈ store.runLog runId ↔ row ∈ store.events ∧ row.runId = runId := by
  simp [Store.runLog]

theorem run_log_epoch (store : Store Hash) (runId : String) (epoch : Nat) :
    (store.runLog runId).filter (fun row => row.leaseEpoch = epoch) =
      store.epochLog runId epoch := by
  rw [Store.runLog, Store.epochLog, filter_filter]
  apply filter_congr
  intro row _
  exact Bool.and_comm _ _

theorem stored_epoch (leaseInv : LeaseInv now store) (logInv : LogInv host store)
    (stored : row ∈ store.events) :
    ∃ run, store.run? row.runId = some run ∧ 1 ≤ row.leaseEpoch ∧
      row.leaseEpoch ≤ run.leaseEpoch := by
  obtain ⟨lease, mem, -, sameRun, sameEpoch, -⟩ := logInv.written row stored
  obtain ⟨run, found, -, positive, bound⟩ := leaseInv.held lease mem
  rw [sameRun] at found
  rw [sameEpoch] at positive bound
  exact ⟨run, found, positive, bound⟩

section

variable {host : Host Hash} {lease : Lease} {now : Time} {batch next : Batch Hash}
  {event : RunEvent Hash}

theorem applied_events (applied : Applied host lease now batch next event) :
    next.store.events = batch.store.events ++ [event.row lease event.hash now] := by
  obtain ⟨output, business, -, after⟩ := applied.store
  rw [after, after_event_events]

theorem applied_last (inv : BatchInv host now lease batch)
    (applied : Applied host lease now batch next event)
    (stored : row ∈ batch.store.events) (sameRun : row.runId = lease.runId) :
    row.place < (event.row lease event.hash now).place := by
  have settledInv : LeaseInv now (batch.settled lease) := acknowledge_lease_inv inv.leases
  obtain ⟨run, found, -, bound⟩ := stored_epoch settledInv inv.log stored
  obtain ⟨own, ownFound, ownEpoch⟩ := inv.holding.run
  have same : own = run := by
    apply Option.some.inj
    rw [← ownFound, ← found, sameRun]
    rfl
  subst same
  apply place_lt.mpr
  rcases Nat.lt_or_eq_of_le bound with earlier | current
  · left
    rw [ownEpoch] at earlier
    exact earlier
  · right
    have epoch : row.leaseEpoch = lease.leaseEpoch := current.trans ownEpoch
    obtain ⟨held, mem, -, heldRun, heldEpoch, -, heldAck⟩ := settled_row inv.holding
    have behind := (stored_sequence inv.log mem stored (sameRun.trans heldRun.symm)
      (epoch.trans heldEpoch.symm)).2
    have sequence := applied.sequence
    refine ⟨epoch, ?_⟩
    change row.sequence < event.sequence
    omega

theorem applied_ordered (inv : BatchInv host now lease batch) (ordered : OrderedLogs batch.store)
    (applied : Applied host lease now batch next event) : OrderedLogs next.store := by
  intro runId
  rw [Store.runLog, applied_events applied, filter_append]
  by_cases same : runId = lease.runId
  · have own : [event.row lease event.hash now].filter (fun row => row.runId = runId) =
        [event.row lease event.hash now] := by
      simp [RunEvent.row, same]
    rw [own]
    apply OrderedLog.ordered_concat (ordered runId)
    intro earlier mem
    obtain ⟨stored, earlierRun⟩ := mem_run_log.mp mem
    exact applied_last inv applied stored (earlierRun.trans same)
  · have foreign : [event.row lease event.hash now].filter (fun row => row.runId = runId) = [] := by
      simp [RunEvent.row, Ne.symm same]
    rw [foreign, append_nil]
    exact ordered runId

variable [DecidableEq Hash]

variable {final : Batch Hash} {events : List (RunEvent Hash)}

theorem applied_all_ordered (ordered : OrderedLogs batch.store)
    (applied : AppliedAll host lease now batch events final) : OrderedLogs final.store := by
  induction applied with
  | nil => exact ordered
  | cons inv _ first _ ih => exact ih (applied_ordered inv ordered first)

theorem applied_all_other_log (applied : AppliedAll host lease now batch events final)
    (different : runId ≠ lease.runId) : final.store.runLog runId = batch.store.runLog runId := by
  induction applied with
  | nil => rfl
  | cons _ _ first _ ih =>
    rw [ih, Store.runLog, applied_events first, filter_append]
    simp [RunEvent.row, Ne.symm different, Store.runLog]

end

/-- The Run row is still there, with no smaller epoch; once ended, with the same. -/
def EpochKept (store next : Store Hash) (runId : String) : Prop :=
  ∀ run, store.run? runId = some run → ∃ after, next.run? runId = some after ∧
    run.leaseEpoch ≤ after.leaseEpoch ∧
    (run.status.isTerminal = true → after.leaseEpoch = run.leaseEpoch)

theorem epoch_kept_refl (store : Store Hash) (runId : String) : EpochKept store store runId :=
  fun run found => ⟨run, found, le_rfl, fun _ => rfl⟩

theorem move_epoch_kept (store : Store Hash) {moved : String} {assign : Run → Run}
    (frame : ∀ row, Run.Frame row (assign row))
    (own : ∀ run, store.run? moved = some run → run.leaseEpoch ≤ (assign run).leaseEpoch ∧
      (run.status.isTerminal = true → (assign run).leaseEpoch = run.leaseEpoch))
    (runId : String) : EpochKept store (store.updateRun moved assign) runId := by
  intro run found
  rw [run_update_run store frame, found]
  split
  · next same =>
    subst same
    exact ⟨assign run, rfl, own run found⟩
  · exact ⟨run, rfl, le_rfl, fun _ => rfl⟩

theorem effect_epoch_kept {next : Store Hash} (effect : Effect now store next)
    (runId : String) : EpochKept store next runId := by
  have still {assign : Run → Run} (epoch : ∀ row, (assign row).leaseEpoch = row.leaseEpoch)
      (run : Run) : run.leaseEpoch ≤ (assign run).leaseEpoch ∧
        (run.status.isTerminal = true → (assign run).leaseEpoch = run.leaseEpoch) :=
    ⟨(epoch run).ge, fun _ => epoch run⟩
  cases effect with
  | devices => exact epoch_kept_refl store runId
  | renew => exact epoch_kept_refl store runId
  | command => exact epoch_kept_refl store runId
  | create run absent =>
    intro row found
    have different : run.id ≠ runId := by
      rintro rfl
      rw [absent] at found
      cases found
    exact ⟨row, (Table.lookup_append_singleton different).trans found, le_rfl, fun _ => rfl⟩
  | grant run assign lease found claimable admitted frame leased epoch =>
    apply move_epoch_kept store frame
    intro row rowFound
    cases found.symm.trans rowFound
    rw [epoch, claimable_open claimable]
    exact ⟨Nat.le_succ _, fun terminal => by cases terminal⟩
  | release lease status assign business mem active cause move =>
    exact move_epoch_kept { store with business := business } move.frame
      (fun run _ => still move.epoch run) runId
  | abandon run assign business found paused idle move =>
    exact move_epoch_kept { store with business := business } move.frame
      (fun run _ => still move.epoch run) runId
  | endRun run assign business found status idle move =>
    exact move_epoch_kept { store with business := business } move.frame
      (fun run _ => still move.epoch run) runId
  | pause run assign found claimable move =>
    exact move_epoch_kept store move.frame (fun run _ => still move.epoch run) runId
  | mark marked assign move =>
    exact move_epoch_kept store move.frame (fun run _ => still move.epoch run) runId

theorem effects_epoch_kept {next : Store Hash} (effects : Effects now store next)
    (runId : String) : EpochKept store next runId := by
  induction effects with
  | refl => exact epoch_kept_refl store runId
  | tail before effect ih =>
    intro run found
    obtain ⟨middle, middleFound, grown, ended⟩ := ih run found
    obtain ⟨after, afterFound, grownMore, stillEnded⟩ :=
      effect_epoch_kept effect runId middle middleFound
    refine ⟨after, afterFound, grown.trans grownMore, fun terminal => ?_⟩
    obtain ⟨same, sameFound, sameStatus⟩ := effects_status_kept before runId run found terminal
    cases middleFound.symm.trans sameFound
    rw [stillEnded (by rw [sameStatus]; exact terminal)]
    exact ended terminal

section

variable [DecidableEq Hash] {host : Host Hash}

variable {server next : Server Hash} {action : Server.Action Hash}

theorem server_ordered_logs (reachable : (serverMachine host).Reachable Anything server) :
    OrderedLogs server.store := by
  obtain ⟨start, fresh, path⟩ := reachable
  have reachedStart : (serverMachine host).Reachable Anything start :=
    ⟨start, fresh, .refl start⟩
  apply path_stable (fun server => OrderedLogs server.store) reachedStart ?_ ?_ path
  · intro server action next reached ordered _ step
    rcases server_step_cases (server_lease_inv reached) (server_log_inv reached) step with
      effects | ⟨lease, events, final, -, -, applied, -, same⟩
    · intro runId
      rw [Store.runLog, effects_events effects]
      exact ordered runId
    · have opened : OrderedLogs (Batch.start server.store lease).store := ordered
      rw [same]
      exact applied_all_ordered opened applied
  · intro runId
    rw [Store.runLog, fresh.events]
    exact List.Pairwise.nil

theorem server_step_epoch (reachable : (serverMachine host).Reachable Anything server)
    (step : (serverMachine host).Step server action next) (runId : String) :
    EpochKept server.store next.store runId := by
  rcases server_step_cases (server_lease_inv reachable) (server_log_inv reachable) step with
    effects | ⟨lease, events, final, -, -, applied, -, same⟩
  · exact effects_epoch_kept effects runId
  · intro run found
    rw [same]
    by_cases own : runId = lease.runId
    · subst own
      have opened : (Batch.start server.store lease).store.run? lease.runId = some run := found
      obtain ⟨after, afterFound, -, epoch, -⟩ := applied_all_status applied opened
      exact ⟨after, afterFound, epoch.ge, fun _ => epoch⟩
    · exact ⟨run, (applied_all_other_run applied own).trans found, le_rfl, fun _ => rfl⟩

theorem server_step_ended_log (reachable : (serverMachine host).Reachable Anything server)
    (step : (serverMachine host).Step server action next) {run : Run}
    (found : server.store.run? runId = some run) (ended : run.status.isTerminal = true) :
    next.store.runLog runId = server.store.runLog runId := by
  have leaseInv := lease_inv_later (server_lease_inv reachable) step.1
  rcases server_step_cases (server_lease_inv reachable) (server_log_inv reachable) step with
    effects | ⟨lease, events, final, mem, -, applied, -, same⟩
  · rw [Store.runLog, effects_events effects, Store.runLog]
  · rw [same]
    by_cases own : runId = lease.runId
    · subst own
      rcases applied_all_live applied with none | live
      · subst none
        cases applied
        rfl
      · have open_ := live_lease_open leaseInv mem live found
        rw [ended] at open_
        cases open_
    · exact applied_all_other_log applied own

theorem server_step_run_log (reachable : (serverMachine host).Reachable Anything server)
    (step : (serverMachine host).Step server action next) (runId : String) :
    server.store.runLog runId <+: next.store.runLog runId :=
  (server_step_events (server_lease_inv reachable) (server_log_inv reachable) step).filter _

end

/-- The log of a Run stays in the order of its places and grows at its end only; once the Run has
ended, its status, its epoch and its log stay as they are. -/
theorem run_log_append_only [DecidableEq Hash] {host : Host Hash} {server later : Server Hash}
    (reachable : (serverMachine host).Reachable Anything server)
    (path : (serverMachine host).Path Anything server later) (runId : String) :
    Ordered EventRow.place (later.store.runLog runId) ∧
      server.store.runLog runId <+: later.store.runLog runId ∧
      ∀ run, server.store.run? runId = some run → run.status.isTerminal = true →
        later.store.runLog runId = server.store.runLog runId ∧
          ∃ after, later.store.run? runId = some after ∧ after.status = run.status ∧
            after.leaseEpoch = run.leaseEpoch := by
  refine ⟨server_ordered_logs (reachable_path reachable path) runId, ?_⟩
  induction path with
  | refl => exact ⟨prefix_rfl, fun run found _ => ⟨rfl, run, found, rfl, rfl⟩⟩
  | step before _ step ih =>
    have reached := reachable_path reachable before
    obtain ⟨grown, ended⟩ := ih
    refine ⟨grown.trans (server_step_run_log reached step runId), fun run found terminal => ?_⟩
    obtain ⟨same, middle, middleFound, status, epoch⟩ := ended run found terminal
    rw [← status] at terminal
    obtain ⟨after, afterFound, -, kept⟩ := server_step_epoch reached step runId middle middleFound
    obtain ⟨row, rowFound, rowStatus⟩ :=
      server_step_status_kept (server_lease_inv reached) (server_log_inv reached) step runId middle
        middleFound terminal
    cases afterFound.symm.trans rowFound
    exact ⟨(server_step_ended_log reached step middleFound terminal).trans same, after, afterFound,
      rowStatus.trans status, (kept terminal).trans epoch⟩

theorem completed_log_kept : (emptyServer.serveAll plainHost completedRun).store.runLog "run-1" <+:
      ((emptyServer.serveAll plainHost completedRun).serve plainHost
        ⟨40, .expireLeases none⟩).store.runLog "run-1" :=
  (run_log_append_only (small_run_reachable completedRun (by decide +kernel))
    (.step (.refl _) trivial ⟨by decide +kernel, rfl⟩) "run-1").2.1

/-- `(after_epoch, after_sequence)` is the place of the last event seen. -/
def CursorAt (seen : List (EventRow Hash)) (afterEpoch afterSequence : Nat) : Prop :=
  match seen.getLast? with
  | none => afterEpoch = 0 ∧ afterSequence = 0
  | some last => afterEpoch = last.leaseEpoch ∧ afterSequence = last.sequence

theorem events_after_cursor (leaseInv : LeaseInv now store) (logInv : LogInv host store)
    (ordered : OrderedLogs store) {afterEpoch afterSequence : Nat}
    (split : store.runLog runId = seen ++ rest) (cursor : CursorAt seen afterEpoch afterSequence) :
    (store.runLog runId).filter (fun row =>
      if 0 < afterEpoch then
        afterEpoch < row.leaseEpoch || (row.leaseEpoch = afterEpoch && afterSequence < row.sequence)
      else afterSequence < row.sequence) = rest := by
  have stored (row : EventRow Hash) (mem : row ∈ seen ++ rest) : row ∈ store.events := by
    rw [← split] at mem
    exact (mem_run_log.mp mem).1
  have logOrdered := ordered runId
  rw [split] at logOrdered ⊢
  unfold CursorAt at cursor
  cases read : seen.getLast? with
  | none =>
    rw [read] at cursor
    obtain ⟨rfl, rfl⟩ := cursor
    obtain rfl := getLast?_eq_none_iff.mp read
    apply filter_eq_self.mpr
    intro row mem
    obtain ⟨lease, leaseMem, -, sameRun, sameEpoch, -⟩ :=
      logInv.written row (stored row mem)
    have positive : 0 < row.sequence :=
      (stored_sequence logInv leaseMem (stored row mem) sameRun.symm sameEpoch.symm).1
    simpa using positive
  | some last =>
    rw [read] at cursor
    obtain ⟨rfl, rfl⟩ := cursor
    have lastStored := stored last (mem_append_left _ (mem_of_getLast? read))
    obtain ⟨run, -, positive, -⟩ := stored_epoch leaseInv logInv lastStored
    have positive : 0 < last.leaseEpoch := positive
    refine Eq.trans ?_ (OrderedLog.filter_after_last logOrdered read)
    apply filter_congr
    intro row _
    rw [if_pos positive]
    simp [place_lt, eq_comm]

theorem list_events_page (leaseInv : LeaseInv now store) (logInv : LogInv host store)
    (ordered : OrderedLogs store) {afterEpoch afterSequence : Nat}
    (split : store.runLog runId = seen ++ rest) (cursor : CursorAt seen afterEpoch afterSequence)
    (limit : Nat) :
    listEvents store runId afterEpoch afterSequence limit = rest.take (max 1 (min 1000 limit)) := by
  have restOrdered : Ordered EventRow.place rest := by
    have logOrdered := ordered runId
    rw [split] at logOrdered
    exact (OrderedLog.ordered_append.mp logOrdered).2.1
  have after := events_after_cursor leaseInv logInv ordered split cursor
  rw [Store.runLog, filter_filter] at after
  have read : (store.events.filter fun row => row.runId = runId &&
      if 0 < afterEpoch then
        afterEpoch < row.leaseEpoch || (row.leaseEpoch = afterEpoch && afterSequence < row.sequence)
      else afterSequence < row.sequence) = rest := by
    rw [← after]
    apply filter_congr
    intro row _
    exact Bool.and_comm _ _
  rw [listEvents, read]
  congr 1
  apply OrderedLog.sort_ordered _ restOrdered
  intro earlier later order
  rcases place_lt.mp order with apart | ⟨same, sequence⟩
  · exact Or.inl apart
  · exact Or.inr ⟨same, sequence.le⟩

theorem epoch_events_log (ordered : OrderedLogs store) (runId : String) (epoch : Nat) :
    epochEvents store.events runId epoch = store.epochLog runId epoch := by
  have epochOrdered : Ordered EventRow.place (store.epochLog runId epoch) := by
    rw [← run_log_epoch]
    exact (ordered runId).filter _
  rw [epochEvents, ← Store.epochLog]
  apply List.Pairwise.insertionSort_eq
  apply epochOrdered.imp_of_mem
  intro earlier later earlierMem laterMem order
  have sameEpoch := (mem_epoch_log.mp earlierMem).2.2.trans (mem_epoch_log.mp laterMem).2.2.symm
  rcases place_lt.mp order with apart | ⟨-, sequence⟩
  · omega
  · exact sequence.le

end AgentMate
