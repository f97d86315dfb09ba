import AgentMate.EventSubmission
import Mathlib.Data.List.Pairwise

/-! # The lease invariant -/

namespace AgentMate

open TransitionSystem Table List

variable {Hash : Type}

def Occupied (now : Time) (lease : Lease) (run : Run) : Prop :=
  run.status.isResident = true ∨ (run.status.isTerminal = true ∧ lease.expiresAt ≤ now)

structure LeaseInv (now : Time) (store : Store Hash) : Prop where
  keyed : store.Keyed
  epochs : store.leases.Pairwise fun earlier later =>
    earlier.runId = later.runId → earlier.leaseEpoch < later.leaseEpoch
  held : ∀ lease ∈ store.leases, ∃ run, store.run? lease.runId = some run ∧
    lease.ownerId = run.ownerId ∧ 1 ≤ lease.leaseEpoch ∧ lease.leaseEpoch ≤ run.leaseEpoch
  active : ∀ lease ∈ store.leases, lease.status = .active →
    ∀ run, store.run? lease.runId = some run →
      lease.leaseEpoch = run.leaseEpoch ∧ Occupied now lease run

section

variable {now : Time} {store : Store Hash}

theorem lease_inv_later {later : Time} (inv : LeaseInv now store) (order : now ≤ later) :
    LeaseInv later store := by
  refine ⟨inv.keyed, inv.epochs, inv.held, ?_⟩
  intro lease mem active run found
  obtain ⟨epoch, resident | ⟨terminal, expired⟩⟩ := inv.active lease mem active run found
  · exact ⟨epoch, Or.inl resident⟩
  · exact ⟨epoch, Or.inr ⟨terminal, expired.trans order⟩⟩

theorem lease_epoch_unique (inv : LeaseInv now store) {left right : Lease}
    (leftMem : left ∈ store.leases) (rightMem : right ∈ store.leases)
    (sameRun : left.runId = right.runId) (sameEpoch : left.leaseEpoch = right.leaseEpoch) :
    left = right := by
  by_contra different
  have distinct : store.leases.Pairwise fun earlier later =>
      earlier.runId = later.runId → earlier.leaseEpoch ≠ later.leaseEpoch :=
    inv.epochs.imp fun order same => Nat.ne_of_lt (order same)
  have symmetric : Std.Symm fun earlier later : Lease =>
      earlier.runId = later.runId → earlier.leaseEpoch ≠ later.leaseEpoch :=
    ⟨fun _ _ apart same => (apart same.symm).symm⟩
  exact distinct.forall leftMem rightMem different sameRun sameEpoch

theorem active_lease_unique (inv : LeaseInv now store) {left right : Lease}
    (leftMem : left ∈ store.leases) (rightMem : right ∈ store.leases)
    (leftActive : left.status = .active) (rightActive : right.status = .active)
    (sameRun : left.runId = right.runId) : left = right := by
  obtain ⟨run, found, -⟩ := inv.held left leftMem
  have leftEpoch := (inv.active left leftMem leftActive run found).1
  rw [sameRun] at found
  have rightEpoch := (inv.active right rightMem rightActive run found).1
  exact lease_epoch_unique inv leftMem rightMem sameRun (leftEpoch.trans rightEpoch.symm)

variable {lease : Lease}

theorem live_resident (inv : LeaseInv now store) {run : Run} (mem : lease ∈ store.leases)
    (live : lease.isLive now = true) (found : store.run? lease.runId = some run) :
    run.status.isResident = true := by
  simp only [Lease.isLive, Bool.and_eq_true, decide_eq_true_eq] at live
  obtain ⟨-, resident | ⟨-, expired⟩⟩ := inv.active lease mem live.1 run found
  · exact resident
  · exact absurd live.2 (not_lt.mpr expired)

theorem resident_not_claimable {status : RunStatus} (resident : status.isResident = true) :
    status.isClaimable = false := by
  cases status <;> first | rfl | cases resident

theorem claimable_no_active (inv : LeaseInv now store) {run : Run} (mem : lease ∈ store.leases)
    (found : store.run? lease.runId = some run) (claimable : run.status.isClaimable = true) :
    lease.status ≠ .active := by
  intro active
  obtain ⟨-, resident | ⟨terminal, -⟩⟩ := inv.active lease mem active run found
  · rw [resident_not_claimable resident] at claimable
    cases claimable
  · rw [claimable_open claimable] at terminal
    cases terminal

theorem not_live_expired {runId : String} (idle : store.hasLiveLease runId now = false)
    (mem : lease ∈ store.leases) (sameRun : lease.runId = runId)
    (active : lease.status = .active) : lease.expiresAt ≤ now := by
  rw [Store.hasLiveLease, any_eq_false] at idle
  have notLive := idle lease mem
  simp only [Lease.isLive, sameRun, active, decide_true, Bool.true_and,
    decide_eq_true_eq, not_lt] at notLive
  exact notLive

end

variable {now : Time} {store next : Store Hash}

/-- The invariant survives a change that keeps the identity of every lease, the
owner and the epoch of every Run, and what active leases say about their Runs. -/
theorem lease_inv_map (assign : Lease → Lease) (inv : LeaseInv now store) (keyed : next.Keyed)
    (rows : next.leases = store.leases.map assign)
    (identity : ∀ lease, (assign lease).runId = lease.runId ∧
      (assign lease).leaseEpoch = lease.leaseEpoch ∧ (assign lease).ownerId = lease.ownerId)
    (runs : ∀ runId run, store.run? runId = some run → ∃ moved, next.run? runId = some moved ∧
      moved.ownerId = run.ownerId ∧ moved.leaseEpoch = run.leaseEpoch)
    (active : ∀ lease ∈ store.leases, (assign lease).status = .active → lease.status = .active ∧
      ∀ run moved, store.run? lease.runId = some run → next.run? lease.runId = some moved →
        Occupied now lease run → Occupied now (assign lease) moved) :
    LeaseInv now next := by
  refine ⟨keyed, ?_, ?_, ?_⟩
  · rw [rows, pairwise_map]
    refine inv.epochs.imp fun {earlier later} order same => ?_
    obtain ⟨earlierRun, earlierEpoch, -⟩ := identity earlier
    obtain ⟨laterRun, laterEpoch, -⟩ := identity later
    rw [earlierEpoch, laterEpoch]
    exact order (earlierRun.symm.trans (same.trans laterRun))
  · intro lease mem
    rw [rows, mem_map] at mem
    obtain ⟨old, oldMem, rfl⟩ := mem
    obtain ⟨sameRun, sameEpoch, sameOwner⟩ := identity old
    obtain ⟨run, found, owner, positive, bound⟩ := inv.held old oldMem
    obtain ⟨moved, movedFound, movedOwner, movedEpoch⟩ := runs _ run found
    rw [sameRun, sameEpoch, sameOwner]
    exact ⟨moved, movedFound, owner.trans movedOwner.symm, positive, movedEpoch ▸ bound⟩
  · intro lease mem isActive moved movedFound
    rw [rows, mem_map] at mem
    obtain ⟨old, oldMem, rfl⟩ := mem
    obtain ⟨sameRun, sameEpoch, -⟩ := identity old
    rw [sameRun] at movedFound
    obtain ⟨run, found, -⟩ := inv.held old oldMem
    obtain ⟨oldActive, occupied⟩ := active old oldMem isActive
    obtain ⟨epoch, before⟩ := inv.active old oldMem oldActive run found
    obtain ⟨same, sameFound, -, sameRunEpoch⟩ := runs _ run found
    rw [sameFound] at movedFound
    cases movedFound
    rw [sameEpoch]
    exact ⟨epoch.trans sameRunEpoch.symm, occupied run _ found sameFound before⟩

theorem move_runs {runId : String} {assign : Run → Run} (frame : ∀ row, Run.Frame row (assign row))
    (epoch : ∀ row, (assign row).leaseEpoch = row.leaseEpoch) (other : String) (run : Run)
    (found : store.run? other = some run) :
    ∃ moved, (store.updateRun runId assign).run? other = some moved ∧
      moved.ownerId = run.ownerId ∧ moved.leaseEpoch = run.leaseEpoch := by
  rw [run_update_run store frame, found]
  split
  · exact ⟨assign run, rfl, (frame run).ownerId, epoch run⟩
  · exact ⟨run, rfl, rfl, rfl⟩

theorem update_lease_map (store : Store Hash) (leaseId : String) (assign : Lease → Lease) :
    (store.updateLease leaseId assign).leases =
      store.leases.map fun lease => if lease.id = leaseId then assign lease else lease := rfl

theorem effect_lease_inv (inv : LeaseInv now store) (effect : Effect now store next) :
    LeaseInv now next := by
  have keyed : next.Keyed := effect_keyed inv.keyed effect
  have sameRows (runId : String) (run : Run) (found : store.run? runId = some run) :
      ∃ moved, store.run? runId = some moved ∧ moved.ownerId = run.ownerId ∧
        moved.leaseEpoch = run.leaseEpoch := ⟨run, found, rfl, rfl⟩
  cases effect with
  | devices => exact ⟨keyed, inv.epochs, inv.held, inv.active⟩
  | command => exact ⟨keyed, inv.epochs, inv.held, inv.active⟩
  | create run absent =>
    have kept (runId : String) (old : Run) (found : store.run? runId = some old) :
        lookup Run.id runId (store.runs ++ [run]) = some old := by
      have different : run.id ≠ runId := by
        rintro rfl
        rw [absent] at found
        cases found
      rw [lookup_append_singleton different]
      exact found
    refine lease_inv_map (fun lease => lease) inv keyed (map_id _).symm
      (fun _ => ⟨rfl, rfl, rfl⟩) ?_ ?_
    · intro runId old found
      exact ⟨old, kept runId old found, rfl, rfl⟩
    · intro lease _ active
      refine ⟨active, fun old moved found movedFound occupied => ?_⟩
      have same := (kept _ old found).symm.trans movedFound
      cases same
      exact occupied
  | renew lease expiresAt mem live later =>
    refine lease_inv_map _ inv keyed (update_lease_map store lease.id _) ?_ sameRows ?_
    · intro old
      split <;> exact ⟨rfl, rfl, rfl⟩
    · intro old oldMem active
      by_cases same : old.id = lease.id
      · obtain rfl := unique_key_eq inv.keyed.leases oldMem mem same
        rw [if_pos rfl] at active ⊢
        refine ⟨active, fun run moved found movedFound _ => Or.inl ?_⟩
        exact live_resident inv mem live movedFound
      · rw [if_neg same] at active ⊢
        refine ⟨active, fun run moved found movedFound occupied => ?_⟩
        cases found.symm.trans movedFound
        exact occupied
  | release lease status assign business mem isActive cause move recovered =>
    refine lease_inv_map _ inv keyed (update_lease_map store lease.id _) ?_
      (move_runs move.frame move.epoch) ?_
    · intro old
      split <;> exact ⟨rfl, rfl, rfl⟩
    · intro old oldMem active
      by_cases same : old.id = lease.id
      · rw [if_pos same] at active
        rcases cause with rfl | ⟨rfl, -⟩ <;> cases active
      · rw [if_neg same] at active ⊢
        refine ⟨active, fun run moved found movedFound occupied => ?_⟩
        have different : old.runId ≠ lease.runId := fun sameRun =>
          same (congrArg Lease.id (active_lease_unique inv oldMem mem active isActive sameRun))
        rw [run_update_other move.frame different] at movedFound
        cases found.symm.trans movedFound
        exact occupied
  | abandon run assign business found paused idle move status =>
    refine lease_inv_map _ inv keyed (show _ = store.leases.map _ from rfl) ?_
      (move_runs move.frame move.epoch) ?_
    · intro old
      split <;> exact ⟨rfl, rfl, rfl⟩
    · intro old oldMem active
      by_cases chosen : old.runId = run.id ∧ old.status = .active
      · rw [if_pos chosen] at active
        cases active
      · rw [if_neg chosen] at active ⊢
        refine ⟨active, fun row moved rowFound movedFound occupied => ?_⟩
        have different : old.runId ≠ run.id := fun sameRun => chosen ⟨sameRun, active⟩
        rw [run_update_other move.frame different] at movedFound
        cases rowFound.symm.trans movedFound
        exact occupied
  | endRun run assign business found status idle move ended =>
    refine lease_inv_map (fun lease => lease) inv keyed (map_id _).symm
      (fun _ => ⟨rfl, rfl, rfl⟩) (move_runs move.frame move.epoch) ?_
    intro old oldMem active
    refine ⟨active, fun row moved rowFound movedFound occupied => ?_⟩
    by_cases sameRun : old.runId = run.id
    · rw [sameRun] at movedFound
      cases (run_update_self move.frame found).symm.trans movedFound
      refine Or.inr ⟨by rw [ended]; rfl, not_live_expired idle oldMem sameRun active⟩
    · rw [run_update_other move.frame sameRun] at movedFound
      cases rowFound.symm.trans movedFound
      exact occupied
  | pause run assign found claimable move paused =>
    refine lease_inv_map (fun lease => lease) inv keyed (map_id _).symm
      (fun _ => ⟨rfl, rfl, rfl⟩) (move_runs move.frame move.epoch) ?_
    intro old oldMem active
    refine ⟨active, fun row moved rowFound movedFound occupied => ?_⟩
    by_cases sameRun : old.runId = run.id
    · rw [← sameRun] at found
      exact absurd active (claimable_no_active inv oldMem found claimable)
    · rw [run_update_other move.frame sameRun] at movedFound
      cases rowFound.symm.trans movedFound
      exact occupied
  | mark runId assign move status =>
    refine lease_inv_map (fun lease => lease) inv keyed (map_id _).symm
      (fun _ => ⟨rfl, rfl, rfl⟩) (move_runs move.frame move.epoch) ?_
    intro old oldMem active
    refine ⟨active, fun row moved rowFound movedFound occupied => ?_⟩
    rw [run_update_run store move.frame, rowFound] at movedFound
    split at movedFound
    · cases movedFound
      rw [Occupied, status]
      exact occupied
    · cases movedFound
      exact occupied
  | grant run assign lease found claimable admitted frame leased epoch runId owner leaseEpoch
        isActive ack terminal fresh =>
      have newRow : (store.updateRun run.id assign).run? run.id = some (assign run) :=
        run_update_self frame found
      have oldBound : ∀ old ∈ store.leases, old.runId = run.id →
          old.leaseEpoch < lease.leaseEpoch := by
        intro old oldMem sameRun
        obtain ⟨row, rowFound, -, -, bound⟩ := inv.held old oldMem
        rw [sameRun, found] at rowFound
        cases rowFound
        omega
      refine ⟨keyed, ?_, ?_, ?_⟩
      · refine pairwise_append.mpr ⟨inv.epochs, pairwise_singleton _ _, ?_⟩
        intro old oldMem new newMem sameRun
        rw [mem_singleton] at newMem
        subst newMem
        exact oldBound old oldMem (sameRun.trans runId)
      · intro old oldMem
        rcases mem_append.mp oldMem with oldMem | newMem
        · obtain ⟨row, rowFound, rowOwner, positive, bound⟩ := inv.held old oldMem
          by_cases sameRun : old.runId = run.id
          · rw [sameRun] at rowFound ⊢
            cases found.symm.trans rowFound
            refine ⟨assign run, newRow, rowOwner.trans (frame run).ownerId.symm, positive, ?_⟩
            omega
          · exact ⟨row, (run_update_other frame sameRun).trans rowFound, rowOwner, positive, bound⟩
        · rw [mem_singleton] at newMem
          subst newMem
          rw [runId]
          refine ⟨assign run, newRow, owner.trans (frame run).ownerId.symm, ?_, ?_⟩ <;> omega
      · intro old oldMem active row rowFound
        rcases mem_append.mp oldMem with oldMem | newMem
        · by_cases sameRun : old.runId = run.id
          · rw [← sameRun] at found
            exact absurd active (claimable_no_active inv oldMem found claimable)
          · have unchanged := (run_update_other frame sameRun).symm.trans rowFound
            exact inv.active old oldMem active row unchanged
        · rw [mem_singleton] at newMem
          subst newMem
          rw [runId] at rowFound
          cases newRow.symm.trans rowFound
          refine ⟨leaseEpoch.trans epoch.symm, Or.inl ?_⟩
          rw [leased]
          rfl

theorem effects_lease_inv (inv : LeaseInv now store) (effects : Effects now store next) :
    LeaseInv now next := by
  induction effects with
  | refl => exact inv
  | tail _ effect ih => exact effect_lease_inv ih effect

/-- The lease row read before the loop is still there: only its completion may
have been written since, and the Run still has its epoch. -/
structure Holding (lease : Lease) (store : Store Hash) : Prop where
  row : ∃ row ∈ store.leases, row = lease ∨ ∃ eventId, row = lease.complete eventId
  run : ∃ run, store.run? lease.runId = some run ∧ run.leaseEpoch = lease.leaseEpoch

theorem holding_row {lease : Lease} (holding : Holding lease store) :
    ∃ row ∈ store.leases, row.id = lease.id ∧ row.runId = lease.runId ∧
      row.ownerId = lease.ownerId ∧ row.deviceId = lease.deviceId ∧
      row.leaseEpoch = lease.leaseEpoch ∧ row.expiresAt = lease.expiresAt := by
  obtain ⟨row, mem, rfl | ⟨eventId, rfl⟩⟩ := holding.row
  · exact ⟨row, mem, rfl, rfl, rfl, rfl, rfl, rfl⟩
  · exact ⟨_, mem, rfl, rfl, rfl, rfl, rfl, rfl⟩

theorem current_lease_holding {principal : DevicePrincipal} {runId leaseId : String}
    {leaseEpoch : Nat} {lease : Lease}
    (current : currentLease store principal runId leaseId leaseEpoch = .ok lease) :
    Holding lease store := by
  obtain ⟨mem, -, rfl, -, -, rfl, run, found, epoch⟩ := current_lease_ok current
  exact ⟨⟨lease, mem, Or.inl rfl⟩, run, found, epoch⟩

section

variable {lease : Lease} {now : Time}

variable {store : Store Hash} {event : RunEvent Hash} {output : TerminalOutput}
  {business : Business}

theorem after_event_holding {text : PyText} (holding : Holding lease store) :
    Holding lease (store.afterEvent text lease event output business now) := by
  obtain ⟨⟨row, mem, shape⟩, run, found, runEpoch⟩ := holding
  constructor
  · rw [after_event_leases]
    split
    · refine ⟨row.complete event.eventId, mem_update_of_chosen mem ?_, Or.inr ?_⟩
      · rcases shape with rfl | ⟨eventId, rfl⟩ <;> rfl
      · rcases shape with rfl | ⟨eventId, rfl⟩ <;> exact ⟨event.eventId, rfl⟩
    · exact ⟨row, mem, shape⟩
  · rw [after_event_run, if_pos rfl, found]
    exact ⟨_, rfl, runEpoch⟩

theorem event_status_resident {kind : EventKind} {status : RunStatus}
    (nonterminal : kind.isTerminal = false) (resident : status.isResident = true) :
    (kind.status.getD status).isResident = true := by
  cases kind <;> first | rfl | exact resident | cases nonterminal

theorem after_event_lease_inv {text : PyText} (inv : LeaseInv now store)
    (holding : Holding lease store) (live : lease.isLive now = true) :
    LeaseInv now (store.afterEvent text lease event output business now) := by
  obtain ⟨row, mem, id, runId, -, -, epoch, expires⟩ := holding_row holding
  obtain ⟨run, found, runEpoch⟩ := holding.run
  simp only [Lease.isLive, Bool.and_eq_true, decide_eq_true_eq] at live
  have keyed := after_event_keyed text store lease event output business now inv.keyed
  have runs (other : String) (old : Run) (oldFound : store.run? other = some old) :
      ∃ moved, (store.afterEvent text lease event output business now).run? other = some moved ∧
        moved.ownerId = old.ownerId ∧ moved.leaseEpoch = old.leaseEpoch := by
    rw [after_event_run, oldFound]
    split <;> exact ⟨_, rfl, rfl, rfl⟩
  have sameLease : ∀ old ∈ store.leases, old.status = .active → old.runId = lease.runId →
      old = row := by
    intro old oldMem active sameRun
    rw [← sameRun] at found
    have oldEpoch := (inv.active old oldMem active run found).1
    exact lease_epoch_unique inv oldMem mem (sameRun.trans runId.symm)
      (oldEpoch.trans (runEpoch.trans epoch.symm))
  have elsewhere : ∀ old, old.runId ≠ lease.runId → ∀ before moved,
      store.run? old.runId = some before →
      (store.afterEvent text lease event output business now).run? old.runId = some moved →
      Occupied now old before → Occupied now old moved := by
    intro old different before moved beforeFound movedFound occupied
    rw [after_event_run, if_neg different, beforeFound] at movedFound
    cases movedFound
    exact occupied
  cases terminal : (eventKind event.eventType).isTerminal with
  | true =>
    have rows := after_event_leases text store lease event output business now
    rw [if_pos terminal] at rows
    refine lease_inv_map _ inv keyed rows (fun old => ?_) runs ?_
    · split <;> exact ⟨rfl, rfl, rfl⟩
    · intro old oldMem active
      by_cases same : old.id = lease.id
      · rw [if_pos same] at active
        cases active
      · rw [if_neg same] at active ⊢
        refine ⟨active, elsewhere old fun sameRun => same ?_⟩
        rw [sameLease old oldMem active sameRun, id]
  | false =>
    have rows := after_event_leases text store lease event output business now
    rw [if_neg (by simp [terminal])] at rows
    refine lease_inv_map (fun old => old) inv keyed (rows.trans (map_id _).symm)
      (fun _ => ⟨rfl, rfl, rfl⟩) runs ?_
    intro old oldMem active
    refine ⟨active, ?_⟩
    by_cases sameRun : old.runId = lease.runId
    · intro before moved beforeFound movedFound _
      obtain rfl := sameLease old oldMem active sameRun
      have unexpired : old.isLive now = true := by
        simp only [Lease.isLive, active, expires, live.2, decide_true, Bool.and_self]
      rw [after_event_run, if_pos sameRun, beforeFound] at movedFound
      cases movedFound
      exact Or.inl (event_status_resident terminal (live_resident inv oldMem unexpired beforeFound))
    · exact elsewhere old sameRun

theorem acknowledge_lease_inv {leaseId : String} {ack : Nat} (inv : LeaseInv now store) :
    LeaseInv now (store.updateLease leaseId (Lease.acknowledge ack)) := by
  refine lease_inv_map _ inv (keyed_update_lease (fun _ => rfl) inv.keyed)
    (update_lease_map store leaseId _) ?_ (fun _ run found => ⟨run, found, rfl, rfl⟩) ?_
  · intro old
    split <;> exact ⟨rfl, rfl, rfl⟩
  · intro old _ active
    split at active <;>
    · refine ⟨active, fun run moved found movedFound occupied => ?_⟩
      cases found.symm.trans movedFound
      split <;> exact occupied

theorem fresh_lease_inv (fresh : store.Fresh) : LeaseInv now store := by
  have noRuns := fresh.runs
  have noLeases := fresh.leases
  refine ⟨⟨?_, ?_⟩, ?_, ?_, ?_⟩
  · rw [UniqueKey, noRuns]
    exact nodup_nil
  · rw [UniqueKey, noLeases]
    exact nodup_nil
  · rw [noLeases]
    exact List.Pairwise.nil
  all_goals
    intro lease mem
    rw [noLeases] at mem
    cases mem

end

variable [DecidableEq Hash] {host : Host Hash} {lease : Lease} {now : Time}

theorem submit_event_lease_inv {batch next : Batch Hash} {event : RunEvent Hash}
    (inv : LeaseInv now batch.store) (holding : Holding lease batch.store)
    (done : submitEvent host lease now batch event = .ok next) :
    LeaseInv now next.store ∧ Holding lease next.store := by
  obtain ⟨-, replayed | applied⟩ := submit_event_cases done
  · rw [replayed.store]
    exact ⟨inv, holding⟩
  · obtain ⟨output, business, -, same⟩ := applied.store
    rw [same]
    exact ⟨after_event_lease_inv inv holding applied.live, after_event_holding holding⟩

variable {events : List (RunEvent Hash)}

theorem submit_batch_lease_inv {batch final : Batch Hash} (inv : LeaseInv now batch.store)
    (holding : Holding lease batch.store)
    (done : events.foldlM (submitEvent host lease now) batch = .ok final) :
    LeaseInv now final.store ∧ Holding lease final.store :=
  Rollback.fold_invariant (fun batch => LeaseInv now batch.store ∧ Holding lease batch.store)
    (fun _ _ _ _ facts pass => submit_event_lease_inv facts.1 facts.2 pass) ⟨inv, holding⟩ done

theorem submit_events_lease_inv {finish : Store Hash} {principal : DevicePrincipal}
    {runId leaseId : String} {leaseEpoch : Nat} {reply : SubmitReply} (inv : LeaseInv now store)
    (done : submitEvents host store principal runId leaseId leaseEpoch events now =
      .ok (finish, reply)) : LeaseInv now finish := by
  obtain ⟨lease, final, current, loop, rfl, -⟩ := submit_events_cases done
  exact acknowledge_lease_inv (submit_batch_lease_inv inv (current_lease_holding current) loop).1

theorem perform_lease_inv {call : Call Hash} (inv : LeaseInv now store)
    (done : perform host store now call = .ok next) : LeaseInv now next := by
  rcases perform_cases inv.keyed done with effects | ⟨_, _, _, _, _, _, -, submit⟩
  · exact effects_lease_inv inv effects
  · exact submit_events_lease_inv inv submit

theorem commit_cases (Inv : Store Hash → Prop) {call : Call Hash}
    (holds : Inv store) (preserve : ∀ next, perform host store now call = .ok next → Inv next) :
    Inv (Rollback.commit store (perform host store now call)) := by
  cases done : perform host store now call with
  | error error => exact holds
  | ok next => exact preserve next done

theorem server_step_lease_inv {server next : Server Hash} {action : Server.Action Hash}
    (inv : LeaseInv server.now server.store)
    (step : (serverMachine host).Step server action next) : LeaseInv next.now next.store := by
  obtain ⟨order, rfl⟩ := step
  have later : LeaseInv action.now server.store := lease_inv_later inv order
  exact commit_cases (LeaseInv action.now) later fun _ done => perform_lease_inv later done

theorem server_lease_inv {Guard : Server Hash → Server.Action Hash → Prop} {server : Server Hash}
    (reachable : (serverMachine host).Reachable Guard server) :
    LeaseInv server.now server.store :=
  reachable_invariant (fun server => LeaseInv server.now server.store)
    (fun _ fresh => fresh_lease_inv fresh)
    (fun _ _ _ inv _ step => server_step_lease_inv inv step) reachable

end AgentMate
