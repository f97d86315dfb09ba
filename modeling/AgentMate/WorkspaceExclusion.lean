import AgentMate.LeaseInvariant

/-! # Writers exclude each other on a workspace scope -/

namespace AgentMate

open TransitionSystem List

variable {Hash : Type}

/-- Two Runs may share their workspace scope: both are read-only, or the scopes
or the owners differ. -/
def Compatible (left right : Run) : Prop :=
  left.ownerId = right.ownerId → workspaceScope left = workspaceScope right →
    left.mode.writes = false ∧ right.mode.writes = false

def ExclusionInv (now : Time) (store : Store Hash) : Prop :=
  ∀ left ∈ store.leases, ∀ right ∈ store.leases, left ≠ right →
    left.isLive now = true → right.isLive now = true →
    ∀ leftRun rightRun, store.run? left.runId = some leftRun →
      store.run? right.runId = some rightRun → Compatible leftRun rightRun

theorem compatible_symm {left right : Run} (compatible : Compatible left right) :
    Compatible right left := fun owner scope => (compatible owner.symm scope.symm).symm

theorem compatible_frame {left right leftMoved rightMoved : Run}
    (leftFrame : Run.Frame left leftMoved) (rightFrame : Run.Frame right rightMoved)
    (compatible : Compatible left right) : Compatible leftMoved rightMoved := by
  intro owner scope
  rw [leftFrame.mode, rightFrame.mode]
  rw [leftFrame.ownerId, rightFrame.ownerId] at owner
  rw [leftFrame.workspaceScope, rightFrame.workspaceScope] at scope
  exact compatible owner scope

variable {lease : Lease} {store next : Store Hash} {now : Time}

theorem live_earlier {later : Time} (order : now ≤ later) (live : lease.isLive later = true) :
    lease.isLive now = true := by
  simp only [Lease.isLive, Bool.and_eq_true, decide_eq_true_eq] at live ⊢
  exact ⟨live.1, lt_of_le_of_lt order live.2⟩

theorem exclusion_later {later : Time} (inv : ExclusionInv now store) (order : now ≤ later) :
    ExclusionInv later store :=
  fun left leftMem right rightMem different leftLive rightLive =>
    inv left leftMem right rightMem different (live_earlier order leftLive)
      (live_earlier order rightLive)

theorem exclusion_map (assign : Lease → Lease)
    (inv : ExclusionInv now store) (rows : next.leases = store.leases.map assign)
    (live : ∀ lease ∈ store.leases, (assign lease).runId = lease.runId ∧
      ((assign lease).isLive now = true → lease.isLive now = true))
    (runs : ∀ lease ∈ store.leases, ∀ moved, next.run? lease.runId = some moved →
      ∃ run, store.run? lease.runId = some run ∧ Run.Frame run moved) :
    ExclusionInv now next := by
  intro left leftMem right rightMem different leftLive rightLive leftRun rightRun
    leftFound rightFound
  rw [rows, mem_map] at leftMem rightMem
  obtain ⟨leftOld, leftMem, rfl⟩ := leftMem
  obtain ⟨rightOld, rightMem, rfl⟩ := rightMem
  obtain ⟨leftSame, leftBefore⟩ := live leftOld leftMem
  obtain ⟨rightSame, rightBefore⟩ := live rightOld rightMem
  rw [leftSame] at leftFound
  rw [rightSame] at rightFound
  obtain ⟨leftRow, leftRowFound, leftFrame⟩ := runs leftOld leftMem leftRun leftFound
  obtain ⟨rightRow, rightRowFound, rightFrame⟩ := runs rightOld rightMem rightRun rightFound
  have apart : leftOld ≠ rightOld := fun same => different (congrArg assign same)
  exact compatible_frame leftFrame rightFrame
    (inv leftOld leftMem rightOld rightMem apart (leftBefore leftLive)
      (rightBefore rightLive) leftRow rightRow leftRowFound rightRowFound)

theorem moved_frame {runId : String} {assign : Run → Run}
    (frame : ∀ row, Run.Frame row (assign row)) {other : String} {moved : Run}
    (found : (store.updateRun runId assign).run? other = some moved) :
    ∃ run, store.run? other = some run ∧ Run.Frame run moved := by
  rw [run_update_run store frame] at found
  split at found
  · obtain ⟨run, runFound, rfl⟩ := Option.map_eq_some_iff.mp found
    exact ⟨run, runFound, frame run⟩
  · exact ⟨moved, found, Run.Frame.refl moved⟩

theorem update_live {chosen : Prop} [Decidable chosen] (assign : Lease → Lease) (lease : Lease)
    (sameRun : (assign lease).runId = lease.runId)
    (before : chosen → (assign lease).isLive now = true → lease.isLive now = true) :
    (if chosen then assign lease else lease).runId = lease.runId ∧
      ((if chosen then assign lease else lease).isLive now = true → lease.isLive now = true) := by
  by_cases choice : chosen
  · rw [if_pos choice]
    exact ⟨sameRun, before choice⟩
  · rw [if_neg choice]
    exact ⟨rfl, fun live => live⟩

theorem not_live_of_status (ended : lease.status ≠ .active) : lease.isLive now ≠ true := by
  simp [Lease.isLive, ended]

theorem no_conflict {candidate : Run} (admitted : scopeConflicts store candidate now = false)
    {run : Run} (mem : lease ∈ store.leases) (live : lease.isLive now = true)
    (found : store.run? lease.runId = some run) (owner : lease.ownerId = run.ownerId)
    (resident : run.status.isResident = true) : Compatible run candidate := by
  intro sameOwner sameScope
  rw [scopeConflicts, any_eq_false] at admitted
  have listed : run ∈ store.residentRuns (fun lease => lease.ownerId = candidate.ownerId) now := by
    rw [Store.residentRuns, mem_filterMap]
    refine ⟨lease, mem, ?_⟩
    have chosen : lease.ownerId = candidate.ownerId := owner.trans sameOwner
    simp [chosen, live, found, resident]
  have harmless := admitted run listed
  simp only [sameScope, decide_true, Bool.true_and, Bool.or_eq_true, not_or,
    Bool.not_eq_true] at harmless
  exact ⟨harmless.2, harmless.1⟩

theorem effect_exclusion (leaseInv : LeaseInv now store) (inv : ExclusionInv now store)
    (effect : Effect now store next) : ExclusionInv now next := by
  have unchanged (lease : Lease) : lease.runId = lease.runId ∧
      (lease.isLive now = true → lease.isLive now = true) := ⟨rfl, fun live => live⟩
  cases effect with
  | devices => exact inv
  | command => exact inv
  | create run absent =>
    refine exclusion_map (fun lease => lease) inv (map_id _).symm
      (fun lease _ => unchanged lease) ?_
    intro lease mem moved found
    obtain ⟨row, rowFound, -⟩ := leaseInv.held lease mem
    have different : run.id ≠ lease.runId := by
      intro same
      rw [same, rowFound] at absent
      cases absent
    have kept : Table.lookup Run.id lease.runId (store.runs ++ [run]) = some moved := found
    rw [Table.lookup_append_singleton different] at kept
    exact ⟨moved, kept, Run.Frame.refl moved⟩
  | renew lease expiresAt mem live later =>
    refine exclusion_map _ inv (update_lease_map store lease.id _) ?_
      (fun _ _ moved found => ⟨moved, found, Run.Frame.refl moved⟩)
    intro old oldMem
    refine update_live (Lease.renew expiresAt now) old rfl fun same _ => ?_
    rw [Table.unique_key_eq leaseInv.keyed.leases oldMem mem same]
    exact live
  | release lease status assign business mem active cause move recovered =>
    refine exclusion_map _ inv (update_lease_map store lease.id _) ?_
      (fun _ _ _ found => moved_frame move.frame found)
    intro old _
    refine update_live (Lease.setStatus status) old rfl fun _ live =>
      absurd live (not_live_of_status ?_)
    rcases cause with rfl | ⟨rfl, -⟩ <;> exact nofun
  | abandon run assign business found paused idle move status =>
    refine exclusion_map _ inv (show _ = store.leases.map _ from rfl) ?_
      (fun _ _ _ found => moved_frame move.frame found)
    intro old _
    exact update_live (Lease.setStatus .expired) old rfl fun _ live =>
      absurd live (not_live_of_status nofun)
  | endRun run assign business found status idle move ended =>
    exact exclusion_map (fun lease => lease) inv (map_id _).symm
      (fun lease _ => unchanged lease) (fun _ _ _ found => moved_frame move.frame found)
  | pause run assign found claimable move paused =>
    exact exclusion_map (fun lease => lease) inv (map_id _).symm
      (fun lease _ => unchanged lease) (fun _ _ _ found => moved_frame move.frame found)
  | mark runId assign move status =>
    exact exclusion_map (fun lease => lease) inv (map_id _).symm
      (fun lease _ => unchanged lease) (fun _ _ _ found => moved_frame move.frame found)
  | grant run assign lease found claimable admitted frame leased epoch runId owner leaseEpoch
        isActive ack terminal fresh =>
      have olds : ExclusionInv now (store.updateRun run.id assign) :=
        exclusion_map (fun lease => lease) inv (map_id _).symm
          (fun lease _ => unchanged lease) (fun _ _ _ found => moved_frame frame found)
      -- an older live lease against the granted one
      have against : ∀ old ∈ store.leases, old.isLive now = true → ∀ oldRun newRun,
          (store.updateRun run.id assign).run? old.runId = some oldRun →
          (store.updateRun run.id assign).run? lease.runId = some newRun →
          Compatible oldRun newRun := by
        intro old mem live oldRun newRun oldFound newFound
        obtain ⟨oldRow, oldRowFound, oldFrame⟩ := moved_frame frame oldFound
        obtain ⟨newRow, newRowFound, newFrame⟩ := moved_frame frame newFound
        rw [runId, found] at newRowFound
        cases newRowFound
        obtain ⟨row, rowFound, rowOwner, -⟩ := leaseInv.held old mem
        cases oldRowFound.symm.trans rowFound
        exact compatible_frame oldFrame newFrame (no_conflict admitted mem live oldRowFound
          rowOwner (live_resident leaseInv mem live oldRowFound))
      intro left leftMem right rightMem different leftLive rightLive leftRun rightRun
        leftFound rightFound
      rcases mem_append.mp leftMem with leftOld | leftNew
      · rcases mem_append.mp rightMem with rightOld | rightNew
        · exact olds left leftOld right rightOld different leftLive rightLive leftRun rightRun
            leftFound rightFound
        · rw [mem_singleton] at rightNew
          subst rightNew
          exact against left leftOld leftLive leftRun rightRun leftFound rightFound
      · rw [mem_singleton] at leftNew
        subst leftNew
        rcases mem_append.mp rightMem with rightOld | rightNew
        · exact compatible_symm
            (against right rightOld rightLive rightRun leftRun rightFound leftFound)
        · rw [mem_singleton] at rightNew
          exact absurd rightNew.symm different

theorem effects_exclusion (leaseInv : LeaseInv now store) (inv : ExclusionInv now store)
    (effects : Effects now store next) :
    ExclusionInv now next := by
  induction effects with
  | refl => exact inv
  | tail before effect ih => exact effect_exclusion (effects_lease_inv leaseInv before) ih effect

theorem after_event_exclusion {text : PyText} {event : RunEvent Hash} {output : TerminalOutput}
    {business : Business} (inv : ExclusionInv now store) :
    ExclusionInv now (store.afterEvent text lease event output business now) := by
  have runs (other : String) (moved : Run)
      (found : (store.afterEvent text lease event output business now).run? other = some moved) :
      ∃ run, store.run? other = some run ∧ Run.Frame run moved := by
    rw [after_event_run] at found
    split at found
    · obtain ⟨run, runFound, rfl⟩ := Option.map_eq_some_iff.mp found
      exact ⟨run, runFound, rfl⟩
    · exact ⟨moved, found, Run.Frame.refl moved⟩
  have rows := after_event_leases text store lease event output business now
  split at rows
  · refine exclusion_map _ inv rows ?_ (fun old _ => runs old.runId)
    intro old _
    exact update_live (Lease.complete event.eventId) old rfl fun _ live =>
      absurd live (not_live_of_status nofun)
  · exact exclusion_map (fun lease => lease) inv (rows.trans (map_id _).symm)
      (fun _ _ => ⟨rfl, fun live => live⟩) (fun old _ => runs old.runId)

section

variable [DecidableEq Hash] {host : Host Hash}

theorem submit_events_exclusion {finish : Store Hash} {principal : DevicePrincipal}
    {runId leaseId : String} {leaseEpoch : Nat} {events : List (RunEvent Hash)}
    {reply : SubmitReply} (inv : ExclusionInv now store)
    (done : submitEvents host store principal runId leaseId leaseEpoch events now =
      .ok (finish, reply)) : ExclusionInv now finish := by
  obtain ⟨lease, final, -, loop, rfl, -⟩ := submit_events_cases done
  have kept : ExclusionInv now final.store := by
    refine Rollback.fold_invariant (fun batch => ExclusionInv now batch.store) ?_ inv loop
    intro batch event next _ before pass
    obtain ⟨-, replayed | applied⟩ := submit_event_cases pass
    · rw [replayed.store]
      exact before
    · obtain ⟨output, business, -, after⟩ := applied.store
      rw [after]
      exact after_event_exclusion before
  refine exclusion_map _ kept (update_lease_map final.store lease.id _) ?_
    (fun _ _ moved found => ⟨moved, found, Run.Frame.refl moved⟩)
  intro old _
  exact update_live (Lease.acknowledge final.ack) old rfl fun _ live => live

theorem perform_exclusion {call : Call Hash}
    (leaseInv : LeaseInv now store) (inv : ExclusionInv now store)
    (done : perform host store now call = .ok next) : ExclusionInv now next := by
  rcases perform_cases leaseInv.keyed done with effects | ⟨_, _, _, _, _, _, -, submit⟩
  · exact effects_exclusion leaseInv inv effects
  · exact submit_events_exclusion inv submit

theorem server_exclusion {server : Server Hash}
    (reachable : (serverMachine host).Reachable Anything server) :
    ExclusionInv server.now server.store := by
  have both : LeaseInv server.now server.store ∧ ExclusionInv server.now server.store := by
    refine reachable_invariant (fun server => LeaseInv server.now server.store ∧
        ExclusionInv server.now server.store) ?_ ?_ reachable
    · intro start fresh
      refine ⟨fresh_lease_inv fresh, ?_⟩
      intro left mem
      rw [fresh.leases] at mem
      cases mem
    · rintro server action next ⟨leaseInv, inv⟩ _ step
      refine ⟨server_step_lease_inv leaseInv step, ?_⟩
      obtain ⟨order, rfl⟩ := step
      have later := lease_inv_later leaseInv order
      exact commit_cases (ExclusionInv action.now) (exclusion_later inv order)
        fun _ done => perform_exclusion later (exclusion_later inv order) done
  exact both.2

end

/-- Two different leases that are active and unexpired, at the last step or at any
later reading of the clock, and whose resident Runs have one owner and one
workspace scope belong to read-only Runs. -/
theorem workspace_exclusion [DecidableEq Hash] (host : Host Hash) {server : Server Hash}
    (reachable : (serverMachine host).Reachable Anything server) {now : Time}
    (order : server.now ≤ now) :
    ∀ left ∈ server.store.leases, ∀ right ∈ server.store.leases, left ≠ right →
      left.isLive now = true → right.isLive now = true →
      ∀ leftRun rightRun, server.store.run? left.runId = some leftRun →
        server.store.run? right.runId = some rightRun →
        leftRun.ownerId = rightRun.ownerId →
        leftRun.status.isResident = true → rightRun.status.isResident = true →
        workspaceScope leftRun = workspaceScope rightRun →
        leftRun.mode.writes = false ∧ rightRun.mode.writes = false := by
  intro left leftMem right rightMem different leftLive rightLive leftRun rightRun
    leftFound rightFound owner _ _ scope
  exact exclusion_later (server_exclusion reachable) order left leftMem right rightMem
    different leftLive rightLive leftRun rightRun leftFound rightFound owner scope

def readers : List (Server.Action Envelope) :=
  [⟨1, .createRun { plainDraft "run-1" with mode := .ask }⟩,
    ⟨1, .createRun { plainDraft "run-2" with mode := .plan }⟩,
    ⟨2, .leaseRun laptop 30 "lease-1"⟩, ⟨3, .leaseRun desktop 30 "lease-2"⟩]

theorem readers_share :
    let store := (emptyServer.serveAll plainHost readers).store
    ((store.run? "run-1").map fun run => run.mode.writes) = some false ∧
      ((store.run? "run-2").map fun run => run.mode.writes) = some false := by
  intro store
  obtain ⟨first, firstFound⟩ : ∃ run, store.run? "run-1" = some run :=
    Option.isSome_iff_exists.mp (by decide +kernel)
  obtain ⟨second, secondFound⟩ : ∃ run, store.run? "run-2" = some run :=
    Option.isSome_iff_exists.mp (by decide +kernel)
  have columns : ((store.run? "run-1").map fun run =>
      (run.ownerId, run.status, workspaceScope run)) = some ("owner", .leased, "default") ∧
      ((store.run? "run-2").map fun run =>
      (run.ownerId, run.status, workspaceScope run)) = some ("owner", .leased, "default") := by
    decide +kernel
  rw [firstFound, secondFound] at columns ⊢
  simp only [Option.map_some, Option.some.injEq, Prod.mk.injEq] at columns ⊢
  obtain ⟨⟨firstOwner, firstStatus, firstScope⟩, secondOwner, secondStatus, secondScope⟩ := columns
  exact workspace_exclusion plainHost (small_run_reachable readers (by decide +kernel)) (le_refl _)
    ⟨"lease-1", "run-1", "owner", "device-laptop", 1, .active, 2, 32, 2, 0, ""⟩ (by decide +kernel)
    ⟨"lease-2", "run-2", "owner", "device-desktop", 1, .active, 3, 33, 3, 0, ""⟩
    (by decide +kernel) (by decide) (by decide +kernel) (by decide +kernel) first second
    firstFound secondFound (firstOwner.trans secondOwner.symm) (by rw [firstStatus]; rfl)
    (by rw [secondStatus]; rfl) (firstScope.trans secondScope.symm)

end AgentMate
