import AgentMate.WorkerPool
import Mathlib.Data.Int.ConditionallyCompleteOrder

/-! # Capacity of the pool -/

namespace AgentMate

open TransitionSystem List Option

/-- The sum of `_capacity_by_owner`. -/
def Capacity.ownersTotal (capacity : Capacity) : Int :=
  (capacity.byOwner.entries.map Sigma.snd).sum

structure CapacityInv (settings : PoolSettings) (capacity : Capacity) : Prop where
  total : capacity.used = Dict.weight id capacity.byOwner
  positive : Dict.Nonneg id capacity.byOwner
  bound : capacity.used ≤ settings.maxConcurrency
  ownerBound : ∀ ownerId, capacity.ownerUsed ownerId ≤ settings.perOwnerConcurrency

section

variable {settings : PoolSettings} {capacity next : Capacity} {ownerId : String}

theorem owner_used_share (capacity : Capacity) (ownerId : String) :
    capacity.ownerUsed ownerId = Dict.share id ownerId capacity.byOwner := by
  rw [Capacity.ownerUsed, Dict.share, Option.map_id, id]

theorem reserve_some (done : capacity.reserve settings ownerId = some next) :
    capacity.used < settings.maxConcurrency ∧
      capacity.ownerUsed ownerId < settings.perOwnerConcurrency ∧
      next.used = capacity.used + 1 ∧
      next.byOwner = capacity.byOwner.insert ownerId (capacity.ownerUsed ownerId + 1) := by
  unfold Capacity.reserve at done
  split at done
  · cases done
  · next room =>
    cases done
    rw [not_or, ge_iff_le, ge_iff_le, not_le, not_le] at room
    exact ⟨room.1, room.2, rfl, rfl⟩

theorem reserve_owner_used (done : capacity.reserve settings ownerId = some next)
    (other : String) : next.ownerUsed other =
      capacity.ownerUsed other + if other = ownerId then 1 else 0 := by
  have owners := (reserve_some done).2.2.2
  rw [Capacity.ownerUsed, owners]
  split
  · next same => rw [same, AList.lookup_insert, getD_some]
  · next different =>
    rw [AList.lookup_insert_ne different, add_zero]
    rfl

theorem reserve_inv (inv : CapacityInv settings capacity)
    (done : capacity.reserve settings ownerId = some next) : CapacityInv settings next := by
  obtain ⟨room, ownerRoom, used, owners⟩ := reserve_some done
  have before : 0 ≤ capacity.ownerUsed ownerId := by
    rw [owner_used_share]
    exact Dict.share_nonneg inv.positive ownerId
  constructor
  · rw [used, owners, Dict.weight_insert, inv.total, owner_used_share, id]
    omega
  · rw [owners]
    apply Dict.nonneg_insert inv.positive
    rw [id]
    omega
  · omega
  · intro other
    have bound := inv.ownerBound other
    rw [reserve_owner_used done]
    split
    · next same =>
      subst same
      omega
    · omega

theorem release_idle (idle : capacity.ownerUsed ownerId ≤ 0) :
    capacity.release ownerId = capacity := by
  rw [Capacity.release, if_pos idle]

theorem release_owners (used : 0 < capacity.ownerUsed ownerId) :
    (capacity.release ownerId).byOwner =
      if capacity.ownerUsed ownerId = 1 then capacity.byOwner.erase ownerId
      else capacity.byOwner.insert ownerId (capacity.ownerUsed ownerId - 1) := by
  rw [Capacity.release, if_neg (not_le.mpr used)]

theorem release_owner_used (used : 0 < capacity.ownerUsed ownerId) (other : String) :
    (capacity.release ownerId).ownerUsed other =
      capacity.ownerUsed other - if other = ownerId then 1 else 0 := by
  rw [Capacity.ownerUsed, release_owners used]
  by_cases same : other = ownerId
  · rw [if_pos same, same]
    split
    · next last => rw [AList.lookup_erase, last, getD_none, sub_self]
    · rw [AList.lookup_insert, getD_some]
  · rw [if_neg same, sub_zero]
    split
    · rw [AList.lookup_erase_ne same]
      rfl
    · rw [AList.lookup_insert_ne same]
      rfl

theorem release_used (inv : CapacityInv settings capacity) (used : 0 < capacity.ownerUsed ownerId) :
    (capacity.release ownerId).used = capacity.used - 1 := by
  have some_used : 0 < capacity.used := by
    rw [inv.total]
    apply lt_of_lt_of_le used
    rw [owner_used_share]
    exact Dict.share_le_weight inv.positive ownerId
  rw [Capacity.release, if_neg (not_le.mpr used)]
  dsimp only
  omega

theorem release_inv (inv : CapacityInv settings capacity) (ownerId : String) :
    CapacityInv settings (capacity.release ownerId) := by
  by_cases idle : capacity.ownerUsed ownerId ≤ 0
  · rw [release_idle idle]
    exact inv
  · have used := not_le.mp idle
    have fewer := release_used inv used
    have owners := release_owners used
    constructor
    · rw [fewer, owners, inv.total]
      split
      · next last => rw [Dict.weight_erase, ← owner_used_share, last]
      · rw [Dict.weight_insert, ← owner_used_share, id]
        omega
    · rw [owners]
      split
      · exact Dict.nonneg_erase inv.positive ownerId
      · apply Dict.nonneg_insert inv.positive
        rw [id]
        omega
    · have bound := inv.bound
      omega
    · intro other
      have bound := inv.ownerBound other
      rw [release_owner_used used]
      split <;> omega

end

def ActiveRun.slots (active : ActiveRun) : Int :=
  if active.slotHeld then 1 else 0

def ActiveRun.slotsOf (ownerId : String) (active : ActiveRun) : Int :=
  if active.slotHeld ∧ active.ownerId = ownerId then 1 else 0

def Supervisor.claims : Supervisor → Int
  | .claiming _ => 1
  | _ => 0

def Supervisor.claimsOf (ownerId : String) : Supervisor → Int
  | .claiming claimant => if claimant = ownerId then 1 else 0
  | _ => 0

structure SlotsCounted (pool : Pool) : Prop where
  used : pool.capacity.used = Dict.weight ActiveRun.slots pool.activeRuns + pool.supervisor.claims
  owner : ∀ ownerId, pool.capacity.ownerUsed ownerId =
    Dict.weight (ActiveRun.slotsOf ownerId) pool.activeRuns + pool.supervisor.claimsOf ownerId

/-- Every entry belongs to a task of its Run, which is alive while the entry holds a
slot, unless the Run is `waived`. -/
def Filed (waived : Option String) (pool : Pool) : Prop :=
  ∀ runId active, pool.activeRuns.lookup runId = some active →
    ∃ task, pool.tasks[active.task]? = some task ∧ task.runId = runId ∧
      (active.slotHeld = true → waived ≠ some runId → task.ended = false)

structure PoolInv (settings : PoolSettings) (pool : Pool) : Prop where
  capacity : CapacityInv settings pool.capacity
  counted : SlotsCounted pool
  filed : Filed none pool

section

variable {settings : PoolSettings} {pool next : Pool} {runId ownerId : String}

theorem claims_of_nonneg (supervisor : Supervisor) (ownerId : String) :
    0 ≤ supervisor.claimsOf ownerId := by
  unfold Supervisor.claimsOf
  split
  · split <;> omega
  · omega

theorem slots_of_nonneg (dict : AList fun _ : String => ActiveRun) (ownerId : String) :
    Dict.Nonneg (ActiveRun.slotsOf ownerId) dict := by
  intro key active _
  unfold ActiveRun.slotsOf
  split <;> omega

theorem holder_counted (counted : SlotsCounted pool) {active : ActiveRun}
    (found : pool.activeRuns.lookup runId = some active) (held : active.slotHeld = true) :
    0 < pool.capacity.ownerUsed active.ownerId := by
  have holding : Dict.share (ActiveRun.slotsOf active.ownerId) runId pool.activeRuns = 1 := by
    rw [Dict.share_some found, ActiveRun.slotsOf, if_pos ⟨held, rfl⟩]
  have below := Dict.share_le_weight (slots_of_nonneg pool.activeRuns active.ownerId) runId
  have claims := claims_of_nonneg pool.supervisor active.ownerId
  rw [counted.owner]
  omega

theorem release_run_slot_counted (inv : CapacityInv settings pool.capacity)
    (counted : SlotsCounted pool) (runId : String) :
    CapacityInv settings (pool.releaseRunSlot runId).capacity ∧
      SlotsCounted (pool.releaseRunSlot runId) := by
  unfold Pool.releaseRunSlot
  split
  · exact ⟨inv, counted⟩
  · next active found =>
    split
    · next held =>
      have some_used := holder_counted counted found held
      apply And.intro (release_inv inv active.ownerId)
      constructor
      · dsimp only
        rw [release_used inv some_used, Dict.weight_insert, Dict.share_some found, counted.used]
        simp only [ActiveRun.slots, held, if_true]
        simp
        omega
      · intro ownerId
        dsimp only
        rw [release_owner_used some_used, Dict.weight_insert, Dict.share_some found, counted.owner]
        simp only [ActiveRun.slotsOf, held, true_and, eq_comm]
        simp
        omega
    · exact ⟨inv, counted⟩

theorem reacquire_counted (inv : CapacityInv settings pool.capacity)
    (counted : SlotsCounted pool) (done : pool.tryReacquireRunSlot settings runId = some next) :
    CapacityInv settings next.capacity ∧ SlotsCounted next := by
  unfold Pool.tryReacquireRunSlot at done
  split at done
  · cases done
    exact ⟨inv, counted⟩
  · next active found =>
    split at done
    · cases done
      exact ⟨inv, counted⟩
    · next idle =>
      split at done
      · cases done
      · next capacity reserved =>
        cases done
        apply And.intro (reserve_inv inv reserved)
        have used := (reserve_some reserved).2.2.1
        constructor
        · dsimp only
          rw [used, Dict.weight_insert, Dict.share_some found, counted.used]
          simp [ActiveRun.slots, idle]
          omega
        · intro ownerId
          dsimp only
          rw [reserve_owner_used reserved, Dict.weight_insert, Dict.share_some found, counted.owner]
          simp [ActiveRun.slotsOf, idle, eq_comm]
          omega

/-! Which task an entry belongs to. -/

theorem set_task_filed {waived : Option String} {index : Nat} {task changed : PoolTask}
    (filed : Filed none pool) (found : pool.tasks[index]? = some task)
    (same : changed.runId = task.runId)
    (alive : waived ≠ some task.runId → task.ended = false → changed.ended = false) :
    Filed waived (pool.setTask index changed) := by
  intro runId active entry
  obtain ⟨owner, ownerFound, ownerRun, ownerAlive⟩ := filed runId active entry
  have bound : index < pool.tasks.length := by
    by_contra outside
    rw [getElem?_eq_none (Nat.le_of_not_lt outside)] at found
    cases found
  simp only [Pool.setTask]
  by_cases this : index = active.task
  · rw [← this, found] at ownerFound
    cases ownerFound
    refine ⟨changed, ?_, ?_, ?_⟩
    · rw [← this, getElem?_set_self bound]
    · rw [same, ownerRun]
    · intro held kept
      rw [← ownerRun] at kept
      exact alive kept (ownerAlive held (by simp))
  · refine ⟨owner, ?_, ownerRun, ?_⟩
    · rw [getElem?_set_ne this, ownerFound]
    · intro held _
      exact ownerAlive held (by simp)

theorem release_run_slot_lookup {key : String} {active : ActiveRun}
    (found : (pool.releaseRunSlot runId).activeRuns.lookup key = some active) :
    ∃ before, pool.activeRuns.lookup key = some before ∧ active.task = before.task ∧
      (active.slotHeld = true → before.slotHeld = true ∧ key ≠ runId) := by
  unfold Pool.releaseRunSlot at found
  split at found
  · next absent =>
    refine ⟨active, found, rfl, ?_⟩
    intro held
    apply And.intro held
    rintro rfl
    rw [absent] at found
    cases found
  · next entry stored =>
    split at found
    · by_cases same : key = runId
      · subst same
        rw [AList.lookup_insert] at found
        cases found
        refine ⟨entry, stored, rfl, ?_⟩
        intro held
        cases held
      · rw [AList.lookup_insert_ne same] at found
        exact ⟨active, found, rfl, fun held => ⟨held, same⟩⟩
    · next idle =>
      refine ⟨active, found, rfl, ?_⟩
      intro held
      apply And.intro held
      rintro rfl
      rw [stored] at found
      cases found
      exact idle held

theorem release_run_slot_tasks (pool : Pool) (runId : String) :
    (pool.releaseRunSlot runId).tasks = pool.tasks := by
  unfold Pool.releaseRunSlot
  split
  · rfl
  · split <;> rfl

theorem release_run_slot_filed (filed : Filed (some runId) pool) :
    Filed none (pool.releaseRunSlot runId) := by
  intro key active found
  obtain ⟨before, stored, sameTask, stillHeld⟩ := release_run_slot_lookup found
  obtain ⟨task, taskFound, taskRun, alive⟩ := filed key before stored
  refine ⟨task, ?_, taskRun, ?_⟩
  · rw [release_run_slot_tasks, sameTask, taskFound]
  · intro held _
    obtain ⟨heldBefore, other⟩ := stillHeld held
    apply alive heldBefore
    intro same
    exact other (Option.some.inj same).symm

theorem filed_weaken (filed : Filed none pool) (waived : Option String) : Filed waived pool := by
  intro runId active found
  obtain ⟨task, taskFound, taskRun, alive⟩ := filed runId active found
  exact ⟨task, taskFound, taskRun, fun held _ => alive held (by simp)⟩

theorem reacquire_filed (filed : Filed none pool)
    (settled : ∀ active, pool.activeRuns.lookup runId = some active →
      active.slotHeld = true ∨ pool.taskDone active = false)
    (done : pool.tryReacquireRunSlot settings runId = some next) : Filed none next := by
  unfold Pool.tryReacquireRunSlot at done
  split at done
  · cases done
    exact filed
  · next active stored =>
    split at done
    · cases done
      exact filed
    · next idle =>
      split at done
      · cases done
      · cases done
        intro key entry found
        dsimp only at found ⊢
        by_cases same : key = runId
        · subst same
          rw [AList.lookup_insert] at found
          cases found
          obtain ⟨task, taskFound, taskRun, -⟩ := filed key active stored
          refine ⟨task, taskFound, taskRun, ?_⟩
          intro _ _
          rcases settled active stored with held | running
          · exact absurd held idle
          · simpa [Pool.taskDone, taskFound] using running
        · rw [AList.lookup_insert_ne same] at found
          exact filed key entry found

end

section

variable {settings : PoolSettings} {pool : Pool} {runId ownerId : String}

theorem done_idle (filed : Filed none pool) {active : ActiveRun}
    (found : pool.activeRuns.lookup runId = some active) (done : pool.taskDone active = true) :
    active.slotHeld = false := by
  obtain ⟨task, taskFound, -, alive⟩ := filed runId active found
  by_contra held
  rw [Bool.not_eq_false] at held
  have running := alive held (by simp)
  simp [Pool.taskDone, taskFound, running] at done

theorem completed_idle (inv : PoolInv settings pool) {measure : ActiveRun → Int}
    (idle : ∀ active, active.slotHeld = false → measure active = 0) :
    Dict.weight measure pool.reap.activeRuns = Dict.weight measure pool.activeRuns := by
  apply Dict.weight_erase_all
  intro key completed
  simp only [List.mem_map, mem_filter] at completed
  obtain ⟨⟨name, active⟩, ⟨stored, done⟩, rfl⟩ := completed
  have found : pool.activeRuns.lookup name = some active := AList.mem_lookup_iff.mpr stored
  rw [Dict.share_some found]
  exact idle active (done_idle inv.filed found done)

theorem reap_inv (inv : PoolInv settings pool) : PoolInv settings pool.reap := by
  constructor
  · exact inv.capacity
  · constructor
    · rw [completed_idle inv]
      · exact inv.counted.used
      · intro active idle
        simp [ActiveRun.slots, idle]
    · intro ownerId
      rw [completed_idle inv]
      · exact inv.counted.owner ownerId
      · intro active idle
        simp [ActiveRun.slotsOf, idle]
  · intro runId active found
    exact inv.filed runId active (Dict.lookup_erase_all found)

theorem reserve_claim_inv {capacity : Capacity} (inv : PoolInv settings pool)
    (polling : pool.supervisor = .polling)
    (reserved : pool.capacity.reserve settings ownerId = some capacity) :
    PoolInv settings { pool with capacity := capacity, supervisor := .claiming ownerId } := by
  constructor
  · exact reserve_inv inv.capacity reserved
  · constructor
    · have used := inv.counted.used
      have more := (reserve_some reserved).2.2.1
      rw [polling] at used
      simp only [Supervisor.claims] at used ⊢
      omega
    · intro other
      have owner := inv.counted.owner other
      have more := reserve_owner_used reserved other
      rw [polling] at owner
      simp only [Supervisor.claimsOf, eq_comm] at owner more ⊢
      omega
  · exact inv.filed

theorem abandon_claim_inv (inv : PoolInv settings pool)
    (claiming : pool.supervisor = .claiming ownerId) :
    PoolInv settings (pool.abandonClaim ownerId) := by
  have owner := inv.counted.owner ownerId
  have slots := Dict.weight_nonneg (slots_of_nonneg pool.activeRuns ownerId)
  have some_used : 0 < pool.capacity.ownerUsed ownerId := by
    rw [claiming, Supervisor.claimsOf, if_pos rfl] at owner
    omega
  constructor
  · exact release_inv inv.capacity ownerId
  · constructor
    · have used := inv.counted.used
      have fewer := release_used inv.capacity some_used
      rw [claiming] at used
      simp only [Pool.abandonClaim, Supervisor.claims] at used ⊢
      omega
    · intro other
      have before := inv.counted.owner other
      have fewer := release_owner_used some_used other
      rw [claiming] at before
      simp only [Pool.abandonClaim, Supervisor.claimsOf, eq_comm] at before fewer ⊢
      omega
  · exact inv.filed

theorem create_task_inv (inv : PoolInv settings pool) (runId : String) :
    PoolInv settings (pool.createTask runId) := by
  constructor
  · exact inv.capacity
  · exact ⟨inv.counted.used, inv.counted.owner⟩
  · intro key active found
    obtain ⟨task, taskFound, taskRun, alive⟩ := inv.filed key active found
    refine ⟨task, ?_, taskRun, alive⟩
    have bound := (List.getElem?_eq_some_iff.mp taskFound).1
    rw [Pool.createTask, getElem?_append_left bound, taskFound]

theorem claimed_inv (inv : PoolInv settings pool) (claiming : pool.supervisor = .claiming ownerId)
    (idle : ∀ active, pool.activeRuns.lookup runId = some active → active.slotHeld = false) :
    PoolInv settings
      { (pool.createTask runId).file runId ownerId with supervisor := .polling } := by
  have overwritten : ∀ measure : ActiveRun → Int,
      (∀ active, active.slotHeld = false → measure active = 0) →
        Dict.share measure runId pool.activeRuns = 0 := by
    intro measure weightless
    cases found : pool.activeRuns.lookup runId with
    | none => exact Dict.share_none found
    | some active =>
      rw [Dict.share_some found]
      exact weightless active (idle active found)
  constructor
  · exact inv.capacity
  · constructor
    · have used := inv.counted.used
      rw [claiming] at used
      have nothing := overwritten ActiveRun.slots (by simp +contextual [ActiveRun.slots])
      simp only [Pool.file, Pool.createTask, Dict.weight_insert, nothing, Supervisor.claims,
        ActiveRun.slots, if_true] at used ⊢
      omega
    · intro other
      have owner := inv.counted.owner other
      rw [claiming] at owner
      have nothing := overwritten (ActiveRun.slotsOf other)
        (by simp +contextual [ActiveRun.slotsOf])
      simp only [Pool.file, Pool.createTask, Dict.weight_insert, nothing, Supervisor.claimsOf,
        ActiveRun.slotsOf, true_and] at owner ⊢
      omega
  · intro key active found
    simp only [Pool.file] at found ⊢
    by_cases same : key = runId
    · rw [same, AList.lookup_insert] at found
      cases found
      refine ⟨⟨runId, false, false⟩, ?_, same.symm, ?_⟩
      · simp [Pool.createTask]
      · intro _ _
        rfl
    · rw [AList.lookup_insert_ne same] at found
      exact (create_task_inv inv runId).filed key active found

theorem empty_pool_inv (settings : PoolSettings) (tasks : List PoolTask)
    {supervisor : Supervisor} (idle : ∀ ownerId, supervisor ≠ .claiming ownerId) :
    PoolInv settings ⟨⟨0, ∅⟩, ∅, tasks, supervisor⟩ := by
  have claims : supervisor.claims = 0 ∧ ∀ ownerId, supervisor.claimsOf ownerId = 0 := by
    cases supervisor with
    | claiming ownerId => exact absurd rfl (idle ownerId)
    | polling => exact ⟨rfl, fun _ => rfl⟩
    | stopping => exact ⟨rfl, fun _ => rfl⟩
    | stopped => exact ⟨rfl, fun _ => rfl⟩
  constructor
  · constructor
    · rfl
    · intro ownerId used found
      cases found
    · simp
    · intro ownerId
      simp [Capacity.ownerUsed]
  · constructor
    · rw [claims.1]
      rfl
    · intro ownerId
      rw [claims.2]
      rfl
  · intro runId active found
    cases found

end

/-- A claim overwrites no entry that holds a slot, and a control coroutine takes no slot
for an entry whose task is done. -/
def Pool.slotsSettled (pool : Pool) : PoolAction → Bool
  | .claimed runId => (pool.activeRuns.lookup runId).all fun active => !active.slotHeld
  | .reacquire index =>
    match pool.tasks[index]? with
    | some task => (pool.activeRuns.lookup task.runId).all fun active =>
      active.slotHeld || !pool.taskDone active
    | none => true
  | _ => true

def SlotsSettled (pool : Pool) (action : PoolAction) : Prop :=
  pool.slotsSettled action = true

section

variable {settings : PoolSettings} {pool next : Pool}

theorem set_task_inv {index : Nat} {task changed : PoolTask} (inv : PoolInv settings pool)
    (found : pool.tasks[index]? = some task) (sameRun : changed.runId = task.runId)
    (sameEnd : changed.ended = task.ended) : PoolInv settings (pool.setTask index changed) := by
  constructor
  · exact inv.capacity
  · exact ⟨inv.counted.used, inv.counted.owner⟩
  · apply set_task_filed inv.filed found sameRun
    intro _ alive
    rw [sameEnd, alive]

theorem release_slot_inv {runId : String} (capacity : CapacityInv settings pool.capacity)
    (counted : SlotsCounted pool) (filed : Filed (some runId) pool) :
    PoolInv settings (pool.releaseRunSlot runId) := by
  obtain ⟨capacity_after, counted_after⟩ := release_run_slot_counted capacity counted runId
  exact ⟨capacity_after, counted_after, release_run_slot_filed filed⟩

theorem pool_step_inv {action : PoolAction} (inv : PoolInv settings pool)
    (settled : SlotsSettled pool action) (taken : pool.step settings action = some next) :
    PoolInv settings next := by
  cases action <;> simp only [Pool.step] at taken
  case reap =>
      split at taken
      · cases taken
        exact reap_inv inv
      · cases taken
  case reserve ownerId =>
      split at taken
      · next polling =>
        split at taken
        · cases taken
        · obtain ⟨capacity, reserved, rfl⟩ := map_eq_some_iff.mp taken
          exact reserve_claim_inv inv polling reserved
      · cases taken
  case noRun =>
      split at taken
      · next ownerId claiming =>
        cases taken
        exact abandon_claim_inv inv claiming
      · cases taken
  case claimed runId =>
      split at taken
      · next ownerId claiming =>
        split at taken
        · cases taken
        · cases taken
          apply claimed_inv inv claiming
          intro active found
          simpa [SlotsSettled, Pool.slotsSettled, found] using settled
      · cases taken
  case unfiled runId =>
      split at taken
      · next ownerId claiming =>
        split at taken
        · cases taken
        · cases taken
          exact abandon_claim_inv (create_task_inv inv runId) claiming
      · cases taken
  case stop =>
      split at taken
      · next polling =>
        cases taken
        have used := inv.counted.used
        have owner := inv.counted.owner
        rw [polling] at used owner
        exact ⟨inv.capacity, ⟨used, owner⟩, inv.filed⟩
      · next ownerId claiming =>
        cases taken
        have after := abandon_claim_inv inv claiming
        exact ⟨after.capacity, ⟨after.counted.used, after.counted.owner⟩, after.filed⟩
      · cases taken
  case clear =>
      split at taken
      · split at taken
        · cases taken
          apply empty_pool_inv
          intro ownerId same
          cases same
        · cases taken
      · cases taken
  case control index =>
      split at taken
      · next task found =>
        split at taken
        · cases taken
        · cases taken
          exact set_task_inv inv found rfl rfl
      · cases taken
  case leaveControl index =>
      split at taken
      · next task found =>
        split at taken
        · cases taken
          exact set_task_inv inv found rfl rfl
        · cases taken
      · cases taken
  case release index =>
      split at taken
      · next task found =>
        split at taken
        · cases taken
        · cases taken
          exact release_slot_inv inv.capacity inv.counted (filed_weaken inv.filed _)
      · cases taken
  case reacquire index =>
      split at taken
      · next task found =>
        split at taken
        · obtain ⟨capacity, counted⟩ := reacquire_counted inv.capacity inv.counted taken
          refine ⟨capacity, counted, reacquire_filed inv.filed ?_ taken⟩
          intro active stored
          simpa [SlotsSettled, Pool.slotsSettled, found, stored] using settled
        · cases taken
      · cases taken
  case finish index prepared =>
      split at taken
      · next task found =>
        split at taken
        · cases taken
        · cases taken
          apply release_slot_inv
          · exact inv.capacity
          · exact ⟨inv.counted.used, inv.counted.owner⟩
          · apply set_task_filed inv.filed found
            · rfl
            · intro kept
              exact absurd rfl kept
      · cases taken

end

theorem reachable_pool_inv {settings : PoolSettings} {pool : Pool}
    (reachable : (poolMachine settings).Reachable SlotsSettled pool) : PoolInv settings pool := by
  apply reachable_invariant (PoolInv settings) _ _ reachable
  · intro start initial
    cases initial
    apply empty_pool_inv
    intro ownerId same
    cases same
  · intro pool action next inv settled taken
    exact pool_step_inv inv settled taken

def Pool.slotsHeld (pool : Pool) : Nat :=
  pool.activeRuns.entries.countP fun entry => entry.2.slotHeld

theorem slots_held_weight (pool : Pool) :
    Dict.weight ActiveRun.slots pool.activeRuns = pool.slotsHeld :=
  Dict.weight_count ActiveRun.slotHeld pool.activeRuns

theorem ended_slots_held {settings : PoolSettings} {pool : Pool} (inv : PoolInv settings pool)
    (ended : ∀ task ∈ pool.tasks, task.ended = true) : pool.slotsHeld = 0 := by
  apply countP_eq_zero.mpr
  intro entry stored
  have found : pool.activeRuns.lookup entry.1 = some entry.2 := AList.mem_lookup_iff.mpr stored
  obtain ⟨task, taskFound, -, -⟩ := inv.filed entry.1 entry.2 found
  have done : pool.taskDone entry.2 = true := by
    simp [Pool.taskDone, taskFound, ended task (mem_of_getElem? taskFound)]
  rw [done_idle inv.filed found done]
  simp

theorem capacity_conserved (settings : PoolSettings) {pool : Pool}
    (reachable : (poolMachine settings).Reachable SlotsSettled pool) :
    pool.capacity.used = pool.capacity.ownersTotal ∧
      pool.capacity.used = pool.slotsHeld + pool.supervisor.claims ∧
      0 ≤ pool.capacity.used ∧ pool.capacity.used ≤ settings.maxConcurrency ∧
      (∀ ownerId, 0 ≤ pool.capacity.ownerUsed ownerId ∧
        pool.capacity.ownerUsed ownerId ≤ settings.perOwnerConcurrency) ∧
      ((∀ task ∈ pool.tasks, task.ended = true) → pool.supervisor.claims = 0 →
        pool.capacity.used = 0) := by
  have inv := reachable_pool_inv reachable
  have counted : pool.capacity.used = pool.slotsHeld + pool.supervisor.claims := by
    rw [inv.counted.used, slots_held_weight]
  refine ⟨inv.capacity.total, counted, ?_, inv.capacity.bound, ?_, ?_⟩
  · rw [inv.capacity.total]
    exact Dict.weight_nonneg inv.capacity.positive
  · intro ownerId
    apply And.intro _ (inv.capacity.ownerBound ownerId)
    rw [owner_used_share]
    exact Dict.share_nonneg inv.capacity.positive ownerId
  · intro ended claimless
    have none_held := ended_slots_held inv ended
    rw [none_held, claimless] at counted
    exact counted

def defaultSettings : PoolSettings := ⟨2, 2, 8⟩

def Pool.runAll (guard : Pool → PoolAction → Bool) (actions : List PoolAction) : Option Pool :=
  actions.foldlM (fun pool action =>
    if guard pool action then pool.step defaultSettings action else none) Pool.start

theorem pool_run_reachable (guard : Pool → PoolAction → Bool) {actions : List PoolAction}
    {finish : Pool} (ran : Pool.runAll guard actions = some finish) :
    (poolMachine defaultSettings).Reachable (fun pool action => guard pool action = true) finish :=
  ⟨Pool.start, rfl, path_of_run guard (Pool.step defaultSettings) (fun _ _ _ taken => taken) ran⟩

def reclaimedRun : List PoolAction :=
  [.reserve "ada", .claimed "run", .reserve "ada", .claimed "run", .finish 0 true,
    .finish 1 true, .reap]

def reclaimedWaiting : List PoolAction :=
  [.reserve "ada", .claimed "run", .release 0, .reserve "ada", .claimed "run", .finish 0 true,
    .finish 1 true, .reap]

theorem reclaimed_run_leaks_slot : ∃ pool, (poolMachine defaultSettings).Reachable Anything pool ∧
      (∀ task ∈ pool.tasks, task.ended = true) ∧ pool.supervisor.claims = 0 ∧
      pool.slotsHeld = 0 ∧ pool.capacity.used = 1 := by
  have ran : ((Pool.runAll (fun _ _ => true) reclaimedRun).map fun pool =>
      (pool.tasks.all PoolTask.ended, pool.supervisor.claims, pool.slotsHeld,
        pool.capacity.used)) = some (true, 0, 0, 1) := by decide +kernel
  obtain ⟨pool, done, seen⟩ := map_eq_some_iff.mp ran
  simp only [Prod.mk.injEq, List.all_eq_true] at seen
  exact ⟨pool, reachable_weaken (fun _ _ _ => trivial) (pool_run_reachable _ done), seen⟩

-- The control coroutine of a failed preparation takes a slot before its entry is reaped.
example : (Pool.runAll (fun _ _ => true) [.reserve "ada", .claimed "run", .control 0,
    .finish 0 false, .reacquire 0, .reap]).map (fun pool =>
      (pool.activeRuns.keys, pool.slotsHeld, pool.capacity.used)) = some ([], 0, 1) := by
  decide +kernel

theorem reclaimed_waiting_returns_slots : ∃ pool,
    Pool.runAll Pool.slotsSettled reclaimedWaiting = some pool ∧ pool.capacity.used = 0 := by
  have ran : ((Pool.runAll Pool.slotsSettled reclaimedWaiting).map fun pool =>
      (pool.tasks.all PoolTask.ended, pool.supervisor.claims)) = some (true, 0) := by
    decide +kernel
  obtain ⟨pool, done, seen⟩ := map_eq_some_iff.mp ran
  simp only [Prod.mk.injEq, List.all_eq_true] at seen
  have conserved := capacity_conserved defaultSettings (pool_run_reachable _ done)
  exact ⟨pool, done, conserved.2.2.2.2.2 seen.1 seen.2⟩

end AgentMate
