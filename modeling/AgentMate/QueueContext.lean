import AgentMate.DeviceOwnership

/-! # Why a queued Run waits -/

namespace AgentMate

open TransitionSystem List

variable {Hash : Type}

structure BlockingRun where
  id : String
  sessionId : String
  projectId : String
  status : RunStatus

structure QueueContext where
  reason : String
  message : String
  blockingRun : Option BlockingRun

/-- `next` on an exhausted generator. -/
inductive QueueError where
  | stopIteration

structure Blocker where
  run : Run
  deviceId : String

def deviceOnlineWindowSeconds : Nat := 90

def targetDevices (store : Store Hash) (run : Run) : List Device :=
  store.devices.filter fun device => device.ownerId = run.ownerId && device.status = .active &&
    device.revokedAt = 0 && (run.targetDeviceId = "" || device.id = run.targetDeviceId)

def compatibleDevices (store : Store Hash) (run : Run) : List Device :=
  (targetDevices store run).filter fun device => run.requiredCapabilities.all fun name =>
    (capabilitySet device.capabilities).contains name

def onlineDevices (store : Store Hash) (run : Run) (now : Time) : List Device :=
  (compatibleDevices store run).filter fun device =>
    now - deviceOnlineWindowSeconds ≤ device.lastSeenAt

/-- `CASE r.status WHEN 'waiting_user' THEN 0 WHEN 'paused' THEN 1 ELSE 2 END`. -/
def RunStatus.blockerRank : RunStatus → Nat
  | .waitingUser => 0
  | .paused => 1
  | _ => 2

/-- The rank, then `r.updated_at,r.id`. -/
def Blocker.Before (left right : Blocker) : Prop :=
  left.run.status.blockerRank < right.run.status.blockerRank ∨
    (left.run.status.blockerRank = right.run.status.blockerRank ∧
      (left.run.report.updatedAt < right.run.report.updatedAt ∨
        (left.run.report.updatedAt = right.run.report.updatedAt ∧ ¬right.run.id < left.run.id)))

instance : DecidableRel Blocker.Before := fun _ _ => inferInstanceAs (Decidable (_ ∨ _))

def blockerRow (store : Store Hash) (devices : List Device) (runId : String) (now : Time)
    (lease : Lease) : Option Blocker :=
  if (devices.any fun device => device.id = lease.deviceId) && lease.isLive now then
    ((store.run? lease.runId).filter fun row => row.id ≠ runId && row.status.isResident).map
      fun row => ⟨row, lease.deviceId⟩
  else none

def blockersOf (store : Store Hash) (devices : List Device) (runId : String) (now : Time) :
    List Blocker :=
  (store.leases.filterMap (blockerRow store devices runId now)).insertionSort Blocker.Before

/-- `active_counts`. -/
def activeCount (blockers : List Blocker) (deviceId : String) : Nat :=
  (blockers.filter fun blocker =>
    blocker.deviceId = deviceId && blocker.run.status.isActive).length

/-- Membership in `saturated_device_ids`. -/
def isSaturated (text : PyText) (blockers : List Blocker) (device : Device) : Bool :=
  (activeCount blockers device.id : Int) ≥ parallelCapacity text device.capabilities

def Run.asBlocking (run : Run) : BlockingRun :=
  ⟨run.id, run.sessionId, run.projectId.getD "", run.status⟩

/-- The answer that names a Run when every online device is saturated. -/
def busyContext (blocker : Run) : QueueContext :=
  let (reason, message) :=
    if blocker.status = .waitingUser then
      ("waiting_confirmation", "等待前序任务确认；处理后当前 Run 将继续排队")
    else if blocker.status = .paused then
      ("blocked_by_paused_run", "前序任务已暂停；恢复或取消后当前 Run 将继续排队")
    else ("device_busy", "Local Agent 正在执行前序任务")
  ⟨reason, message, some blocker.asBlocking⟩

def scopeContext (blocker : Run) : QueueContext :=
  if blocker.status = .waitingUser then
    ⟨"waiting_confirmation", "等待前序任务确认；处理后当前 Run 将继续排队", some blocker.asBlocking⟩
  else ⟨"resource_lock_wait", "同一工作区的写入任务正在串行执行", some blocker.asBlocking⟩

/-- `_workspace_scope(item) == candidate_scope and (candidate_writes or ..)`. -/
def scopesCollide (candidate item : Run) : Bool :=
  workspaceScope item = workspaceScope candidate && (candidate.mode.writes || item.mode.writes)

def queueContext (text : PyText) (store : Store Hash) (run : Run) (now : Time) :
    Except QueueError (Option QueueContext) :=
  if run.status = .recoverable then
    .ok (some ⟨"recovering", "上次执行租约已中断，正在等待 Local Agent 恢复", none⟩)
  else if run.status ≠ .queued then .ok none
  else if (targetDevices store run).isEmpty then
    .ok (some ⟨"device_unavailable", "目标 Local Agent 不可用，请检查登录与设备状态", none⟩)
  else if (compatibleDevices store run).isEmpty then
    .ok (some ⟨"capability_mismatch", "当前 Local Agent 缺少本次 Run 所需能力", none⟩)
  else
    let online := onlineDevices store run now
    if online.isEmpty then
      .ok (some ⟨"device_offline", "目标 Local Agent 已离线，恢复在线后将继续领取", none⟩)
    else
      let blockers := blockersOf store online run.id now
      if !blockers.isEmpty && online.all (isSaturated text blockers) then
        let found := blockers.find? fun item =>
          (online.any fun device => device.id = item.deviceId && isSaturated text blockers device) &&
            item.run.status.isActive
        match found with
        | none => .error .stopIteration
        | some blocker => .ok (some (busyContext blocker.run))
      else
        match blockers.find? fun item => scopesCollide run item.run with
        | some blocker => .ok (some (scopeContext blocker.run))
        | none => .ok (some ⟨"awaiting_claim", "等待在线 Local Agent 领取", none⟩)

def Device.principal (device : Device) : DevicePrincipal :=
  ⟨device.id, device.ownerId, device.capabilities, protocolVersion⟩

/-- The Runs that a device holds, as `lease_run` counts them. -/
def heldRuns (store : Store Hash) (principal : DevicePrincipal) (now : Time) : List Run :=
  store.residentRuns
    (fun lease => lease.ownerId = principal.ownerId && lease.deviceId = principal.deviceId) now

def hasSlot (text : PyText) (store : Store Hash) (principal : DevicePrincipal) (now : Time) :
    Bool :=
  (((heldRuns store principal now).filter fun run => run.status.isActive).length : Int) <
    parallelCapacity text principal.capabilities

def hasRoom (text : PyText) (store : Store Hash) (principal : DevicePrincipal) (now : Time) :
    Bool :=
  ((heldRuns store principal now).length : Int) < residentCapacity text principal.capabilities

/-- The checks that `lease_run` puts to a Run for one device. -/
def claimAdmits (text : PyText) (store : Store Hash) (principal : DevicePrincipal) (now : Time)
    (run : Run) : Bool :=
  hasSlot text store principal now && hasRoom text store principal now &&
    leaseAdmits store principal now run

theorem lease_candidate_find (text : PyText) (store : Store Hash) (principal : DevicePrincipal)
    (now : Time) : leaseCandidate text store principal now =
      (claimableRuns store principal.ownerId).find? (claimAdmits text store principal now) := by
  have refused (blocked : ∀ run, claimAdmits text store principal now run = false) :
      (claimableRuns store principal.ownerId).find? (claimAdmits text store principal now) =
        none := by
    apply find?_eq_none.mpr
    intro run _
    simp [blocked run]
  unfold leaseCandidate
  simp only
  split
  · next full =>
    apply (refused fun run => _).symm
    intro run
    have slot : hasSlot text store principal now = false := decide_eq_false (not_lt.mpr full)
    simp [claimAdmits, slot]
  · next free =>
    have slot : hasSlot text store principal now = true := decide_eq_true (lt_of_not_ge free)
    split
    · next full =>
      apply (refused fun run => _).symm
      intro run
      have room : hasRoom text store principal now = false :=
        decide_eq_false (not_lt.mpr full)
      simp [claimAdmits, room]
    · next free =>
      have room : hasRoom text store principal now = true :=
        decide_eq_true (lt_of_not_ge free)
      congr 1
      funext run
      simp [claimAdmits, slot, room]

/-- An online device of the owner that is not revoked would be granted the Run. -/
def Grantable (text : PyText) (store : Store Hash) (now : Time) (run : Run) : Prop :=
  ∃ device ∈ store.devices, device.ownerId = run.ownerId ∧ device.status = .active ∧
    device.revokedAt = 0 ∧ now - deviceOnlineWindowSeconds ≤ device.lastSeenAt ∧
    claimAdmits text store device.principal now run = true

/-- The named Run is held under a live lease of the owner that counts against the queued
one: by its workspace, or by a parallel slot of an online device that has none left. -/
def Enforced (text : PyText) (store : Store Hash) (now : Time) (run : Run)
    (blocking : BlockingRun) : Prop :=
  ∃ lease ∈ store.leases, ∃ holder, lease.isLive now = true ∧ lease.ownerId = run.ownerId ∧
    store.run? lease.runId = some holder ∧ holder.status.isResident = true ∧
    blocking = holder.asBlocking ∧
    (scopesCollide run holder = true ∨
      (holder.status.isActive = true ∧ ∃ device ∈ onlineDevices store run now,
        device.id = lease.deviceId ∧ hasSlot text store device.principal now = false))

/-- The diagnosis of a queued Run says what `lease_run` would do with it. -/
def QueueAgrees (text : PyText) (store : Store Hash) (now : Time) (run : Run) : Prop :=
  ∃ context, queueContext text store run now = .ok (some context) ∧
    (context.reason = "awaiting_claim" ↔ Grantable text store now run) ∧
    ∀ blocking, context.blockingRun = some blocking →
      ¬Grantable text store now run ∧ Enforced text store now run blocking

def collidesOnline (store : Store Hash) (now : Time) (run : Run) : Bool :=
  (store.residentRuns (fun lease => (onlineDevices store run now).any
    fun device => device.id = lease.deviceId) now).any (scopesCollide run)

/-- Where the diagnosis sees a free slot and no collision, there is resident room as well
and no collision anywhere else. -/
def DiagnosisComplete (text : PyText) (store : Store Hash) (now : Time) (run : Run) : Prop :=
  (∃ device ∈ onlineDevices store run now, hasSlot text store device.principal now = true) →
    collidesOnline store now run = false →
    (∃ device ∈ onlineDevices store run now, hasSlot text store device.principal now = true ∧
      hasRoom text store device.principal now = true) ∧ scopeConflicts store run now = false

section

variable {text : PyText} {store : Store Hash} {now : Time} {run : Run}

theorem online_device {device : Device} :
    device ∈ onlineDevices store run now ↔ device ∈ store.devices ∧
      device.ownerId = run.ownerId ∧ device.status = .active ∧ device.revokedAt = 0 ∧
      (run.targetDeviceId = "" ∨ device.id = run.targetDeviceId) ∧
      (run.requiredCapabilities.all fun name =>
        (capabilitySet device.capabilities).contains name) = true ∧
      now - deviceOnlineWindowSeconds ≤ device.lastSeenAt := by
  simp only [onlineDevices, compatibleDevices, targetDevices, mem_filter, Bool.and_eq_true,
    Bool.or_eq_true, decide_eq_true_eq]
  tauto

theorem claim_admits_iff {device : Device} :
    claimAdmits text store device.principal now run = true ↔
      hasSlot text store device.principal now = true ∧
      hasRoom text store device.principal now = true ∧
      (run.targetDeviceId = "" ∨ device.id = run.targetDeviceId) ∧
      (run.requiredCapabilities.all fun name =>
        (capabilitySet device.capabilities).contains name) = true ∧
      scopeConflicts store run now = false := by
  have target : (run.targetDeviceId = "" ∨ run.targetDeviceId = device.principal.deviceId) ↔
      (run.targetDeviceId = "" ∨ device.id = run.targetDeviceId) :=
    or_congr_right eq_comm
  rw [← target, claimAdmits, leaseAdmits]
  simp only [Bool.and_eq_true, Bool.or_eq_true, decide_eq_true_eq, Bool.not_eq_true', and_assoc]
  exact Iff.rfl

theorem grantable_iff : Grantable text store now run ↔
    (∃ device ∈ onlineDevices store run now, hasSlot text store device.principal now = true ∧
      hasRoom text store device.principal now = true) ∧ scopeConflicts store run now = false := by
  simp only [Grantable, online_device, claim_admits_iff]
  constructor
  · rintro ⟨device, mem, owner, active, standing, seen, slot, room, aimed, able, free⟩
    exact ⟨⟨device, ⟨mem, owner, active, standing, aimed, able, seen⟩, slot, room⟩, free⟩
  · rintro ⟨⟨device, ⟨mem, owner, active, standing, aimed, able, seen⟩, slot, room⟩, free⟩
    exact ⟨device, mem, owner, active, standing, seen, slot, room, aimed, able, free⟩

theorem mem_resident_runs {chosen : Lease → Bool} {item : Run} :
    item ∈ store.residentRuns chosen now ↔ ∃ lease ∈ store.leases, chosen lease = true ∧
      lease.isLive now = true ∧ store.run? lease.runId = some item ∧
      item.status.isResident = true := by
  simp only [Store.residentRuns, mem_filterMap, Option.ite_none_right_eq_some,
    Bool.and_eq_true, Option.filter_eq_some_iff]
  constructor
  · rintro ⟨lease, mem, ⟨choice, live⟩, found, resident⟩
    exact ⟨lease, mem, choice, live, found, resident⟩
  · rintro ⟨lease, mem, choice, live, found, resident⟩
    exact ⟨lease, mem, ⟨choice, live⟩, found, resident⟩

theorem mem_blockers {devices : List Device} {runId : String} {blocker : Blocker} :
    blocker ∈ blockersOf store devices runId now ↔ ∃ lease ∈ store.leases,
      (∃ device ∈ devices, device.id = lease.deviceId) ∧ lease.isLive now = true ∧
      store.run? lease.runId = some blocker.run ∧ blocker.run.id ≠ runId ∧
      blocker.run.status.isResident = true ∧ blocker.deviceId = lease.deviceId := by
  simp only [blockersOf, blockerRow, mem_insertionSort, mem_filterMap,
    Option.ite_none_right_eq_some, Bool.and_eq_true, Option.map_eq_some_iff,
    Option.filter_eq_some_iff, any_eq_true, decide_eq_true_eq]
  constructor
  · rintro ⟨lease, mem, ⟨known, live⟩, row, ⟨found, other, resident⟩, rfl⟩
    exact ⟨lease, mem, known, live, found, other, resident, rfl⟩
  · rintro ⟨lease, mem, known, live, found, other, resident, same⟩
    refine ⟨lease, mem, ⟨known, live⟩, blocker.run, ⟨found, other, resident⟩, ?_⟩
    rw [← same]

end

/-- A store whose keys are unique and whose leases belong to the account of their device,
with a queued Run of it. -/
structure QueuedRun (store : Store Hash) (run : Run) : Prop where
  keyed : store.Keyed
  devices : Table.UniqueKey Device.id store.devices
  leases : LeasesOwned store
  mem : run ∈ store.runs
  queued : run.status = .queued

section

variable {text : PyText} {store : Store Hash} {now : Time} {run : Run}

theorem resident_other (facts : QueuedRun store run) {runId : String} {holder : Run}
    (found : store.run? runId = some holder) (resident : holder.status.isResident = true) :
    holder.id ≠ run.id := by
  intro same
  have read := run_of_mem facts.keyed (run_mem found)
  rw [same, run_of_mem facts.keyed facts.mem] at read
  cases read
  rw [facts.queued] at resident
  cases resident

variable {device : Device}

theorem online_lease_owner (facts : QueuedRun store run) {lease : Lease}
    (mem : lease ∈ store.leases) (online : device ∈ onlineDevices store run now)
    (same : device.id = lease.deviceId) : lease.ownerId = run.ownerId := by
  obtain ⟨known, owner, -⟩ := online_device.mp online
  rw [← device_owner facts.devices facts.leases mem known same, owner]

theorem blocker_row_active (facts : QueuedRun store run)
    (online : device ∈ onlineDevices store run now) {lease : Lease}
    (mem : lease ∈ store.leases) :
    ((blockerRow store (onlineDevices store run now) run.id now lease).filter fun blocker =>
      blocker.deviceId = device.id && blocker.run.status.isActive).map Blocker.run =
    (if (lease.ownerId = device.principal.ownerId && lease.deviceId = device.principal.deviceId) &&
        lease.isLive now then
      (store.run? lease.runId).filter fun row => row.status.isResident
    else none).filter fun row => row.status.isActive := by
  unfold blockerRow
  by_cases same : lease.deviceId = device.id
  · have owner : lease.ownerId = device.ownerId := by
      rw [online_lease_owner facts mem online same.symm, (online_device.mp online).2.1]
    have known : ((onlineDevices store run now).any fun device => device.id = lease.deviceId) =
        true := any_eq_true.mpr ⟨device, online, by simp [same]⟩
    have own : (decide (lease.ownerId = device.principal.ownerId) &&
        decide (lease.deviceId = device.principal.deviceId)) = true := by
      simp [Device.principal, owner, same]
    rw [known, own, Bool.true_and]
    cases lease.isLive now with
    | false => rfl
    | true =>
      rw [if_pos rfl, if_pos rfl]
      cases found : store.run? lease.runId with
      | none => rfl
      | some holder =>
        cases resident : holder.status.isResident with
        | false => simp [Option.filter, resident]
        | true =>
          have other := resident_other facts found resident
          cases active : holder.status.isActive <;>
            simp [Option.filter, resident, other, same, active]
  · have foreign : (decide (lease.deviceId = device.principal.deviceId)) = false :=
      decide_eq_false same
    rw [foreign, Bool.and_false, Bool.false_and, if_neg Bool.false_ne_true]
    split
    · cases (store.run? lease.runId).filter _ <;> simp [same, Option.filter]
    · rfl

theorem active_count_held (facts : QueuedRun store run)
    (online : device ∈ onlineDevices store run now) :
    activeCount (blockersOf store (onlineDevices store run now) run.id now) device.id =
      ((heldRuns store device.principal now).filter fun row => row.status.isActive).length := by
  have sorted := perm_insertionSort Blocker.Before
    (store.leases.filterMap (blockerRow store (onlineDevices store run now) run.id now))
  rw [activeCount, blockersOf, (sorted.filter _).length_eq, heldRuns, Store.residentRuns,
    filter_filterMap, filter_filterMap,
    ← length_map Blocker.run, map_filterMap]
  congr 1
  apply filterMap_congr
  intro lease mem
  exact blocker_row_active facts online mem

theorem saturated_iff (facts : QueuedRun store run)
    (online : device ∈ onlineDevices store run now) :
    isSaturated text (blockersOf store (onlineDevices store run now) run.id now) device = true ↔
      hasSlot text store device.principal now = false := by
  rw [isSaturated, active_count_held facts online, hasSlot, decide_eq_true_eq, decide_eq_false_iff_not,
    not_lt]
  exact Iff.rfl

theorem blocker_collides (facts : QueuedRun store run) :
    (∃ blocker ∈ blockersOf store (onlineDevices store run now) run.id now,
      scopesCollide run blocker.run = true) ↔ collidesOnline store now run = true := by
  simp only [collidesOnline, any_eq_true, mem_resident_runs, mem_blockers, decide_eq_true_eq]
  constructor
  · rintro ⟨blocker, ⟨lease, mem, known, live, found, -, resident, -⟩, collides⟩
    exact ⟨blocker.run, ⟨lease, mem, known, live, found, resident⟩, collides⟩
  · rintro ⟨holder, ⟨lease, mem, known, live, found, resident⟩, collides⟩
    have other := resident_other facts found resident
    exact ⟨⟨holder, lease.deviceId⟩, ⟨lease, mem, known, live, found, other, resident, rfl⟩,
      collides⟩

theorem collides_online_conflicts (facts : QueuedRun store run)
    (collides : collidesOnline store now run = true) : scopeConflicts store run now = true := by
  simp only [collidesOnline, scopeConflicts, any_eq_true, mem_resident_runs,
    decide_eq_true_eq] at collides ⊢
  obtain ⟨holder, ⟨lease, mem, ⟨device, online, same⟩, live, found, resident⟩, shared⟩ :=
    collides
  exact ⟨holder, ⟨lease, mem, online_lease_owner facts mem online same, live, found,
    resident⟩, shared⟩

theorem saturated_blocker (facts : QueuedRun store run)
    (online : device ∈ onlineDevices store run now)
    (full : hasSlot text store device.principal now = false) :
    ∃ blocker ∈ blockersOf store (onlineDevices store run now) run.id now,
      blocker.deviceId = device.id ∧ blocker.run.status.isActive = true := by
  have counted := (saturated_iff facts online).mpr full
  simp only [isSaturated, ge_iff_le, decide_eq_true_eq] at counted
  have least : (1 : Int) ≤ parallelCapacity text device.capabilities := le_max_left _ _
  have positive : 0 < activeCount (blockersOf store (onlineDevices store run now) run.id now)
      device.id := by omega
  obtain ⟨blocker, mem⟩ := exists_mem_of_length_pos positive
  simp only [mem_filter, Bool.and_eq_true, decide_eq_true_eq] at mem
  exact ⟨blocker, mem.1, mem.2.1, mem.2.2⟩

/-- The answers of `queue_context` to a queued Run. -/
inductive QueueOutcome (text : PyText) (store : Store Hash) (now : Time) (run : Run)
    (context : QueueContext) : Prop
  | unserved : onlineDevices store run now = [] → context.reason ≠ "awaiting_claim" →
      context.blockingRun = none → QueueOutcome text store now run context
  | busy (blocker : Blocker) (device : Device) :
      (∀ other ∈ onlineDevices store run now, hasSlot text store other.principal now = false) →
      blocker ∈ blockersOf store (onlineDevices store run now) run.id now →
      device ∈ onlineDevices store run now → device.id = blocker.deviceId →
      blocker.run.status.isActive = true → context = busyContext blocker.run →
      QueueOutcome text store now run context
  | shared (blocker : Blocker) :
      blocker ∈ blockersOf store (onlineDevices store run now) run.id now →
      scopesCollide run blocker.run = true → context = scopeContext blocker.run →
      QueueOutcome text store now run context
  | awaiting (device : Device) : device ∈ onlineDevices store run now →
      hasSlot text store device.principal now = true → collidesOnline store now run = false →
      context.reason = "awaiting_claim" → context.blockingRun = none →
      QueueOutcome text store now run context

theorem queue_context_outcome (text : PyText) (now : Time) (facts : QueuedRun store run) :
    ∃ context, queueContext text store run now = .ok (some context) ∧
      QueueOutcome text store now run context := by
  have notRecoverable : run.status ≠ .recoverable := by simp [facts.queued]
  unfold queueContext
  rw [if_neg notRecoverable, if_neg (not_not.mpr facts.queued)]
  split
  · next none =>
    have empty : onlineDevices store run now = [] := by
      simp [onlineDevices, compatibleDevices, List.isEmpty_iff.mp none]
    exact ⟨_, rfl, .unserved empty (by decide) rfl⟩
  split
  · next none =>
    have empty : onlineDevices store run now = [] := by
      simp [onlineDevices, List.isEmpty_iff.mp none]
    exact ⟨_, rfl, .unserved empty (by decide) rfl⟩
  simp only
  split
  · next none => exact ⟨_, rfl, .unserved (List.isEmpty_iff.mp none) (by decide) rfl⟩
  next some =>
  split
  · next busy =>
    simp only [Bool.and_eq_true, all_eq_true] at busy
    have full : ∀ device ∈ onlineDevices store run now,
        hasSlot text store device.principal now = false :=
      fun device online => (saturated_iff facts online).mp (busy.2 device online)
    split
    · next none =>
      obtain ⟨device, online⟩ := exists_mem_of_ne_nil _ fun empty =>
        some (List.isEmpty_iff.mpr empty)
      obtain ⟨blocker, mem, same, active⟩ :=
        saturated_blocker facts online (full device online)
      have refused := find?_eq_none.mp none blocker mem
      simp only [active, Bool.and_true, any_eq_true, Bool.and_eq_true, decide_eq_true_eq] at refused
      exact (refused ⟨device, online, same.symm, busy.2 device online⟩).elim
    · next blocker found =>
      have chosen := find?_some found
      simp only [Bool.and_eq_true, any_eq_true, decide_eq_true_eq] at chosen
      obtain ⟨⟨device, online, same, -⟩, active⟩ := chosen
      exact ⟨_, rfl, .busy blocker device full (mem_of_find?_eq_some found) online same active rfl⟩
  · next idle =>
    split
    · next blocker found =>
      have collides : scopesCollide run blocker.run = true := by
        simpa using find?_some found
      exact ⟨_, rfl, .shared blocker (mem_of_find?_eq_some found) collides rfl⟩
    · next none =>
      have alone : collidesOnline store now run = false := by
        rw [← Bool.not_eq_true, ← blocker_collides facts]
        rintro ⟨blocker, mem, collides⟩
        exact find?_eq_none.mp none blocker mem collides
      have slot : ∃ device ∈ onlineDevices store run now,
          hasSlot text store device.principal now = true := by
        by_contra none
        have full : ∀ device ∈ onlineDevices store run now,
            hasSlot text store device.principal now = false := by
          intro device online
          rw [← Bool.not_eq_true]
          exact fun slot => none ⟨device, online, slot⟩
        obtain ⟨device, online⟩ := exists_mem_of_ne_nil _ fun empty =>
          some (List.isEmpty_iff.mpr empty)
        obtain ⟨blocker, mem, -⟩ := saturated_blocker facts online (full device online)
        apply idle
        simp only [Bool.and_eq_true, all_eq_true, Bool.not_eq_true']
        refine ⟨?_, fun other otherOnline =>
          (saturated_iff facts otherOnline).mpr (full other otherOnline)⟩
        exact isEmpty_eq_false_iff.mpr (ne_nil_of_mem mem)
      obtain ⟨device, online, free⟩ := slot
      exact ⟨_, rfl, .awaiting device online free alone rfl rfl⟩

theorem blocker_enforced (facts : QueuedRun store run) {blocker : Blocker}
    (mem : blocker ∈ blockersOf store (onlineDevices store run now) run.id now)
    (counts : scopesCollide run blocker.run = true ∨
      (blocker.run.status.isActive = true ∧ ∃ device ∈ onlineDevices store run now,
        device.id = blocker.deviceId ∧ hasSlot text store device.principal now = false)) :
    Enforced text store now run blocker.run.asBlocking := by
  obtain ⟨lease, leaseMem, ⟨device, online, same⟩, live, found, -, resident, deviceId⟩ :=
    mem_blockers.mp mem
  rw [deviceId] at counts
  exact ⟨lease, leaseMem, blocker.run, live,
    online_lease_owner facts leaseMem online same, found, resident, rfl, counts⟩

theorem not_grantable_full (full : ∀ device ∈ onlineDevices store run now,
      hasSlot text store device.principal now = false) : ¬Grantable text store now run := by
  intro grantable
  obtain ⟨⟨device, online, slot, -⟩, -⟩ := grantable_iff.mp grantable
  rw [full device online] at slot
  cases slot

theorem not_grantable_collides (facts : QueuedRun store run)
    (collides : collidesOnline store now run = true) : ¬Grantable text store now run := by
  intro grantable
  rw [grantable_iff, collides_online_conflicts facts collides] at grantable
  cases grantable.2

theorem busy_context_reason {holder : Run} (active : holder.status.isActive = true) :
    (busyContext holder).reason ≠ "awaiting_claim" ∧
      (busyContext holder).blockingRun = some holder.asBlocking := by
  cases status : holder.status <;> rw [status] at active <;> cases active <;>
    simp [busyContext, status]

theorem scope_context_reason (holder : Run) : (scopeContext holder).reason ≠ "awaiting_claim" ∧
      (scopeContext holder).blockingRun = some holder.asBlocking := by
  unfold scopeContext
  split <;> simp

theorem queue_agrees_iff (facts : QueuedRun store run) :
    QueueAgrees text store now run ↔ DiagnosisComplete text store now run := by
  obtain ⟨context, answered, outcome⟩ := queue_context_outcome text now facts
  have agrees_of : (context.reason = "awaiting_claim" ↔ Grantable text store now run) →
      (∀ blocking, context.blockingRun = some blocking →
        ¬Grantable text store now run ∧ Enforced text store now run blocking) →
      QueueAgrees text store now run := fun awaited named => ⟨context, answered, awaited, named⟩
  cases outcome with
  | unserved empty waits unnamed =>
    have ungranted : ¬Grantable text store now run := by
      rw [grantable_iff, empty]
      simp
    apply iff_of_true
    · apply agrees_of (iff_of_false waits ungranted)
      intro blocking named
      rw [unnamed] at named
      cases named
    · rintro ⟨device, online, -⟩
      rw [empty] at online
      cases online
  | busy blocker device full mem online same active named =>
    obtain ⟨waits, names⟩ := busy_context_reason active
    have ungranted := not_grantable_full full
    apply iff_of_true
    · rw [← named] at waits names
      apply agrees_of (iff_of_false waits ungranted)
      intro blocking blocked
      rw [names] at blocked
      cases blocked
      exact ⟨ungranted, blocker_enforced facts mem
        (Or.inr ⟨active, device, online, same, full device online⟩)⟩
    · rintro ⟨other, otherOnline, slot⟩
      rw [full other otherOnline] at slot
      cases slot
  | shared blocker mem collides named =>
    obtain ⟨waits, names⟩ := scope_context_reason blocker.run
    have online := (blocker_collides facts).mp ⟨blocker, mem, collides⟩
    have ungranted : ¬Grantable text store now run := not_grantable_collides facts online
    apply iff_of_true
    · rw [← named] at waits names
      apply agrees_of (iff_of_false waits ungranted)
      intro blocking blocked
      rw [names] at blocked
      cases blocked
      exact ⟨ungranted, blocker_enforced facts mem (Or.inl collides)⟩
    · intro _ alone
      rw [online] at alone
      cases alone
  | awaiting device online slot alone awaits unnamed =>
    constructor
    · rintro ⟨other, otherAnswered, awaited, -⟩ _ _
      rw [answered] at otherAnswered
      cases otherAnswered
      exact grantable_iff.mp (awaited.mp awaits)
    · intro complete
      have granted := grantable_iff.mpr (complete ⟨device, online, slot⟩ alone)
      apply agrees_of (iff_of_true awaits granted)
      intro blocking blocked
      rw [unnamed] at blocked
      cases blocked

end

/-- In every state of the gateway the diagnosis of a queued Run agrees with admission
exactly when it sees everything that admission checks. -/
theorem queue_context_agreement [DecidableEq Hash] (host : Host Hash) (credentials : Credentials)
    {gateway : Gateway Hash}
    (reachable : (gatewayMachine host credentials).Reachable Anything gateway) {run : Run}
    (mem : run ∈ gateway.directory.store.runs) (queued : run.status = .queued) (now : Time) :
    QueueAgrees host.toPyText gateway.directory.store now run ↔
      DiagnosisComplete host.toPyText gateway.directory.store now run := by
  have owned := (gateway_owned reachable).directory
  have keyed := (gateway_inv reachable).leases.keyed
  exact queue_agrees_iff ⟨keyed, owned.unique, owned.leases, mem, queued⟩

def narrowGateway : Gateway Envelope :=
  emptyGateway.serveAll (signIn (.obj [("max_resident_runs", .int 1)]))

def projectDraft (runId projectId : String) : RunDraft :=
  { plainDraft runId with projectId := some projectId }

def residentQueue : List (Gateway.Action Envelope) :=
  let principal := narrowGateway.admitted.headD laptop
  [⟨4, .call (.createRun (projectDraft "first" "alpha"))⟩,
    ⟨5, .call (.leaseRun principal 60 "lease")⟩,
    ⟨6, .call (.submitEvents principal "first" "lease" 1
      [plainEvent laptop "first" 1 1 "question" "run.waiting_user" (.obj [])])⟩,
    ⟨7, .call (.createRun (projectDraft "second" "beta"))⟩]

theorem narrow_gateway_reachable (count : Nat) : plainGateway.Reachable Anything
    (narrowGateway.serveAll (residentQueue.take count)) := by
  have signedIn : plainGateway.Reachable Anything narrowGateway :=
    sign_in_path _ fun _ _ _ => trivial
  apply reachable_path signedIn
  have admitted : narrowGateway.admitted.headD laptop ∈ narrowGateway.admitted := by
    have nonempty : narrowGateway.admitted.isEmpty = false := by decide +kernel
    cases same : narrowGateway.admitted with
    | nil =>
      rw [same] at nonempty
      cases nonempty
    | cons first rest => exact mem_cons_self
  apply gateway_serve_all_path fun _ _ _ => trivial
  · have ordered : (narrowGateway.now :: residentQueue.map Gateway.Action.now).Pairwise
        (· ≤ ·) := by decide +kernel
    exact ordered.sublist (((take_sublist count _).map _).cons_cons _)
  · intro action mem principal named
    have listed := mem_of_mem_take mem
    simp only [residentQueue, mem_cons, not_mem_nil, or_false] at listed
    rcases listed with rfl | rfl | rfl | rfl <;> cases named <;> exact admitted

theorem resident_room_overlooked :
    plainGateway.Reachable Anything (narrowGateway.serveAll (residentQueue.take 4)) ∧
    ∃ run ∈ (narrowGateway.serveAll (residentQueue.take 4)).directory.store.runs,
      run.status = .queued ∧
      ¬QueueAgrees plainHost.toPyText
        (narrowGateway.serveAll (residentQueue.take 4)).directory.store 8 run := by
  have reachable := narrow_gateway_reachable 4
  refine ⟨reachable, ?_⟩
  have found : ∃ run ∈ (narrowGateway.serveAll (residentQueue.take 4)).directory.store.runs,
      run.status = .queued ∧ ¬DiagnosisComplete plainHost.toPyText
        (narrowGateway.serveAll (residentQueue.take 4)).directory.store 8 run := by
    unfold DiagnosisComplete
    decide +kernel
  obtain ⟨run, mem, queued, incomplete⟩ := found
  have owned := (gateway_owned reachable).directory
  have keyed := (gateway_inv reachable).leases.keyed
  refine ⟨run, mem, queued, fun agrees => incomplete ?_⟩
  exact (queue_agrees_iff ⟨keyed, owned.unique, owned.leases, mem, queued⟩).mp agrees

theorem single_run_diagnosed :
    ∃ run ∈ (narrowGateway.serveAll (residentQueue.take 1)).directory.store.runs,
      QueueAgrees plainHost.toPyText
        (narrowGateway.serveAll (residentQueue.take 1)).directory.store 5 run := by
  have found : ∃ run ∈ (narrowGateway.serveAll (residentQueue.take 1)).directory.store.runs,
      run.status = .queued ∧ DiagnosisComplete plainHost.toPyText
        (narrowGateway.serveAll (residentQueue.take 1)).directory.store 5 run := by
    unfold DiagnosisComplete
    decide +kernel
  obtain ⟨run, mem, queued, complete⟩ := found
  refine ⟨run, mem, ?_⟩
  exact (queue_context_agreement plainHost plainCredentials (narrow_gateway_reachable 1) mem
    queued 5).mpr complete

end AgentMate
