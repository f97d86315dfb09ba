import AgentMate.QueueContext

/-! # Runs that wait behind Runs of other devices -/

namespace AgentMate

variable {Hash : Type}

def queuedRuns (store : Store Hash) (ownerId : String) : List Run :=
  (store.runs.filter fun run => run.ownerId = ownerId && run.deletedAt = 0 &&
    run.status.isClaimable).insertionSort Run.CreatedBefore

/-- `LIMIT 100`. -/
theorem claimable_runs_take (store : Store Hash) (ownerId : String) :
    claimableRuns store ownerId = (queuedRuns store ownerId).take 100 := rfl

theorem mem_queued_runs {store : Store Hash} {ownerId : String} {run : Run} :
    run ∈ queuedRuns store ownerId ↔ run ∈ store.runs ∧ run.ownerId = ownerId ∧
      run.deletedAt = 0 ∧ run.status.isClaimable = true := by
  simp [queuedRuns, List.mem_insertionSort, and_assoc]

def firstAdmitted (store : Store Hash) (principal : DevicePrincipal) (now : Time) : Nat :=
  (queuedRuns store principal.ownerId).findIdx (leaseAdmits store principal now)

section

variable {Item : Type} {items : List Item} {chosen : Item → Bool} {item : Item}

theorem find_take_none (mem : item ∈ items) (choice : chosen item = true) (count : Nat) :
    (items.take count).find? chosen = none ↔ count ≤ items.findIdx chosen := by
  induction items generalizing count with
  | nil => cases mem
  | cons first rest ih =>
    cases count with
    | zero => simp
    | succ count =>
      rw [List.take_succ_cons, List.find?_cons, List.findIdx_cons]
      cases own : chosen first with
      | true => simp
      | false =>
        have later : item ∈ rest := by
          rcases List.mem_cons.mp mem with rfl | later
          · rw [own] at choice
            cases choice
          · exact later
        simp only [cond_false, Nat.add_le_add_iff_right]
        exact ih later count

end

variable {text : PyText} {store expired finish : Store Hash} {principal : DevicePrincipal}
  {leaseSeconds : Int} {leaseId : String} {now : Time}

def HasCapacity (text : PyText) (store : Store Hash) (principal : DevicePrincipal) (now : Time) :
    Prop :=
  hasSlot text store principal now = true ∧ hasRoom text store principal now = true

theorem candidate_of_capacity (capacity : HasCapacity text store principal now) :
    leaseCandidate text store principal now =
      ((queuedRuns store principal.ownerId).take 100).find? (leaseAdmits store principal now) := by
  rw [lease_candidate_find, claimable_runs_take]
  congr 1
  funext run
  rw [claimAdmits, capacity.1, capacity.2]
  rfl

theorem lease_run_none (released : expireLeases text store (some principal.ownerId) now =
    .ok expired) :
    leaseRun text store principal leaseSeconds leaseId now = .ok (finish, none) ↔
      finish = expired ∧ leaseCandidate text expired principal now = none := by
  constructor
  · intro done
    obtain ⟨same, expiring, rest⟩ := Rollback.bind_ok done
    cases released.symm.trans expiring
    cases selected : leaseCandidate text expired principal now with
    | none =>
      rw [selected] at rest
      exact ⟨(Prod.mk.inj (Except.ok.inj rest)).1.symm, rfl⟩
    | some run =>
      rw [selected] at rest
      obtain ⟨granted, -, rest⟩ := Rollback.bind_ok rest
      split at rest
      · cases rest
      · cases (Prod.mk.inj (Except.ok.inj rest)).2
  · rintro ⟨rfl, absent⟩
    rw [leaseRun, released]
    simp only [bind, Except.bind, absent]
    rfl

def AllRefused (store : Store Hash) (principal : DevicePrincipal) (now : Time) : Prop :=
  ∀ run ∈ store.runs, run.ownerId = principal.ownerId → run.deletedAt = 0 →
    run.status.isClaimable = true → leaseAdmits store principal now run = false

/-- A device with free capacity goes away empty only where all Runs are refused to it, exactly
when fewer than a hundred claimable Runs come before the first that it may take. -/
theorem claim_finds_admitted (text : PyText) (store expired : Store Hash)
    (principal : DevicePrincipal) (leaseSeconds : Int) (leaseId : String) (now : Time)
    (released : expireLeases text store (some principal.ownerId) now = .ok expired)
    (capacity : HasCapacity text expired principal now) :
    (∀ finish, leaseRun text store principal leaseSeconds leaseId now = .ok (finish, none) →
      AllRefused finish principal now) ↔
    (AllRefused expired principal now ∨ firstAdmitted expired principal now < 100) := by
  have candidate := candidate_of_capacity capacity
  constructor
  · intro finds
    by_contra missed
    obtain ⟨waiting, late⟩ := not_or.mp missed
    obtain ⟨run, mem, owner, kept, claimable, admitted⟩ : ∃ run ∈ expired.runs,
        run.ownerId = principal.ownerId ∧ run.deletedAt = 0 ∧ run.status.isClaimable = true ∧
          leaseAdmits expired principal now run = true := by
      simpa [AllRefused] using waiting
    have queued := mem_queued_runs.mpr ⟨mem, owner, kept, claimable⟩
    have nothing := (find_take_none queued admitted 100).mpr (not_lt.mp late)
    exact waiting (finds expired ((lease_run_none released).mpr ⟨rfl, candidate.trans nothing⟩))
  · intro reached finish done run mem owner kept claimable
    obtain ⟨rfl, absent⟩ := (lease_run_none released).mp done
    rcases reached with refused | early
    · exact refused run mem owner kept claimable
    · by_contra admitted
      have queued := mem_queued_runs.mpr ⟨mem, owner, kept, claimable⟩
      have nothing := candidate.symm.trans absent
      have late := (find_take_none queued (Bool.eq_true_of_not_eq_false admitted) 100).mp nothing
      exact absurd early (not_lt.mpr late)

def otherDeviceRun (index : Nat) : Run :=
  { id := "blocked-" ++ toString index, sessionId := "session", ownerId := "owner"
    projectId := none, workItemId := none, mode := .exec, workspace := "default"
    targetDeviceId := "device-desktop", requiredCapabilities := [], requestSnapshot := .obj []
    maxRecoveries := 3, createdAt := index, deletedAt := 0, status := .queued, leaseEpoch := 0
    recoveryCount := 0, cancelVersion := 0, cancelRequestedAt := 0
    report := ⟨.obj [], none, none, "", "", 0, 0, 0, 1⟩ }

def lastRun : Run := { otherDeviceRun 100 with id := "run-1", targetDeviceId := "" }

def queueBehind (count : Nat) : Store Envelope :=
  ⟨(List.range count).map otherDeviceRun ++ [lastRun], [], [], [], [], [],
    ⟨[⟨"session", .running, 0, 1⟩], [], [], [], [], []⟩⟩

theorem short_queue_claimed : HasCapacity plainHost.toPyText (queueBehind 2) laptop 200 ∧
    ¬ ∃ finish, leaseRun plainHost.toPyText (queueBehind 2) laptop 30 "lease-1" 200 =
      .ok (finish, none) ∧ ¬ AllRefused finish laptop 200 := by
  have capacity : HasCapacity plainHost.toPyText (queueBehind 2) laptop 200 :=
    ⟨by decide +kernel, by decide +kernel⟩
  refine ⟨capacity, ?_⟩
  rintro ⟨finish, done, waiting⟩
  exact waiting ((claim_finds_admitted plainHost.toPyText (queueBehind 2) (queueBehind 2) laptop 30
    "lease-1" 200 rfl capacity).mpr (.inr (by decide +kernel)) finish done)

theorem long_queue_starves : HasCapacity plainHost.toPyText (queueBehind 100) laptop 200 ∧
    (∃ finish, leaseRun plainHost.toPyText (queueBehind 100) laptop 30 "lease-1" 200 =
      .ok (finish, none)) ∧ ¬ AllRefused (queueBehind 100) laptop 200 := by
  refine ⟨⟨by decide +kernel, by decide +kernel⟩, ⟨queueBehind 100, ?_⟩, ?_⟩
  · have released : expireLeases plainHost.toPyText (queueBehind 100) (some laptop.ownerId) 200 =
        .ok (queueBehind 100) := rfl
    have absent : (leaseCandidate plainHost.toPyText (queueBehind 100) laptop 200).isNone := by
      decide +kernel
    exact (lease_run_none released).mpr ⟨rfl, Option.isNone_iff_eq_none.mp absent⟩
  · intro refused
    have admitted : leaseAdmits (queueBehind 100) laptop 200 lastRun = true := by decide +kernel
    have mem : lastRun ∈ (queueBehind 100).runs := List.mem_append_right _ List.mem_cons_self
    have waits := refused lastRun mem rfl rfl rfl
    rw [admitted] at waits
    cases waits

end AgentMate
