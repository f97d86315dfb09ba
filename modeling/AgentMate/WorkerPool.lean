import AgentMate.Dict
import AgentMate.ExecutionSlot

/-!
# The pool of claimed Runs

`run_forever` reserves capacity before it claims a Run, files the Run's task under
`_active_runs` and reaps the tasks that are done. The tasks and their control coroutines
give capacity back and reserve it again through the entry they find under their `run_id`.
All of them run in one event loop: a step is what runs between two awaits.
-/

namespace AgentMate

open TransitionSystem

structure PoolSettings where
  maxConcurrency : Nat
  perOwnerConcurrency : Nat
  maxResident : Nat

/-- `_capacity_used` and `_capacity_by_owner`. -/
structure Capacity where
  used : Int
  byOwner : AList fun _ : String => Int

/-- `_ActiveRun`, with the number of its task. -/
structure ActiveRun where
  task : Nat
  ownerId : String
  slotHeld : Bool

/-- A task of `_execute_claimed`: whether it is done and whether its control coroutine
is alive. -/
structure PoolTask where
  runId : String
  ended : Bool
  controlled : Bool

/-- Where `run_forever` awaits: in `claim_run` with a reservation, anywhere else in its
loop, in the `gather` of its `finally`, or nowhere any more. -/
inductive Supervisor where
  | polling
  | claiming (ownerId : String)
  | stopping
  | stopped

structure Pool where
  capacity : Capacity
  activeRuns : AList fun _ : String => ActiveRun
  tasks : List PoolTask
  supervisor : Supervisor

/-- `_capacity_by_owner.get(owner_id, 0)`. -/
def Capacity.ownerUsed (capacity : Capacity) (ownerId : String) : Int :=
  (capacity.byOwner.lookup ownerId).getD 0

/-- `_reserve_capacity`: `none` when it returns `False`. -/
def Capacity.reserve (settings : PoolSettings) (capacity : Capacity) (ownerId : String) :
    Option Capacity :=
  if capacity.used ≥ settings.maxConcurrency ∨
      capacity.ownerUsed ownerId ≥ settings.perOwnerConcurrency then none
  else some
    { used := capacity.used + 1
      byOwner := capacity.byOwner.insert ownerId (capacity.ownerUsed ownerId + 1) }

/-- `_release_capacity`. -/
def Capacity.release (capacity : Capacity) (ownerId : String) : Capacity :=
  let ownerUsed := capacity.ownerUsed ownerId
  if ownerUsed ≤ 0 then capacity
  else
    { used := max 0 (capacity.used - 1)
      byOwner :=
        if ownerUsed = 1 then capacity.byOwner.erase ownerId
        else capacity.byOwner.insert ownerId (ownerUsed - 1) }

def Pool.releaseRunSlot (pool : Pool) (runId : String) : Pool :=
  match pool.activeRuns.lookup runId with
  | none => pool
  | some active =>
    if active.slotHeld then
      { pool with
        activeRuns := pool.activeRuns.insert runId { active with slotHeld := false }
        capacity := pool.capacity.release active.ownerId }
    else pool

/-- `_try_reacquire_run_slot`: `none` when it returns `False`. The entry cannot
disappear between its two guarded blocks. -/
def Pool.tryReacquireRunSlot (settings : PoolSettings) (pool : Pool) (runId : String) :
    Option Pool :=
  match pool.activeRuns.lookup runId with
  | none => some pool
  | some active =>
    if active.slotHeld then some pool
    else match pool.capacity.reserve settings active.ownerId with
      | none => none
      | some capacity => some { pool with
          activeRuns := pool.activeRuns.insert runId { active with slotHeld := true }
          capacity := capacity }

/-- `item.task.done()`. -/
def Pool.taskDone (pool : Pool) (active : ActiveRun) : Bool :=
  pool.tasks[active.task]?.any PoolTask.ended

/-- The completed tasks leave `_active_runs`. -/
def Pool.reap (pool : Pool) : Pool :=
  let completed := (pool.activeRuns.entries.filter fun entry => pool.taskDone entry.2).map Sigma.fst
  { pool with activeRuns := completed.foldl (fun active runId => active.erase runId) pool.activeRuns }

def Pool.createTask (pool : Pool) (runId : String) : Pool :=
  { pool with tasks := pool.tasks ++ [⟨runId, false, false⟩] }

/-- An entry of `_active_runs` for the newest task. -/
def Pool.file (pool : Pool) (runId ownerId : String) : Pool :=
  { pool with
    activeRuns := pool.activeRuns.insert runId ⟨pool.tasks.length - 1, ownerId, true⟩ }

def Pool.abandonClaim (pool : Pool) (ownerId : String) : Pool :=
  { pool with capacity := pool.capacity.release ownerId, supervisor := .polling }

def Pool.setTask (pool : Pool) (index : Nat) (task : PoolTask) : Pool :=
  { pool with tasks := pool.tasks.set index task }

inductive PoolAction where
  | reap
  | reserve (ownerId : String)
  -- `claim_run` raised, or returned nothing or a Run without an id
  | noRun
  | claimed (runId : String)
  -- the entry could not be built after the task was created
  | unfiled (runId : String)
  | stop
  | clear
  -- the control coroutine starts or ends
  | control (task : Nat)
  | leaveControl (task : Nat)
  -- after a question or a confirmed pause
  | release (task : Nat)
  -- before an answer or a resume
  | reacquire (task : Nat)
  -- a failed preparation leaves the control coroutine alive
  | finish (task : Nat) (prepared : Bool)

def Pool.step (settings : PoolSettings) (pool : Pool) : PoolAction → Option Pool
  | .reap =>
    match pool.supervisor with
    | .polling => some pool.reap
    | _ => none
  | .reserve ownerId =>
    match pool.supervisor with
    | .polling =>
      if pool.activeRuns.entries.length ≥ settings.maxResident then none
      else (pool.capacity.reserve settings ownerId).map fun capacity =>
        { pool with capacity := capacity, supervisor := .claiming ownerId }
    | _ => none
  | .noRun =>
    match pool.supervisor with
    | .claiming ownerId => some (pool.abandonClaim ownerId)
    | _ => none
  | .claimed runId =>
    match pool.supervisor with
    | .claiming ownerId =>
      if runId = "" then none
      else some { (pool.createTask runId).file runId ownerId with supervisor := .polling }
    | _ => none
  | .unfiled runId =>
    match pool.supervisor with
    | .claiming ownerId =>
      if runId = "" then none else some ((pool.createTask runId).abandonClaim ownerId)
    | _ => none
  | .stop =>
    match pool.supervisor with
    | .polling => some { pool with supervisor := .stopping }
    | .claiming ownerId => some { pool.abandonClaim ownerId with supervisor := .stopping }
    | _ => none
  | .clear =>
    match pool.supervisor with
    | .stopping =>
      if pool.activeRuns.entries.all fun entry => pool.taskDone entry.2 then
        some { pool with capacity := ⟨0, ∅⟩, activeRuns := ∅, supervisor := .stopped }
      else none
    | _ => none
  | .control index =>
    match pool.tasks[index]? with
    | some task =>
      if task.ended || task.controlled then none
      else some (pool.setTask index { task with controlled := true })
    | none => none
  | .leaveControl index =>
    match pool.tasks[index]? with
    | some task =>
      if task.controlled then some (pool.setTask index { task with controlled := false })
      else none
    | none => none
  | .release index =>
    match pool.tasks[index]? with
    | some task => if task.ended then none else some (pool.releaseRunSlot task.runId)
    | none => none
  | .reacquire index =>
    match pool.tasks[index]? with
    | some task =>
      if task.controlled then pool.tryReacquireRunSlot settings task.runId else none
    | none => none
  | .finish index prepared =>
    match pool.tasks[index]? with
    | some task =>
      if task.ended then none
      else some ((pool.setTask index
        { task with ended := true, controlled := task.controlled && !prepared }).releaseRunSlot
          task.runId)
    | none => none

def Pool.start : Pool := ⟨⟨0, ∅⟩, ∅, [], .polling⟩

def poolMachine (settings : PoolSettings) : Machine Pool PoolAction where
  Initial pool := pool = Pool.start
  Step pool action next := pool.step settings action = some next

end AgentMate
