import AgentMate.BackgroundJobs

/-!
# The failure callbacks of the background workers

`background_worker` over the store of jobs. `finish_failure` reads the job a second time after its
UPDATE, and `recover_expired` reads the jobs again after its commit; the worker decides on a
callback from the row that it gets. A worker takes no other step between the first read and the
decision, every other process may.
-/

namespace AgentMate.JobCallbacks

open TransitionSystem Table List Option

/-- Who decides on the callback: `_run_claimed`, with `spec.failed is not None` and the force of
its `finish_failure`, or `scan_once`. -/
inductive FailureCaller where
  | run (listens forced : Bool)
  | scan
  deriving DecidableEq

def FailureCaller.scans : FailureCaller → Bool
  | .run .. => false
  | .scan => true

/-- `if failed:` after a `TerminalJobError`, `failed["status"] == "failed"` elsewhere; a kind
without a handler has no callback. -/
def FailureCaller.callsBack (listensTo : String → Bool) (job : BackgroundJob) : FailureCaller → Bool
  | .run listens forced => listens && (forced || decide (job.status = .failed))
  | .scan => decide (job.status = .failed) && listensTo job.kind

/-- A job that is read again after its UPDATE. `final` is the decision of the UPDATE, `committed`
tells whether the UPDATE found the job; the code keeps neither. -/
structure Reread where
  worker : String
  jobId : String
  caller : FailureCaller
  final : Bool
  committed : Bool
  deriving DecidableEq

/-- A job in `_tasks` of a worker. -/
structure RunTask where
  worker : String
  jobId : String
  deriving DecidableEq

structure Callback where
  worker : String
  job : BackgroundJob
  byScan : Bool

/-- A committed transition to `succeeded` or `failed`. -/
structure Finish where
  worker : String
  jobId : String
  byScan : Bool
  failed : Bool
  deriving DecidableEq

structure WorkerSystem where
  store : JobSystem
  tasks : List RunTask
  rereads : List Reread
  finishes : List Finish
  callbacks : List Callback

/-- What the handler raised is free: `raised` carries the arguments of `finish_failure`. -/
inductive WorkerAction where
  | enqueue (jobId : String) (now : Time) (request : JobRequest)
  | cancel (jobId : String) (now : Time)
  | claim (jobId worker : String) (now leaseSeconds : Time)
  | heartbeat (jobId worker : String) (now leaseSeconds : Time)
  | returned (jobId worker : String) (now : Time)
  | stopped (jobId worker reason : String) (now : Time)
  | raised (worker : String) (failure : JobFailure)
  | update (worker : String) (now : Time)
  | recover (worker : String) (now : Time)
  | reread (worker : String)
  | stopProcess (worker : String)

/-- `terminal` of `finish_failure`. -/
def isFinal (ticket : FailureTicket) : Bool :=
  ticket.failure.forceTerminal || decide (ticket.job.maxAttempts ≤ ticket.job.attempt)

def isExhausted (now : Time) (job : BackgroundJob) : Bool :=
  decide (job.Expired now) && decide (job.maxAttempts ≤ job.attempt)

section

variable (strip : String → String) (listensTo : String → Bool) (state : WorkerSystem)

def WorkerSystem.Idle (worker : String) : Prop :=
  ∀ entry ∈ state.rereads, entry.worker ≠ worker

instance (worker : String) : Decidable (state.Idle worker) :=
  inferInstanceAs (Decidable (∀ entry ∈ state.rereads, entry.worker ≠ worker))

def WorkerSystem.runs (worker jobId : String) : Bool := decide (⟨worker, jobId⟩ ∈ state.tasks)

def WorkerSystem.holds (worker jobId : String) : Bool :=
  state.store.jobs.any fun job => decide (job.HeldBy worker jobId)

def WorkerSystem.move (action : JobAction) : Option WorkerSystem :=
  (state.store.step strip action).map fun store => { state with store := store }

def WorkerSystem.commit (finish : Finish) (found : Bool) : WorkerSystem :=
  { state with finishes := (if found then [finish] else []) ++ state.finishes }

def WorkerSystem.endTask (worker jobId : String) : WorkerSystem :=
  { state with tasks := state.tasks.erase ⟨worker, jobId⟩ }

def WorkerSystem.answer (worker : String) (caller : FailureCaller) (row : Option BackgroundJob) :
    WorkerSystem :=
  match row.filter fun job => caller.callsBack listensTo job with
  | some job => { state with callbacks := ⟨worker, job, caller.scans⟩ :: state.callbacks }
  | none => state

def WorkerSystem.readAgain (worker : String) : Option Reread :=
  state.rereads.find? fun entry => entry.worker = worker

def WorkerSystem.ticketOf (worker : String) : Option FailureTicket :=
  state.store.failing.find? fun ticket => ticket.worker = worker

/-- The entries that `recover_expired` reads again. -/
def recoveredEntries (worker : String) (now : Time) (jobs : List BackgroundJob) : List Reread :=
  (jobs.filter fun job => decide (job.Expired now)).map fun job =>
    ⟨worker, job.id, .scan, isExhausted now job, isExhausted now job⟩

def recoveredFinishes (worker : String) (now : Time) (jobs : List BackgroundJob) : List Finish :=
  (jobs.filter (isExhausted now)).map fun job => ⟨worker, job.id, true, true⟩

def WorkerSystem.step : WorkerAction → Option WorkerSystem
  | .enqueue jobId now request => state.move strip (.enqueue jobId now request)
  | .cancel jobId now => state.move strip (.cancel jobId now)
  | .claim jobId worker now leaseSeconds =>
    if state.Idle worker ∧ state.runs worker jobId = false then
      (state.move strip (.claim jobId worker now leaseSeconds)).map fun next =>
        if state.store.jobs.any fun job => decide (job.Claimable jobId now) then
          { next with tasks := ⟨worker, jobId⟩ :: state.tasks }
        else next
    else none
  | .heartbeat jobId worker now leaseSeconds =>
    if state.Idle worker then
      state.move strip (.heartbeat jobId worker now leaseSeconds)
    else none
  | .returned jobId worker now =>
    if state.Idle worker ∧ state.runs worker jobId = true then
      (state.move strip (.finishSuccess jobId worker now)).map fun next =>
        (next.commit ⟨worker, jobId, false, false⟩ (state.holds worker jobId)).endTask worker jobId
    else none
  | .stopped jobId worker reason now =>
    if state.Idle worker ∧ state.runs worker jobId = true then
      (state.move strip (.release jobId worker reason now)).map fun next =>
        next.endTask worker jobId
    else none
  | .raised worker failure =>
    if state.Idle worker ∧ state.runs worker failure.jobId = true then
      (state.move strip (.readFailure worker failure)).map fun next =>
        if (readFailure state.store.jobs worker failure).isSome then next
        else
          let row := getJob state.store.jobs failure.jobId
          (next.answer listensTo worker
            (.run (row.any fun job => listensTo job.kind) failure.forceTerminal) row).endTask
            worker failure.jobId
    else none
  | .update worker now =>
    (state.ticketOf worker).bind fun ticket =>
      (state.move strip (.writeFailure worker now)).map fun next =>
        let committed := (isFinal ticket) && state.holds worker ticket.failure.jobId
        let entry : Reread :=
          { worker := worker, jobId := ticket.failure.jobId
            caller := .run (listensTo ticket.job.kind) ticket.failure.forceTerminal
            final := (isFinal ticket), committed := committed }
        ({ next with rereads := state.rereads ++ [entry] }.commit
          ⟨worker, ticket.failure.jobId, false, true⟩ committed).endTask
          worker ticket.failure.jobId
  | .recover worker now =>
    if state.Idle worker ∧ state.store.Free worker then
      (state.move strip (.recoverExpired now)).map fun next =>
        { next with
          rereads := state.rereads ++ recoveredEntries worker now state.store.jobs
          finishes := recoveredFinishes worker now state.store.jobs ++ state.finishes }
    else none
  | .reread worker =>
    (state.readAgain worker).map fun entry =>
      { state with rereads := state.rereads.erase entry }.answer listensTo worker entry.caller
        (getJob state.store.jobs entry.jobId)
  | .stopProcess worker =>
    (state.move strip (.stopProcess worker)).map fun next =>
      { next with
        tasks := state.tasks.filter fun task => task.worker ≠ worker
        rereads := state.rereads.filter fun entry => entry.worker ≠ worker }

/-- The failure is handled while the worker still has the job, or lets no callback through: at
the first read, at the UPDATE of a final failure, and at the read after an UPDATE that was not
final. -/
def LeaseKept : WorkerAction → Prop
  | .raised worker failure => ∀ job, getJob state.store.jobs failure.jobId = some job →
      listensTo job.kind = true → failure.forceTerminal = true ∨ job.status = .failed →
        job.HeldBy worker failure.jobId
  | .update worker _ => ∀ ticket, state.ticketOf worker = some ticket →
      listensTo ticket.job.kind = true → (isFinal ticket) = true →
        ∃ job ∈ state.store.jobs, job.HeldBy worker ticket.failure.jobId ∨
          (ticket.failure.forceTerminal = false ∧ job.id = ticket.failure.jobId ∧
            job.status = .cancelled)
  | .reread worker => ∀ entry, state.readAgain worker = some entry → entry.final = false →
      ∀ job, getJob state.store.jobs entry.jobId = some job →
        entry.caller.callsBack listensTo job = false
  | _ => True

instance : ∀ action, Decidable (LeaseKept listensTo state action)
  | .raised worker failure => inferInstanceAs (Decidable (∀ job ∈ getJob _ _,
      listensTo job.kind = true → failure.forceTerminal = true ∨ job.status = .failed →
        job.HeldBy worker failure.jobId))
  | .update worker _ => inferInstanceAs (Decidable (∀ ticket ∈ state.ticketOf worker,
      listensTo ticket.job.kind = true → isFinal ticket = true → ∃ job ∈ state.store.jobs, _))
  | .reread worker => inferInstanceAs (Decidable (∀ entry ∈ state.readAgain worker,
      entry.final = false → ∀ job ∈ getJob _ _, entry.caller.callsBack listensTo job = false))
  | .enqueue .. | .cancel .. | .claim .. | .heartbeat .. | .returned .. | .stopped ..
  | .recover .. | .stopProcess .. => .isTrue trivial

end

def workerMachine (strip : String → String) (listensTo : String → Bool) :
    Machine WorkerSystem WorkerAction where
  Initial state := (jobMachine strip).Initial state.store ∧ state.tasks = [] ∧
    state.rereads = [] ∧ state.finishes = [] ∧ state.callbacks = []
  Step state action next := state.step strip listensTo action = some next

def Finish.Recorded (jobs : List BackgroundJob) (finish : Finish) : Prop :=
  ∃ job ∈ jobs, job.id = finish.jobId ∧ job.status = if finish.failed then .failed else .succeeded

def Reread.finish (entry : Reread) : Finish :=
  ⟨entry.worker, entry.jobId, entry.caller.scans, true⟩

/-- A final UPDATE that missed its job leads to no callback. -/
def Reread.Silent (jobs : List BackgroundJob) (entry : Reread) : Prop :=
  ∃ listens forced, entry.caller = .run listens forced ∧ (listens = false ∨
      (forced = false ∧ ∃ job ∈ jobs, job.id = entry.jobId ∧ job.status = .cancelled))

structure CallbackInv (state : WorkerSystem) : Prop where
  store : JobInv state.store
  finished : ∀ finish ∈ state.finishes, finish.Recorded state.store.jobs
  once : (state.finishes.map Finish.jobId).Nodup
  pending : ∀ entry ∈ state.rereads, entry.committed = true → entry.finish ∈ state.finishes
  silent : ∀ entry ∈ state.rereads, entry.committed = false → entry.final = true →
    entry.Silent state.store.jobs
  called : ∀ callback ∈ state.callbacks,
    ⟨callback.worker, callback.job.id, callback.byScan, true⟩ ∈ state.finishes ∧
      callback.job ∈ state.store.jobs
  distinct : (state.callbacks.map (fun callback => callback.job.id) ++
    (state.rereads.filter Reread.committed).map Reread.jobId).Nodup

section

variable {strip : String → String} {listensTo : String → Bool} {state next : WorkerSystem}

variable {job : BackgroundJob}

theorem recorded_terminal {finish : Finish}
    (status : job.status = if finish.failed then .failed else .succeeded) :
    job.status.isTerminal = true := by
  rw [status]
  split <;> rfl

theorem running_fresh (inv : CallbackInv state) {job : BackgroundJob}
    (mem : job ∈ state.store.jobs) (running : job.status = .running) :
    ∀ finish ∈ state.finishes, finish.jobId ≠ job.id := by
  intro finish listed same
  obtain ⟨done, doneMem, key, status⟩ := inv.finished finish listed
  have one := unique_key_eq inv.store.keys doneMem mem (key.trans same)
  have final := recorded_terminal status
  rw [one, running] at final
  cases final

variable {worker : String}

theorem holds_job {jobId : String} (held : state.holds worker jobId = true) :
    ∃ job ∈ state.store.jobs, job.HeldBy worker jobId := by
  obtain ⟨job, mem, chosen⟩ := List.any_eq_true.mp held
  exact ⟨job, mem, of_decide_eq_true chosen⟩

theorem inv_moved {action : JobAction} {store : JobSystem} (inv : CallbackInv state)
    (step : state.store.step strip action = some store) :
    CallbackInv { state with store := store } := by
  constructor
  · exact job_step_inv inv.store step
  · intro finish listed
    obtain ⟨job, mem, key, status⟩ := inv.finished finish listed
    have final := recorded_terminal status
    exact ⟨job, job_step_terminal inv.store step mem final, key, status⟩
  · exact inv.once
  · exact inv.pending
  · intro entry listed missed decided
    obtain ⟨listens, forced, caller, deaf | ⟨mild, job, mem, key, cancelled⟩⟩ :=
      inv.silent entry listed missed decided
    · exact ⟨listens, forced, caller, .inl deaf⟩
    · have final : job.status.isTerminal = true := by
        rw [cancelled]
        rfl
      have stays := job_step_terminal inv.store step mem final
      exact ⟨listens, forced, caller, .inr ⟨mild, job, stays, key, cancelled⟩⟩
  · intro callback listed
    obtain ⟨committed, mem⟩ := inv.called callback listed
    obtain ⟨job, jobMem, key, status⟩ := inv.finished _ committed
    have one := unique_key_eq inv.store.keys jobMem mem key
    have final : callback.job.status.isTerminal = true := by
      rw [← one, status]
      rfl
    exact ⟨committed, job_step_terminal inv.store step mem final⟩
  · exact inv.distinct

theorem inv_tasks (inv : CallbackInv state) (tasks : List RunTask) :
    CallbackInv { state with tasks := tasks } :=
  ⟨inv.store, inv.finished, inv.once, inv.pending, inv.silent, inv.called, inv.distinct⟩

theorem inv_log (inv : CallbackInv state) {entries : List Reread} {more : List Finish}
    (recorded : ∀ finish ∈ more, finish.Recorded state.store.jobs)
    (fresh : ∀ finish ∈ more, ∀ old ∈ state.finishes, old.jobId ≠ finish.jobId)
    (different : (more.map Finish.jobId).Nodup)
    (committed : List.Sublist ((entries.filter Reread.committed).map Reread.finish) more)
    (silent : ∀ entry ∈ entries, entry.committed = false → entry.final = true →
      entry.Silent state.store.jobs) :
    CallbackInv
      { state with rereads := state.rereads ++ entries, finishes := more ++ state.finishes } := by
  have owed : ∀ entry ∈ entries, entry.committed = true → entry.finish ∈ more := by
    intro entry listed kept
    exact committed.subset (List.mem_map_of_mem (mem_filter.mpr ⟨listed, kept⟩))
  constructor
  · exact inv.store
  · intro finish listed
    rcases mem_append.mp listed with new | old
    · exact recorded finish new
    · exact inv.finished finish old
  · show ((more ++ state.finishes).map Finish.jobId).Nodup
    rw [map_append]
    apply List.Nodup.append different inv.once
    intro jobId new old
    obtain ⟨finish, listed, rfl⟩ := List.mem_map.mp new
    obtain ⟨other, otherListed, same⟩ := List.mem_map.mp old
    exact fresh finish listed other otherListed same
  · intro entry listed kept
    rcases mem_append.mp listed with old | new
    · exact mem_append_right _ (inv.pending entry old kept)
    · exact mem_append_left _ (owed entry new kept)
  · intro entry listed missed decided
    rcases mem_append.mp listed with old | new
    · exact inv.silent entry old missed decided
    · exact silent entry new missed decided
  · intro callback listed
    obtain ⟨before, mem⟩ := inv.called callback listed
    exact ⟨mem_append_right _ before, mem⟩
  · show (state.callbacks.map (fun callback => callback.job.id) ++
      ((state.rereads ++ entries).filter Reread.committed).map Reread.jobId).Nodup
    have ids : ((entries.filter Reread.committed).map Reread.finish).map Finish.jobId =
        (entries.filter Reread.committed).map Reread.jobId := by
      rw [List.map_map]
      rfl
    rw [filter_append, map_append, ← append_assoc]
    apply List.Nodup.append inv.distinct
    · rw [← ids]
      exact List.Nodup.sublist (committed.map Finish.jobId) different
    · intro jobId old new
      obtain ⟨entry, entryListed, rfl⟩ := List.mem_map.mp new
      obtain ⟨entryMem, kept⟩ := mem_filter.mp entryListed
      have added := owed entry entryMem kept
      rcases mem_append.mp old with called | waiting
      · obtain ⟨callback, listed, same⟩ := List.mem_map.mp called
        exact fresh _ added _ (inv.called callback listed).1 same
      · obtain ⟨other, otherListed, same⟩ := List.mem_map.mp waiting
        obtain ⟨otherMem, otherKept⟩ := mem_filter.mp otherListed
        exact fresh _ added _ (inv.pending other otherMem otherKept) same

theorem inv_dropped (inv : CallbackInv state) {rereads : List Reread}
    (fewer : List.Sublist rereads state.rereads) :
    CallbackInv { state with rereads := rereads } := by
  constructor
  · exact inv.store
  · exact inv.finished
  · exact inv.once
  · intro entry listed
    exact inv.pending entry (fewer.subset listed)
  · intro entry listed
    exact inv.silent entry (fewer.subset listed)
  · exact inv.called
  · exact List.Nodup.sublist ((List.Sublist.refl _).append ((fewer.filter _).map _)) inv.distinct

theorem inv_called (inv : CallbackInv state) {entry : Reread}
    (listed : entry ∈ state.rereads) (committed : entry.committed = true)
    (found : getJob state.store.jobs entry.jobId = some job) :
    CallbackInv { state with
      rereads := state.rereads.erase entry
      callbacks := ⟨entry.worker, job, entry.caller.scans⟩ :: state.callbacks } := by
  have key : job.id = entry.jobId := lookup_key found
  have rest := inv_dropped inv (erase_sublist (a := entry) (l := state.rereads))
  constructor
  · exact inv.store
  · exact inv.finished
  · exact inv.once
  · exact rest.pending
  · exact rest.silent
  · intro callback mem
    rcases mem_cons.mp mem with rfl | old
    · refine ⟨?_, lookup_mem found⟩
      show (⟨entry.worker, job.id, entry.caller.scans, true⟩ : Finish) ∈ state.finishes
      rw [key]
      exact inv.pending entry listed committed
    · exact inv.called callback old
  · have order : (state.rereads.filter Reread.committed).map Reread.jobId |>.Perm
        (job.id :: ((state.rereads.erase entry).filter Reread.committed).map Reread.jobId) := by
      have moved := ((perm_cons_erase listed).filter Reread.committed).map Reread.jobId
      rw [filter_cons_of_pos committed, map_cons, ← key] at moved
      exact moved
    have before := ((List.Perm.refl _).append order).nodup_iff.mp inv.distinct
    exact perm_middle.nodup_iff.mp before

theorem inv_commit (worker jobId : String) (byScan failed found : Bool) (entries : List Reread)
    {store : JobSystem} (inv : CallbackInv state)
    (moved : CallbackInv { state with store := store })
    (held : found = true → state.holds worker jobId = true)
    (recorded : found = true → Finish.Recorded store.jobs ⟨worker, jobId, byScan, failed⟩)
    (committed : List.Sublist ((entries.filter Reread.committed).map Reread.finish)
      (if found then [⟨worker, jobId, byScan, failed⟩] else []))
    (silent : ∀ entry ∈ entries, entry.committed = false → entry.final = true →
      entry.Silent store.jobs) :
    CallbackInv ({ state with store := store, rereads := state.rereads ++ entries }.commit
        ⟨worker, jobId, byScan, failed⟩ found) := by
  have only : ∀ finish ∈ (if found then [(⟨worker, jobId, byScan, failed⟩ : Finish)] else []),
      found = true ∧ finish = ⟨worker, jobId, byScan, failed⟩ := by
    intro finish listed
    split at listed
    · next hit => exact ⟨hit, mem_singleton.mp listed⟩
    · cases listed
  apply inv_log moved _ _ _ committed silent
  · intro finish listed
    obtain ⟨hit, rfl⟩ := only finish listed
    exact recorded hit
  · intro finish listed
    obtain ⟨hit, rfl⟩ := only finish listed
    obtain ⟨job, mem, key, running, -⟩ := holds_job (held hit)
    rw [← key]
    exact running_fresh inv mem running
  · split <;> simp

variable {now : Time}

theorem inv_returned {jobId : String} (inv : CallbackInv state)
    (step : state.step strip listensTo (.returned jobId worker now) = some next) :
    CallbackInv next := by
  obtain ⟨-, taken⟩ := ite_none_right_eq_some.mp step
  obtain ⟨after, moved, rfl⟩ := map_eq_some_iff.mp taken
  obtain ⟨store, stored, rfl⟩ := map_eq_some_iff.mp moved
  apply inv_tasks
  have kept := inv_moved inv stored
  have recorded : state.holds worker jobId = true →
      Finish.Recorded store.jobs ⟨worker, jobId, false, false⟩ := by
    intro held
    obtain ⟨job, mem, holds⟩ := holds_job held
    obtain ⟨-, ⟨⟩⟩ := ite_none_right_eq_some.mp stored
    exact ⟨_, mem_update_of_chosen mem holds, holds.1, rfl⟩
  have logged := inv_commit worker jobId false false (state.holds worker jobId) [] inv kept id
    recorded (nil_sublist _) (by simp)
  rwa [append_nil] at logged

theorem inv_update (inv : CallbackInv state) (kept : LeaseKept listensTo state (.update worker now))
    (step : state.step strip listensTo (.update worker now) = some next) : CallbackInv next := by
  obtain ⟨ticket, found, taken⟩ := bind_eq_some_iff.mp step
  obtain ⟨after, moved, rfl⟩ := map_eq_some_iff.mp taken
  obtain ⟨store, stored, rfl⟩ := map_eq_some_iff.mp moved
  have still := inv_moved inv stored
  apply inv_tasks
  apply inv_commit worker ticket.failure.jobId false true _ [_] inv still
  · exact fun committed => (Bool.and_eq_true_iff.mp committed).2
  · intro committed
    obtain ⟨final, held⟩ := Bool.and_eq_true_iff.mp committed
    obtain ⟨job, mem, holds⟩ := holds_job held
    obtain ⟨own, same, rfl⟩ := map_eq_some_iff.mp stored
    obtain rfl : own = ticket := Option.some.inj (same.symm.trans found)
    exact ⟨_, mem_update_of_chosen mem holds, holds.1, if_pos final⟩
  · cases committed : isFinal ticket && state.holds worker ticket.failure.jobId
    · exact nil_sublist _
    · exact List.Sublist.refl _
  · intro entry listed missed final
    obtain rfl := mem_singleton.mp listed
    refine ⟨_, _, rfl, ?_⟩
    cases listens : listensTo ticket.job.kind
    · exact .inl rfl
    · obtain ⟨job, mem, held | ⟨mild, key, cancelled⟩⟩ := kept ticket found listens final
      · have holds : state.holds worker ticket.failure.jobId = true :=
          List.any_eq_true.mpr ⟨job, mem, decide_eq_true held⟩
        have committed : (isFinal ticket && state.holds worker ticket.failure.jobId) = true :=
          Bool.and_eq_true_iff.mpr ⟨final, holds⟩
        exact absurd (missed.symm.trans committed) Bool.false_ne_true
      · have stopped : job.status.isTerminal = true := by
          rw [cancelled]
          rfl
        exact .inr ⟨mild, job, job_step_terminal inv.store stored mem stopped, key, cancelled⟩

theorem exhausted_recorded {jobs : List BackgroundJob}
    (worker : String) (mem : job ∈ jobs) (exhausted : isExhausted now job = true) :
    Finish.Recorded (recoverExpired jobs now) ⟨worker, job.id, true, true⟩ := by
  obtain ⟨expired, limit⟩ := Bool.and_eq_true_iff.mp exhausted
  exact ⟨_, mem_update_of_chosen mem (of_decide_eq_true expired), rfl,
    if_pos (of_decide_eq_true limit)⟩

theorem inv_recover (inv : CallbackInv state)
    (step : state.step strip listensTo (.recover worker now) = some next) : CallbackInv next := by
  obtain ⟨-, taken⟩ := ite_none_right_eq_some.mp step
  obtain ⟨after, moved, rfl⟩ := map_eq_some_iff.mp taken
  obtain ⟨store, stored, rfl⟩ := map_eq_some_iff.mp moved
  have still := inv_moved inv stored
  cases stored
  apply inv_log still
  · intro finish listed
    obtain ⟨job, jobListed, rfl⟩ := List.mem_map.mp listed
    obtain ⟨mem, exhausted⟩ := mem_filter.mp jobListed
    exact exhausted_recorded worker mem exhausted
  · intro finish listed
    obtain ⟨job, jobListed, rfl⟩ := List.mem_map.mp listed
    obtain ⟨mem, exhausted⟩ := mem_filter.mp jobListed
    have expired := of_decide_eq_true (Bool.and_eq_true_iff.mp exhausted).1
    exact running_fresh inv mem expired.1
  · have ids : (recoveredFinishes worker now state.store.jobs).map Finish.jobId =
        (state.store.jobs.filter (isExhausted now)).map BackgroundJob.id := by
      rw [recoveredFinishes, List.map_map]
      rfl
    rw [ids]
    exact List.Nodup.sublist (filter_sublist.map _) inv.store.keys
  · have order : ((recoveredEntries worker now state.store.jobs).filter Reread.committed).map
        Reread.finish = recoveredFinishes worker now state.store.jobs := by
      have same : (fun job => isExhausted now job && decide (BackgroundJob.Expired now job)) =
          isExhausted now := by
        funext job
        rw [isExhausted, Bool.and_right_comm, Bool.and_self]
      have split : recoveredFinishes worker now state.store.jobs =
          ((state.store.jobs.filter fun job => decide (job.Expired now)).filter
            (isExhausted now)).map fun job => ⟨worker, job.id, true, true⟩ := by
        rw [List.filter_filter, same]
        rfl
      rw [split, recoveredEntries, List.filter_map, List.map_map]
      rfl
    rw [order]
  · intro entry listed missed final
    obtain ⟨job, -, rfl⟩ := List.mem_map.mp listed
    exact absurd (missed.symm.trans final) Bool.false_ne_true

theorem inv_reread (inv : CallbackInv state) (kept : LeaseKept listensTo state (.reread worker))
    (step : state.step strip listensTo (.reread worker) = some next) : CallbackInv next := by
  obtain ⟨entry, found, rfl⟩ := map_eq_some_iff.mp step
  have listed := mem_of_find?_eq_some found
  have own : entry.worker = worker := by simpa using find?_some found
  unfold WorkerSystem.answer
  split
  · next job answered =>
    obtain ⟨read, calls⟩ := filter_eq_some_iff.mp answered
    have decided : entry.final = true := by
      by_contra undecided
      have silent := kept entry found (Bool.eq_false_of_not_eq_true undecided) job read
      exact absurd (silent.symm.trans calls) Bool.false_ne_true
    cases committed : entry.committed
    · obtain ⟨listens, forced, caller, deaf | ⟨mild, row, mem, key, cancelled⟩⟩ :=
        inv.silent entry listed committed decided
      · rw [caller, deaf] at calls
        cases calls
      · have one : row = job := unique_key_eq inv.store.keys mem (lookup_mem read)
          (key.trans (lookup_key read).symm)
        rw [caller, mild, ← one] at calls
        simp [FailureCaller.callsBack, cancelled] at calls
    · rw [← own]
      exact inv_called inv listed committed read
  · exact inv_dropped inv erase_sublist

theorem inv_raised {failure : JobFailure} (inv : CallbackInv state)
    (kept : LeaseKept listensTo state (.raised worker failure))
    (step : state.step strip listensTo (.raised worker failure) = some next) :
    CallbackInv next := by
  obtain ⟨-, taken⟩ := ite_none_right_eq_some.mp step
  obtain ⟨after, moved, rfl⟩ := map_eq_some_iff.mp taken
  obtain ⟨store, stored, rfl⟩ := map_eq_some_iff.mp moved
  have still := inv_moved inv stored
  dsimp only
  split
  · exact still
  · next lost =>
    apply inv_tasks
    unfold WorkerSystem.answer
    split
    · next job answered =>
      obtain ⟨read, calls⟩ := filter_eq_some_iff.mp answered
      rw [read] at calls
      obtain ⟨listens, failing⟩ := Bool.and_eq_true_iff.mp calls
      have ends : failure.forceTerminal = true ∨ job.status = .failed := by
        simpa using failing
      have held := kept job read listens ends
      have found : readFailure state.store.jobs worker failure = some job :=
        filter_eq_some_iff.mpr ⟨read, by simp [held.2]⟩
      exact absurd (isSome_of_eq_some found) lost
    · exact still

theorem inv_move {action : JobAction} (inv : CallbackInv state)
    (moved : state.move strip action = some next) : CallbackInv next := by
  obtain ⟨store, stored, rfl⟩ := map_eq_some_iff.mp moved
  exact inv_moved inv stored

theorem worker_step_inv {action : WorkerAction} (inv : CallbackInv state)
    (kept : LeaseKept listensTo state action)
    (step : state.step strip listensTo action = some next) : CallbackInv next := by
  cases action with
  | enqueue jobId now request =>
    change state.move strip (.enqueue jobId now request) = some next at step
    exact inv_move inv step
  | cancel jobId now =>
    change state.move strip (.cancel jobId now) = some next at step
    exact inv_move inv step
  | claim jobId worker now leaseSeconds =>
    obtain ⟨-, taken⟩ := ite_none_right_eq_some.mp step
    obtain ⟨after, moved, rfl⟩ := map_eq_some_iff.mp taken
    have still := inv_move inv moved
    split
    · exact inv_tasks still _
    · exact still
  | heartbeat jobId worker now leaseSeconds =>
    obtain ⟨-, moved⟩ := ite_none_right_eq_some.mp step
    exact inv_move inv moved
  | returned jobId worker now => exact inv_returned inv step
  | stopped jobId worker reason now =>
    obtain ⟨-, taken⟩ := ite_none_right_eq_some.mp step
    obtain ⟨after, moved, rfl⟩ := map_eq_some_iff.mp taken
    exact inv_tasks (inv_move inv moved) _
  | raised worker failure => exact inv_raised inv kept step
  | update worker now => exact inv_update inv kept step
  | recover worker now => exact inv_recover inv step
  | reread worker => exact inv_reread inv kept step
  | stopProcess worker =>
    simp only [WorkerSystem.step] at step
    obtain ⟨after, moved, rfl⟩ := map_eq_some_iff.mp step
    obtain ⟨store, stored, rfl⟩ := map_eq_some_iff.mp moved
    exact inv_tasks (inv_dropped (inv_moved inv stored) filter_sublist) _

theorem reachable_callback_inv
    (reachable : (workerMachine strip listensTo).Reachable (LeaseKept listensTo) state) :
    CallbackInv state := by
  apply reachable_invariant CallbackInv _ _ reachable
  · rintro start ⟨⟨empty, idle⟩, -, unread, unfinished, silent⟩
    constructor
    · have begun : (jobMachine strip).Reachable Anything start.store :=
        ⟨start.store, ⟨empty, idle⟩, .refl _⟩
      exact reachable_job_inv begun
    all_goals simp [unread, unfinished, silent]
  · intro before action after inv kept step
    exact worker_step_inv inv kept step

/-- The worker of the callback failed the job, nobody else finished it, and it stays failed. -/
structure FollowsFailure (state : WorkerSystem) (byScan : Bool) (callback : Callback) : Prop where
  committed : ⟨callback.worker, callback.job.id, byScan, true⟩ ∈ state.finishes
  only : ∀ finish ∈ state.finishes, finish.jobId = callback.job.id →
    finish = ⟨callback.worker, callback.job.id, byScan, true⟩
  failed : ∀ job ∈ state.store.jobs, job.id = callback.job.id → job.status = .failed

def CalledOnce (byScan : Callback → Bool) (state : WorkerSystem) : Prop :=
  (∀ callback ∈ state.callbacks, FollowsFailure state (byScan callback) callback) ∧
    (state.callbacks.map fun callback => callback.job.id).Nodup

/-- While leases are kept until a failure is handled, a callback follows the failure that its own
worker committed, in `finish_failure` for a run and in `recover_expired` for a scan. -/
theorem failure_callbacks_follow
    (reachable : (workerMachine strip listensTo).Reachable (LeaseKept listensTo) state) :
    CalledOnce Callback.byScan state := by
  have inv := reachable_callback_inv reachable
  constructor
  · intro callback listed
    obtain ⟨committed, -⟩ := inv.called callback listed
    constructor
    · exact committed
    · intro finish mem same
      exact inj_on_of_nodup_map inv.once mem committed same
    · intro job mem same
      obtain ⟨done, doneMem, key, status⟩ := inv.finished _ committed
      have one := unique_key_eq inv.store.keys mem doneMem (same.trans key.symm)
      rw [one]
      exact status
  · exact List.Nodup.sublist (sublist_append_left _ _) inv.distinct

end

def freshWorkers : WorkerSystem := ⟨⟨[], []⟩, [], [], [], []⟩

def runWorkers (guard : WorkerSystem → WorkerAction → Bool) (actions : List WorkerAction) :
    Option WorkerSystem :=
  actions.foldlM (fun state action =>
    if guard state action then state.step id (fun _ => true) action else none) freshWorkers

theorem run_reachable {guard : WorkerSystem → WorkerAction → Bool} {actions : List WorkerAction}
    {state : WorkerSystem} (ran : runWorkers guard actions = some state) :
    (workerMachine id fun _ => true).Reachable (fun before action => guard before action = true)
      state := by
  refine ⟨freshWorkers, ⟨⟨rfl, rfl⟩, rfl, rfl, rfl, rfl⟩, ?_⟩
  exact path_of_run guard _ (fun _ _ _ taken => taken) ran

def startedRun (maxAttempts : Int) : List WorkerAction :=
  [.enqueue "job" 0 { sampleJobRequest with maxAttempts := maxAttempts }, .claim "job" "first" 1 2]

def terminalFailure : JobFailure := { sampleFailure with forceTerminal := true }

theorem terminal_error_called :
    ∃ state, runWorkers (fun before action => decide (LeaseKept (fun _ => true) before action))
        (startedRun 3 ++ [.raised "first" terminalFailure, .update "first" 2, .reread "first"]) =
          some state ∧
      state.callbacks.map Callback.worker = ["first"] ∧ CalledOnce Callback.byScan state := by
  have computed : ((runWorkers
      (fun before action => decide (LeaseKept (fun _ => true) before action))
      (startedRun 3 ++ [.raised "first" terminalFailure, .update "first" 2, .reread "first"])).map
        fun state => state.callbacks.map Callback.worker) = some ["first"] := by
    decide +kernel
  obtain ⟨state, ran, called⟩ := map_eq_some_iff.mp computed
  have reached := reachable_weaken (fun _ _ kept => of_decide_eq_true kept) (run_reachable ran)
  exact ⟨state, ran, called, failure_callbacks_follow reached⟩

theorem scan_and_takeover_called :
    (∃ state, (workerMachine id fun _ => true).Reachable Anything state ∧
      ¬CalledOnce (fun _ => false) state) ∧
    ∃ state, (workerMachine id fun _ => true).Reachable Anything state ∧
      ¬CalledOnce Callback.byScan state := by
  have scanned : ((runWorkers (fun _ _ => true)
      (startedRun 1 ++ [.recover "second" 4, .reread "second"])).map fun state =>
        (state.callbacks.map Callback.worker, state.finishes)) =
          some (["second"], [⟨"second", "job", true, true⟩]) := by
    decide +kernel
  have taken : ((runWorkers (fun _ _ => true)
      (startedRun 3 ++ [.recover "second" 4, .reread "second", .claim "job" "second" 5 2,
        .raised "first" terminalFailure])).map fun state =>
        (state.callbacks.map Callback.worker, state.finishes)) = some (["first"], []) := by
    decide +kernel
  have called : ∀ {state : WorkerSystem} {worker : String},
      state.callbacks.map Callback.worker = [worker] → ∃ callback, callback ∈ state.callbacks := by
    intro state worker listed
    obtain ⟨callback, rest, shape, -⟩ := map_eq_cons_iff.mp listed
    rw [shape]
    exact ⟨callback, mem_cons_self⟩
  constructor
  · obtain ⟨state, ran, result⟩ := map_eq_some_iff.mp scanned
    obtain ⟨workers, finishes⟩ := Prod.mk.inj result
    refine ⟨state, reachable_weaken (fun _ _ _ => trivial) (run_reachable ran), ?_⟩
    intro once
    obtain ⟨callback, mem⟩ := called workers
    have own := (once.1 callback mem).committed
    rw [finishes] at own
    simp at own
  · obtain ⟨state, ran, result⟩ := map_eq_some_iff.mp taken
    obtain ⟨workers, finishes⟩ := Prod.mk.inj result
    refine ⟨state, reachable_weaken (fun _ _ _ => trivial) (run_reachable ran), ?_⟩
    intro once
    obtain ⟨callback, mem⟩ := called workers
    have own := (once.1 callback mem).committed
    rw [finishes] at own
    cases own

end AgentMate.JobCallbacks
