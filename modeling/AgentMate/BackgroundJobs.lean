import AgentMate.RunStore
import AgentMate.TransitionSystem

/-!
# Background jobs of the local backend

`background_job_store` over the table of jobs. Every function is one transaction or one
statement except `finish_failure`, which reads the job and decides in Python whether the
failure is final before its UPDATE. A worker is one process with one event loop: while it
is between these two it takes no other step, but every other process may.
-/

namespace AgentMate

open TransitionSystem Table List Option

inductive JobStatus where
  | queued | running | retryWait | succeeded | failed | cancelled
  deriving DecidableEq, Repr

/-- `TERMINAL_STATUSES`. -/
def JobStatus.isTerminal : JobStatus → Bool
  | .succeeded | .failed | .cancelled => true
  | _ => false

/-- `status IN ('queued','retry_wait')`. -/
def JobStatus.isWaiting : JobStatus → Bool
  | .queued | .retryWait => true
  | _ => false

structure BackgroundJob where
  id : String
  ownerId : String
  kind : String
  entityId : String
  payload : Json
  idempotencyKey : String
  status : JobStatus
  attempt : Int
  maxAttempts : Int
  nextAttemptAt : Time
  leaseOwner : Option String
  leaseExpiresAt : Option Time
  heartbeatAt : Option Time
  errorCode : Option String
  errorMessage : Option String
  createdAt : Time
  updatedAt : Time
  startedAt : Option Time
  finishedAt : Option Time

structure JobRequest where
  ownerId : String
  kind : String
  entityId : String
  idempotencyKey : String
  payload : Json
  maxAttempts : Int
  nextAttemptAt : Option Time

inductive JobError where
  | value (message : String)
  | integrity (constraint : String)

/-- The keyword arguments of `finish_failure`. -/
structure JobFailure where
  jobId : String
  errorCode : String
  errorMessage : String
  retryAt : Time
  forceTerminal : Bool

section

variable (jobs : List BackgroundJob)

def getJob (jobId : String) : Option BackgroundJob := lookup BackgroundJob.id jobId jobs

def enqueueJob (strip : String → String) (jobId : String) (now : Time) (request : JobRequest) :
    Except JobError (List BackgroundJob × BackgroundJob × Bool) :=
  let owner := strip request.ownerId
  let jobKind := clip 80 (strip request.kind)
  let entity := clip 200 (strip request.entityId)
  let key := clip 200 (strip request.idempotencyKey)
  let job : BackgroundJob :=
    { id := jobId, ownerId := owner, kind := jobKind, entityId := entity
      payload := request.payload, idempotencyKey := key, status := .queued, attempt := 0
      maxAttempts := max 1 (min request.maxAttempts 10)
      nextAttemptAt := request.nextAttemptAt.getD now
      leaseOwner := none, leaseExpiresAt := none, heartbeatAt := none
      errorCode := none, errorMessage := none
      createdAt := now, updatedAt := now, startedAt := none, finishedAt := none }
  let sameKey (row : BackgroundJob) : Bool :=
    row.ownerId = owner && row.kind = jobKind && row.idempotencyKey = key
  if owner = "" ∨ jobKind = "" ∨ entity = "" ∨ key = "" then
    .error (.value "background job scope and idempotency key are required")
  else if jobs.any fun row => decide (row.id = jobId) || sameKey row then
    match jobs.find? sameKey with
    | some row => .ok (jobs, row, false)
    | none => .error (.integrity "background_jobs.id")
  else .ok (jobs ++ [job], job, true)

/-- `WHERE id=? AND status='running' AND lease_owner=?`. -/
def BackgroundJob.HeldBy (worker jobId : String) (row : BackgroundJob) : Prop :=
  row.id = jobId ∧ row.status = .running ∧ row.leaseOwner = some worker

instance (worker jobId : String) : DecidablePred (BackgroundJob.HeldBy worker jobId) :=
  fun row => inferInstanceAs (Decidable (row.id = jobId ∧ _))

/-- `WHERE id=? AND status IN ('queued','retry_wait')`, and due. -/
def BackgroundJob.Claimable (jobId : String) (now : Time) (row : BackgroundJob) : Prop :=
  row.id = jobId ∧ row.status.isWaiting = true ∧ row.nextAttemptAt ≤ now

instance (jobId : String) (now : Time) : DecidablePred (BackgroundJob.Claimable jobId now) :=
  fun row => inferInstanceAs (Decidable (row.id = jobId ∧ _))

def claimJob (jobId worker : String) (now leaseSeconds : Time) : List BackgroundJob :=
  updateWhere (BackgroundJob.Claimable jobId now) (fun row =>
      { row with
        status := .running, attempt := row.attempt + 1, leaseOwner := some worker
        leaseExpiresAt := some (now + max 1 leaseSeconds), heartbeatAt := some now
        startedAt := some (row.startedAt.getD now), updatedAt := now
        errorCode := none, errorMessage := none }) jobs

def heartbeatJob (jobId worker : String) (now leaseSeconds : Time) : List BackgroundJob :=
  updateWhere (BackgroundJob.HeldBy worker jobId) (fun row =>
      { row with
        heartbeatAt := some now, leaseExpiresAt := some (now + max 1 leaseSeconds)
        updatedAt := now }) jobs

def finishSuccess (jobId worker : String) (now : Time) : List BackgroundJob :=
  updateWhere (BackgroundJob.HeldBy worker jobId) (fun row =>
      { row with
        status := .succeeded, leaseOwner := none, leaseExpiresAt := none, heartbeatAt := none
        errorCode := none, errorMessage := none, finishedAt := some now, updatedAt := now }) jobs

/-- The read of `finish_failure`: the job when its worker goes on to the UPDATE. -/
def readFailure (worker : String) (failure : JobFailure) : Option BackgroundJob :=
  (getJob jobs failure.jobId).filter fun job =>
    job.status = .running ∧ job.leaseOwner = some worker

/-- The UPDATE of `finish_failure`, computed from the job that was read. -/
def writeFailure (worker : String) (failure : JobFailure) (job : BackgroundJob) (now : Time) :
    List BackgroundJob :=
  let terminal := failure.forceTerminal || decide (job.maxAttempts ≤ job.attempt)
  updateWhere (BackgroundJob.HeldBy worker failure.jobId) (fun row =>
      { row with
        status := if terminal then .failed else .retryWait
        nextAttemptAt := failure.retryAt
        leaseOwner := none, leaseExpiresAt := none, heartbeatAt := none
        errorCode := some (clip 120 failure.errorCode)
        errorMessage := some (clip 1000 failure.errorMessage)
        finishedAt := if terminal then some now else none, updatedAt := now }) jobs

/-- `release`: a controlled shutdown gives the attempt back. -/
def releaseJob (jobId worker reason : String) (now : Time) : List BackgroundJob :=
  updateWhere (BackgroundJob.HeldBy worker jobId) (fun row =>
      { row with
        status := .queued, attempt := max 0 (row.attempt - 1), nextAttemptAt := now
        leaseOwner := none, leaseExpiresAt := none, heartbeatAt := none
        errorCode := some (clip 120 reason), errorMessage := some (clip 1000 reason)
        updatedAt := now }) jobs

def cancelJob (jobId : String) (now : Time) : List BackgroundJob :=
  updateWhere (fun row => row.id = jobId ∧ row.status.isTerminal = false) (fun row =>
      { row with
        status := .cancelled, leaseOwner := none, leaseExpiresAt := none, heartbeatAt := none
        errorCode := some "cancelled_by_user", errorMessage := some "cancelled_by_user"
        finishedAt := some now, updatedAt := now }) jobs

/-- `status='running' AND (lease_expires_at IS NULL OR lease_expires_at<=?)`. -/
def BackgroundJob.Expired (now : Time) (row : BackgroundJob) : Prop :=
  row.status = .running ∧ ∀ expiry ∈ row.leaseExpiresAt, expiry ≤ now

instance (now : Time) : DecidablePred (BackgroundJob.Expired now) :=
  fun row => inferInstanceAs (Decidable (row.status = .running ∧ _))

/-- `recover_expired`: the rows that expired, each updated from its own attempt count. -/
def recoverExpired (now : Time) : List BackgroundJob :=
  updateWhere (BackgroundJob.Expired now) (fun row =>
      { row with
        status := if row.maxAttempts ≤ row.attempt then .failed else .retryWait
        nextAttemptAt := now
        leaseOwner := none, leaseExpiresAt := none, heartbeatAt := none
        errorCode := some "worker_restarted"
        errorMessage := some "background worker lease expired after process interruption"
        finishedAt := if row.maxAttempts ≤ row.attempt then some now else none
        updatedAt := now }) jobs

end

/-- A `finish_failure` between its read and its UPDATE. -/
structure FailureTicket where
  worker : String
  failure : JobFailure
  job : BackgroundJob

structure JobSystem where
  jobs : List BackgroundJob
  failing : List FailureTicket

inductive JobAction where
  | enqueue (jobId : String) (now : Time) (request : JobRequest)
  | claim (jobId worker : String) (now leaseSeconds : Time)
  | heartbeat (jobId worker : String) (now leaseSeconds : Time)
  | finishSuccess (jobId worker : String) (now : Time)
  | readFailure (worker : String) (failure : JobFailure)
  | writeFailure (worker : String) (now : Time)
  | release (jobId worker reason : String) (now : Time)
  | cancel (jobId : String) (now : Time)
  | recoverExpired (now : Time)
  | stopProcess (worker : String)

/-- The worker is not inside `finish_failure`. -/
def JobSystem.Free (system : JobSystem) (worker : String) : Prop :=
  ∀ ticket ∈ system.failing, ticket.worker ≠ worker

instance (system : JobSystem) : DecidablePred system.Free :=
  fun worker => inferInstanceAs (Decidable (∀ ticket ∈ system.failing, ticket.worker ≠ worker))

/-- `none` when the event loop of the worker is elsewhere. A request that raises changes
nothing. -/
def JobSystem.step (strip : String → String) (system : JobSystem) : JobAction → Option JobSystem
  | .enqueue jobId now request =>
    match enqueueJob system.jobs strip jobId now request with
    | .ok result => some { system with jobs := result.1 }
    | .error _ => some system
  | .claim jobId worker now leaseSeconds =>
    if system.Free worker then
      some { system with jobs := claimJob system.jobs jobId worker now leaseSeconds }
    else none
  | .heartbeat jobId worker now leaseSeconds =>
    if system.Free worker then
      some { system with jobs := heartbeatJob system.jobs jobId worker now leaseSeconds }
    else none
  | .finishSuccess jobId worker now =>
    if system.Free worker then
      some { system with jobs := finishSuccess system.jobs jobId worker now }
    else none
  | .readFailure worker failure =>
    if system.Free worker then
      match readFailure system.jobs worker failure with
      | some job => some { system with failing := ⟨worker, failure, job⟩ :: system.failing }
      | none => some system
    else none
  | .writeFailure worker now =>
    (system.failing.find? fun ticket => ticket.worker = worker).map fun ticket =>
      { jobs := writeFailure system.jobs worker ticket.failure ticket.job now
        failing := system.failing.filter fun other => other.worker ≠ worker }
  | .release jobId worker reason now =>
    if system.Free worker then
      some { system with jobs := releaseJob system.jobs jobId worker reason now }
    else none
  | .cancel jobId now => some { system with jobs := cancelJob system.jobs jobId now }
  | .recoverExpired now => some { system with jobs := recoverExpired system.jobs now }
  | .stopProcess worker =>
    some { system with failing := system.failing.filter fun other => other.worker ≠ worker }

def jobMachine (strip : String → String) : Machine JobSystem JobAction where
  Initial system := system.jobs = [] ∧ system.failing = []
  Step system action next := system.step strip action = some next

/-- The job that an action finishes, with the worker that does it: `finish_success`, the
UPDATE of `finish_failure`, `release`. -/
def JobSystem.finishes (system : JobSystem) : JobAction → Option (String × String)
  | .finishSuccess jobId worker _ => some (jobId, worker)
  | .writeFailure worker _ =>
    (system.failing.find? fun ticket => ticket.worker = worker).map fun ticket =>
      (ticket.failure.jobId, worker)
  | .release jobId worker _ _ => some (jobId, worker)
  | _ => none

structure BackgroundJob.Consistent (job : BackgroundJob) : Prop where
  waiting : job.status.isWaiting = true → 0 ≤ job.attempt ∧ job.attempt < job.maxAttempts
  running : job.status = .running → 1 ≤ job.attempt ∧ job.attempt ≤ job.maxAttempts ∧
    job.leaseOwner.isSome = true ∧ job.leaseExpiresAt.isSome = true
  idle : job.status ≠ .running → job.leaseOwner = none ∧ job.leaseExpiresAt = none

/-- How a job may change when `claimer` is the worker that claims, if any. -/
structure BackgroundJob.Follows (claimer : Option String) (old job : BackgroundJob) : Prop where
  consistent : old.Consistent → job.Consistent
  absorbed : old.status.isTerminal = true → job = old
  held : ∀ worker, some worker ≠ claimer → job.status = .running → job.leaseOwner = some worker →
    old.status = .running ∧ old.leaseOwner = some worker ∧ job.attempt = old.attempt ∧
      job.maxAttempts = old.maxAttempts

theorem job_follows_refl (claimer : Option String) (job : BackgroundJob) :
    BackgroundJob.Follows claimer job job := by
  constructor
  · intro consistent
    exact consistent
  · intro _
    rfl
  · intro worker _ running owned
    exact ⟨running, owned, rfl, rfl⟩

theorem job_follows_idle (claimer : Option String) {old job : BackgroundJob}
    (active : old.status.isTerminal = false) (stopped : job.status ≠ .running)
    (cleared : job.leaseOwner = none ∧ job.leaseExpiresAt = none)
    (waiting : old.Consistent → job.status.isWaiting = true →
      0 ≤ job.attempt ∧ job.attempt < job.maxAttempts) :
    BackgroundJob.Follows claimer old job := by
  constructor
  · intro consistent
    constructor
    · exact waiting consistent
    · intro running
      exact absurd running stopped
    · intro _
      exact cleared
  · intro final
    rw [active] at final
    cases final
  · intro worker _ running
    exact absurd running stopped

def JobAction.claimer : JobAction → Option String
  | .claim _ worker _ _ => some worker
  | _ => none

section

variable {jobs : List BackgroundJob}

theorem claim_follows (jobId worker : String) (now leaseSeconds : Time) :
    Rewritten BackgroundJob.id (BackgroundJob.Follows (some worker)) jobs
      (claimJob jobs jobId worker now leaseSeconds) := by
  refine rewritten_update (fun _ => rfl) (job_follows_refl (some worker)) ?_
  rintro row - ⟨-, waiting, -⟩
  constructor
  · intro consistent
    obtain ⟨low, high⟩ := consistent.waiting waiting
    constructor
    · intro still
      cases still
    · intro _
      refine ⟨?_, ?_, rfl, rfl⟩
      · show 1 ≤ row.attempt + 1
        omega
      · exact high
    · intro stopped
      exact absurd rfl stopped
  · intro final
    cases status : row.status <;> simp [status, JobStatus.isWaiting, JobStatus.isTerminal] at *
  · intro other different _ owned
    exact absurd owned.symm different

theorem heartbeat_follows (claimer : Option String) (jobId worker : String)
    (now leaseSeconds : Time) :
    Rewritten BackgroundJob.id (BackgroundJob.Follows claimer) jobs
      (heartbeatJob jobs jobId worker now leaseSeconds) := by
  refine rewritten_update (fun _ => rfl) (job_follows_refl claimer) ?_
  rintro row - ⟨-, running, owned⟩
  constructor
  · intro consistent
    obtain ⟨low, high, owner, -⟩ := consistent.running running
    constructor
    · exact consistent.waiting
    · intro _
      exact ⟨low, high, owner, rfl⟩
    · intro stopped
      exact absurd running stopped
  · intro final
    rw [running] at final
    cases final
  · intro other _ still same
    exact ⟨still, same, rfl, rfl⟩

theorem running_active {status : JobStatus} (running : status = .running) :
    status.isTerminal = false := by
  rw [running]
  rfl

theorem finish_success_follows (claimer : Option String) (jobId worker : String) (now : Time) :
    Rewritten BackgroundJob.id (BackgroundJob.Follows claimer) jobs
      (finishSuccess jobs jobId worker now) := by
  refine rewritten_update (fun _ => rfl) (job_follows_refl claimer) ?_
  rintro row - ⟨-, running, -⟩
  apply job_follows_idle claimer (running_active running) (by simp) ⟨rfl, rfl⟩
  intro _ waiting
  cases waiting

theorem failed_status (terminal : Bool) :
    (if terminal then JobStatus.failed else .retryWait) ≠ .running ∧
      ((if terminal then JobStatus.failed else .retryWait).isWaiting = true → terminal = false) := by
  cases terminal
  · exact ⟨by simp, fun _ => rfl⟩
  · exact ⟨by simp, fun waiting => by cases waiting⟩

theorem write_failure_follows (claimer : Option String) (worker : String) (failure : JobFailure)
    (read : BackgroundJob) (now : Time)
    (current : ∀ row ∈ jobs, row.HeldBy worker failure.jobId →
      row.attempt = read.attempt ∧ row.maxAttempts = read.maxAttempts) :
    Rewritten BackgroundJob.id (BackgroundJob.Follows claimer) jobs
      (writeFailure jobs worker failure read now) := by
  refine rewritten_update (fun _ => rfl) (job_follows_refl claimer) ?_
  intro row mem held
  obtain ⟨sameAttempt, sameMax⟩ := current row mem held
  obtain ⟨stopped, retried⟩ :=
    failed_status (failure.forceTerminal || decide (read.maxAttempts ≤ read.attempt))
  apply job_follows_idle claimer (running_active held.2.1) stopped ⟨rfl, rfl⟩
  intro consistent waiting
  obtain ⟨low, -, -⟩ := consistent.running held.2.1
  have left := retried waiting
  rw [Bool.or_eq_false_iff, decide_eq_false_iff_not, ← sameAttempt, ← sameMax] at left
  show 0 ≤ row.attempt ∧ row.attempt < row.maxAttempts
  omega

theorem release_follows (claimer : Option String) (jobId worker reason : String) (now : Time) :
    Rewritten BackgroundJob.id (BackgroundJob.Follows claimer) jobs
      (releaseJob jobs jobId worker reason now) := by
  refine rewritten_update (fun _ => rfl) (job_follows_refl claimer) ?_
  rintro row - ⟨-, running, -⟩
  apply job_follows_idle claimer (running_active running) (by simp) ⟨rfl, rfl⟩
  intro consistent _
  obtain ⟨low, high, -⟩ := consistent.running running
  show 0 ≤ max 0 (row.attempt - 1) ∧ max 0 (row.attempt - 1) < row.maxAttempts
  omega

theorem cancel_follows (claimer : Option String) (jobId : String) (now : Time) :
    Rewritten BackgroundJob.id (BackgroundJob.Follows claimer) jobs (cancelJob jobs jobId now) := by
  refine rewritten_update (fun _ => rfl) (job_follows_refl claimer) ?_
  rintro row - ⟨-, active⟩
  apply job_follows_idle claimer active (by simp) ⟨rfl, rfl⟩
  intro _ waiting
  cases waiting

theorem recover_follows (claimer : Option String) (now : Time) :
    Rewritten BackgroundJob.id (BackgroundJob.Follows claimer) jobs (recoverExpired jobs now) := by
  refine rewritten_update (fun _ => rfl) (job_follows_refl claimer) ?_
  rintro row - ⟨running, -⟩
  obtain ⟨stopped, retried⟩ := failed_status (decide (row.maxAttempts ≤ row.attempt))
  simp only [decide_eq_true_eq] at stopped retried
  apply job_follows_idle claimer (running_active running) stopped ⟨rfl, rfl⟩
  intro consistent waiting
  obtain ⟨low, -, -⟩ := consistent.running running
  have left := retried waiting
  rw [decide_eq_false_iff_not] at left
  show 0 ≤ row.attempt ∧ row.attempt < row.maxAttempts
  omega

end

structure JobInv (system : JobSystem) : Prop where
  keys : UniqueKey BackgroundJob.id system.jobs
  consistent : ∀ job ∈ system.jobs, job.Consistent
  current : ∀ ticket ∈ system.failing, ∀ job ∈ system.jobs,
    job.HeldBy ticket.worker ticket.failure.jobId →
      job.attempt = ticket.job.attempt ∧ job.maxAttempts = ticket.job.maxAttempts

inductive JobsChange (claimer : Option String) (jobs next : List BackgroundJob) : Prop
  | rewritten (rows : Rewritten BackgroundJob.id (BackgroundJob.Follows claimer) jobs next)
  | added (job : BackgroundJob) (appended : next = jobs ++ [job])
      (fresh : ∀ row ∈ jobs, row.id ≠ job.id) (consistent : job.Consistent)
      (idle : job.status ≠ .running)

variable {strip : String → String} {system next : JobSystem} {action : JobAction}

variable {jobs : List BackgroundJob} {jobId worker : String} {job : BackgroundJob}

theorem enqueue_change {now : Time} {request : JobRequest}
    {result : List BackgroundJob × BackgroundJob × Bool}
    (done : enqueueJob jobs strip jobId now request = .ok result) :
    JobsChange none jobs result.1 := by
  unfold enqueueJob at done
  dsimp only at done
  split at done
  · cases done
  · split at done
    · split at done
      · cases done
        exact .rewritten (rewritten_refl (job_follows_refl none) jobs)
      · cases done
    · next absent =>
      cases done
      refine .added _ rfl ?_ ?_ (by simp)
      · intro row mem same
        apply absent
        exact List.any_eq_true.mpr ⟨row, mem, by simp [same]⟩
      · constructor
        · intro _
          show (0 : Int) ≤ 0 ∧ 0 < max 1 (min request.maxAttempts 10)
          omega
        · intro running
          cases running
        · intro _
          exact ⟨rfl, rfl⟩

theorem ticket_held {ticket : FailureTicket}
    (found : (system.failing.find? fun other => other.worker = worker) = some ticket) :
    ticket ∈ system.failing ∧ ticket.worker = worker := by
  have matched := find?_some found
  exact ⟨mem_of_find?_eq_some found, by simpa using matched⟩

theorem job_step_change (inv : JobInv system) (step : system.step strip action = some next) :
    JobsChange action.claimer system.jobs next.jobs := by
  have same : ∀ claimer, JobsChange claimer system.jobs system.jobs := fun claimer =>
    .rewritten (rewritten_refl (job_follows_refl claimer) system.jobs)
  cases action with
  | enqueue jobId now request =>
    simp only [JobSystem.step] at step
    split at step
    · next result done =>
      cases step
      exact enqueue_change done
    · cases step
      exact same none
  | claim jobId worker now leaseSeconds =>
    obtain ⟨-, ⟨⟩⟩ := ite_none_right_eq_some.mp step
    exact .rewritten (claim_follows jobId worker now leaseSeconds)
  | heartbeat jobId worker now leaseSeconds =>
    obtain ⟨-, ⟨⟩⟩ := ite_none_right_eq_some.mp step
    exact .rewritten (heartbeat_follows none jobId worker now leaseSeconds)
  | finishSuccess jobId worker now =>
    obtain ⟨-, ⟨⟩⟩ := ite_none_right_eq_some.mp step
    exact .rewritten (finish_success_follows none jobId worker now)
  | readFailure worker failure =>
    obtain ⟨-, taken⟩ := ite_none_right_eq_some.mp step
    split at taken
    · cases taken
      exact same none
    · cases taken
      exact same none
  | writeFailure worker now =>
    obtain ⟨ticket, found, rfl⟩ := map_eq_some_iff.mp step
    obtain ⟨mem, rfl⟩ := ticket_held found
    exact .rewritten (write_failure_follows none ticket.worker ticket.failure ticket.job now
      (inv.current ticket mem))
  | release jobId worker reason now =>
    obtain ⟨-, ⟨⟩⟩ := ite_none_right_eq_some.mp step
    exact .rewritten (release_follows none jobId worker reason now)
  | cancel jobId now =>
    cases step
    exact .rewritten (cancel_follows none jobId now)
  | recoverExpired now =>
    cases step
    exact .rewritten (recover_follows none now)
  | stopProcess worker =>
    cases step
    exact same none

theorem job_step_tickets (step : system.step strip action = some next) : ∀ ticket ∈ next.failing,
      (ticket ∈ system.failing ∧ some ticket.worker ≠ action.claimer) ∨
      (next.jobs = system.jobs ∧ getJob system.jobs ticket.failure.jobId = some ticket.job) := by
  intro ticket mem
  cases action with
  | enqueue jobId now request =>
    simp only [JobSystem.step] at step
    split at step <;> cases step <;> exact .inl ⟨mem, by simp [JobAction.claimer]⟩
  | claim jobId worker now leaseSeconds =>
    obtain ⟨free, ⟨⟩⟩ := ite_none_right_eq_some.mp step
    refine .inl ⟨mem, ?_⟩
    intro same
    exact free ticket mem (Option.some.inj same)
  | heartbeat jobId worker now leaseSeconds =>
    obtain ⟨-, ⟨⟩⟩ := ite_none_right_eq_some.mp step
    exact .inl ⟨mem, by simp [JobAction.claimer]⟩
  | finishSuccess jobId worker now =>
    obtain ⟨-, ⟨⟩⟩ := ite_none_right_eq_some.mp step
    exact .inl ⟨mem, by simp [JobAction.claimer]⟩
  | readFailure worker failure =>
    obtain ⟨-, taken⟩ := ite_none_right_eq_some.mp step
    split at taken
    · next job found =>
      cases taken
      rcases mem_cons.mp mem with rfl | old
      · exact .inr ⟨rfl, (filter_eq_some_iff.mp found).1⟩
      · exact .inl ⟨old, by simp [JobAction.claimer]⟩
    · cases taken
      exact .inl ⟨mem, by simp [JobAction.claimer]⟩
  | writeFailure worker now =>
    obtain ⟨own, -, rfl⟩ := map_eq_some_iff.mp step
    exact .inl ⟨mem_of_mem_filter mem, by simp [JobAction.claimer]⟩
  | release jobId worker reason now =>
    obtain ⟨-, ⟨⟩⟩ := ite_none_right_eq_some.mp step
    exact .inl ⟨mem, by simp [JobAction.claimer]⟩
  | cancel jobId now =>
    cases step
    exact .inl ⟨mem, by simp [JobAction.claimer]⟩
  | recoverExpired now =>
    cases step
    exact .inl ⟨mem, by simp [JobAction.claimer]⟩
  | stopProcess worker =>
    cases step
    exact .inl ⟨mem_of_mem_filter mem, by simp [JobAction.claimer]⟩

theorem job_step_inv (inv : JobInv system) (step : system.step strip action = some next) :
    JobInv next := by
  have tickets := job_step_tickets step
  have change := job_step_change inv step
  constructor
  · cases change with
    | rewritten rows => exact rewritten_unique rows inv.keys
    | added job appended fresh consistent idle =>
      rw [appended]
      exact unique_key_append inv.keys fresh
  · intro job mem
    cases change with
    | rewritten rows =>
      obtain ⟨old, oldMem, -, follows⟩ := rows.rows job mem
      exact follows.consistent (inv.consistent old oldMem)
    | added added appended fresh consistent idle =>
      rw [appended] at mem
      rcases mem_append.mp mem with old | new
      · exact inv.consistent job old
      · rwa [mem_singleton.mp new]
  · intro ticket waiting job mem held
    rcases tickets ticket waiting with ⟨pending, other⟩ | ⟨same, read⟩
    · cases change with
      | rewritten rows =>
        obtain ⟨old, oldMem, key, follows⟩ := rows.rows job mem
        obtain ⟨running, owned, attempt, limit⟩ :=
          follows.held ticket.worker other held.2.1 held.2.2
        obtain ⟨oldAttempt, oldLimit⟩ :=
          inv.current ticket pending old oldMem ⟨key ▸ held.1, running, owned⟩
        exact ⟨attempt.trans oldAttempt, limit.trans oldLimit⟩
      | added added appended fresh consistent idle =>
        rw [appended] at mem
        rcases mem_append.mp mem with old | new
        · exact inv.current ticket pending job old held
        · rw [mem_singleton.mp new] at held
          exact absurd held.2.1 idle
    · rw [same] at mem
      have one := unique_key_eq inv.keys mem (lookup_mem read) (held.1.trans (lookup_key read).symm)
      exact one ▸ ⟨rfl, rfl⟩

theorem reachable_job_inv (reachable : (jobMachine strip).Reachable Anything system) :
    JobInv system := by
  apply reachable_invariant JobInv _ _ reachable
  · rintro start ⟨none, idle⟩
    constructor
    · simp [none, UniqueKey]
    · simp [none]
    · simp [idle]
  · intro state taken after inv _ step
    exact job_step_inv inv step

theorem job_step_terminal (inv : JobInv system) (step : system.step strip action = some next)
    (mem : job ∈ system.jobs) (final : job.status.isTerminal = true) :
    job ∈ next.jobs := by
  cases job_step_change inv step with
  | rewritten rows =>
    obtain ⟨row, rowMem, -, follows⟩ := rewritten_forward rows inv.keys mem
    exact follows.absorbed final ▸ rowMem
  | added added appended fresh consistent idle =>
    rw [appended]
    exact mem_append_left _ mem

theorem terminal_stays {finish : JobSystem} (inv : JobInv system)
    (path : (jobMachine strip).Path Anything system finish) (mem : job ∈ system.jobs)
    (final : job.status.isTerminal = true) :
    JobInv finish ∧ job ∈ finish.jobs := by
  apply path_invariant (fun state => JobInv state ∧ job ∈ state.jobs) _ ⟨inv, mem⟩ path
  rintro state taken after ⟨holds, listed⟩ - step
  exact ⟨job_step_inv holds step, job_step_terminal holds step listed final⟩

theorem held_update {assign : BackgroundJob → BackgroundJob}
    (same : ∀ row, (assign row).id = row.id) :
    Rewritten BackgroundJob.id (fun old row => row ≠ old → old.HeldBy worker jobId) jobs
      (updateWhere (BackgroundJob.HeldBy worker jobId) assign jobs) :=
  rewritten_update same (fun _ changed => absurd rfl changed) fun _ _ held _ => held

theorem finish_by_holder (finishes : system.finishes action = some (jobId, worker))
    (step : system.step strip action = some next) :
    Rewritten BackgroundJob.id (fun old row => row ≠ old → old.HeldBy worker jobId)
      system.jobs next.jobs := by
  cases action with
  | finishSuccess ownJob ownWorker now =>
    cases finishes
    obtain ⟨-, ⟨⟩⟩ := ite_none_right_eq_some.mp step
    exact held_update fun _ => rfl
  | writeFailure ownWorker now =>
    obtain ⟨ticket, found, ⟨⟩⟩ := map_eq_some_iff.mp finishes
    simp only [JobSystem.step, found] at step
    cases step
    exact held_update fun _ => rfl
  | release ownJob ownWorker reason now =>
    cases finishes
    obtain ⟨-, ⟨⟩⟩ := ite_none_right_eq_some.mp step
    exact held_update fun _ => rfl
  | enqueue | claim | heartbeat | readFailure | cancel | recoverExpired | stopProcess =>
    cases finishes

/-- Attempts and leases fit the status of every job, a terminal job stays as it is in every
later state, and a finish changes only a job whose lease its worker holds. -/
theorem background_jobs_lifecycle (reachable : (jobMachine strip).Reachable Anything system) :
    (∀ job ∈ system.jobs, (job.status.isWaiting = true → job.attempt < job.maxAttempts) ∧
      (job.status = .running → 1 ≤ job.attempt ∧ job.attempt ≤ job.maxAttempts ∧
        job.leaseOwner.isSome = true ∧ job.leaseExpiresAt.isSome = true) ∧
      (job.status ≠ .running → job.leaseOwner = none ∧ job.leaseExpiresAt = none)) ∧
    (∀ finish, (jobMachine strip).Path Anything system finish →
      ∀ job ∈ system.jobs, job.status.isTerminal = true →
        job ∈ finish.jobs ∧ ∀ row ∈ finish.jobs, row.id = job.id → row = job) ∧
    ∀ action next jobId worker, system.finishes action = some (jobId, worker) →
      (jobMachine strip).Step system action next →
        Rewritten BackgroundJob.id (fun old row => row ≠ old → old.HeldBy worker jobId)
          system.jobs next.jobs := by
  have inv := reachable_job_inv reachable
  refine ⟨?_, ?_, ?_⟩
  · intro job mem
    have consistent := inv.consistent job mem
    exact ⟨fun waiting => (consistent.waiting waiting).2, consistent.running, consistent.idle⟩
  · intro finish path job mem final
    obtain ⟨later, listed⟩ := terminal_stays inv path mem final
    refine ⟨listed, ?_⟩
    intro row rowMem same
    exact unique_key_eq later.keys rowMem listed same
  · intro action next jobId worker finishes step
    exact finish_by_holder finishes step

def sampleJobRequest : JobRequest where
  ownerId := "owner"
  kind := "work_item_run"
  entityId := "launch"
  idempotencyKey := "work-item-launch:launch"
  payload := .null
  maxAttempts := 1
  nextAttemptAt := none

def sampleFailure : JobFailure where
  jobId := "job"
  errorCode := "handler_error"
  errorMessage := "timeout"
  retryAt := 14
  forceTerminal := false

def sampleJobActions : List JobAction :=
  [.enqueue "job" 0 sampleJobRequest, .claim "job" "first" 1 2,
    .readFailure "first" sampleFailure, .recoverExpired 4, .writeFailure "first" 5]

def sampleJobs : Option JobSystem :=
  sampleJobActions.foldlM (fun system action => system.step id action) ⟨[], []⟩

theorem recovered_job_lifecycle :
    ∃ system, sampleJobs = some system ∧ system.jobs.map BackgroundJob.status = [.failed] ∧
      ∀ finish, (jobMachine id).Path Anything system finish →
        ∀ job ∈ system.jobs, job.status.isTerminal = true → job ∈ finish.jobs := by
  have computed : sampleJobs.isSome = true := by decide +kernel
  obtain ⟨system, ran⟩ := isSome_iff_exists.mp computed
  have failed : (sampleJobs.map fun system => system.jobs.map BackgroundJob.status) =
      some [.failed] := by decide +kernel
  rw [ran] at failed
  have reached : (jobMachine id).Reachable Anything system := by
    refine ⟨⟨[], []⟩, ⟨rfl, rfl⟩, path_weaken (fun _ _ _ => trivial)
      (path_of_run (fun _ _ => true) (JobSystem.step id) (fun _ _ _ taken => taken) ran)⟩
  refine ⟨system, ran, Option.some.inj failed, ?_⟩
  intro finish path job mem final
  exact ((background_jobs_lifecycle reached).2.1 finish path job mem final).1

end AgentMate
