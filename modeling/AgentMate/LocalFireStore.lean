import AgentMate.LocalRunStore
import AgentMate.PlainText

/-!
# Fires of local automations

The scheduler of the local backend is one event loop over the `automations` and
`automation_fires` tables. What lies between two awaits is one step: the scan and `run_now`
await the health snapshot of a daily health report, and the coroutine of a fire awaits its
slot and then its conversation. A request that waits for a snapshot holds a ticket; the
coroutines of fires are the entries of `_running`.

The conversation itself writes the Run of the attempt and is otherwise left out, as are the
prompt and the model that it is given, and the notifications, which follow a final status.
-/

namespace AgentMate.LocalFires

open Table Interleaving TransitionSystem PlainText

inductive TriggerKind where
  | interval | daily | healthDaily | webhook
  deriving DecidableEq, Repr

structure Automation where
  id : String
  ownerId : String
  triggerKind : TriggerKind
  intervalMin : Int
  atTime : String
  projectId : Option String
  enabled : Bool
  timeoutSec : Nat
  maxAttempts : Nat
  retryBackoffSec : Nat
  concurrencyPolicy : String
  nextRunAt : Time
  lastRunAt : Option Time
  lastSessionId : Option String
  lastStatus : Option String
  updatedAt : Time

inductive FireStatus where
  | queued | running | retryWait | succeeded | deadLetter | ignored
  deriving DecidableEq, Repr

/-- `_FIRE_ACTIVE` -/
def FireStatus.isActive : FireStatus → Bool
  | .queued | .running | .retryWait => true
  | _ => false

/-- `_FIRE_TERMINAL` -/
def FireStatus.isTerminal (status : FireStatus) : Bool := !status.isActive

/-- `status IN ('queued','retry_wait')` -/
def FireStatus.isWaiting : FireStatus → Bool
  | .queued | .retryWait => true
  | _ => false

inductive FireTrigger where
  | scheduled | healthDaily | manual | webhook | replay
  deriving DecidableEq, Repr

structure AutomationFire where
  id : String
  automationId : String
  ownerId : String
  fireKey : String
  triggerKind : FireTrigger
  plannedAt : Time
  status : FireStatus
  attempt : Nat
  maxAttempts : Nat
  sessionId : Option String
  runId : Option String
  retryOfRunId : Option String
  errorCode : Option String
  errorMessage : Option String
  promptTokens : Nat
  completionTokens : Nat
  nextAttemptAt : Option Time
  inputPayload : Option Json
  createdAt : Time
  updatedAt : Time
  finishedAt : Option Time

/-- A row of `sessions` of kind `automation`. -/
structure AutomationSession where
  id : String
  ownerId : String
  projectId : Option String
  automationId : String
  runKind : String
  runStatus : String
  runSummary : Option String
  updatedAt : Time

/-- A row of `runs` that an attempt wrote. -/
structure AttemptRun where
  id : String
  ownerId : String
  idempotencyKey : String
  status : LocalRuns.RunStatus
  errorCode : Option String
  errorMessage : Option String
  promptTokens : Nat
  completionTokens : Nat

/-- Where the coroutine of a fire is: it waits for its slot, or for the conversation with
the rows that it has read. -/
inductive FirePhase where
  | waiting
  | driving (auto : Automation) (fire : AutomationFire) (sessionId : String)

/-- An entry of `_running`, with its entry of `_fire_owners`. -/
structure LiveFire where
  fireId : String
  ownerId : String
  phase : FirePhase

/-- The tables, the coroutines of the process, and every fire id that was drawn. -/
structure FireStore where
  automations : List Automation
  fires : List AutomationFire
  sessions : List AutomationSession
  runs : List AttemptRun
  running : List LiveFire
  issued : List String

/-- What the scheduler takes from the clock's zone, `hashlib` and the settings. -/
structure FireHost where
  computeNextRun : TriggerKind → Int → String → Time → Time
  /-- `at_time` is HH:MM -/
  clockGiven : String → Bool
  sha256 : String → String
  maxConcurrency : Nat
  perOwnerConcurrency : Nat

/-- What a step draws: the clock and the `new_uuid` values. -/
structure FireDraw where
  now : Time
  fireId : String
  sessionId : String

section

variable (store : FireStore)

def FireStore.getAutomation (autoId : String) : Option Automation :=
  lookup Automation.id autoId store.automations

def FireStore.getAutomationFor (autoId ownerId : String) : Option Automation :=
  store.automations.find? fun auto => auto.id = autoId && auto.ownerId = ownerId

def FireStore.getFire (fireId : String) : Option AutomationFire :=
  lookup AutomationFire.id fireId store.fires

def FireStore.getFireFor (fireId ownerId : String) : Option AutomationFire :=
  store.fires.find? fun fire => fire.id = fireId && fire.ownerId = ownerId

def FireStore.getFireByKey (autoId fireKey : String) : Option AutomationFire :=
  store.fires.find? fun fire => fire.automationId = autoId && fire.fireKey = fireKey

def AutomationFire.ActiveOf (autoId : String) (fire : AutomationFire) : Prop :=
  fire.automationId = autoId ∧ fire.status.isActive = true

instance (autoId : String) (fire : AutomationFire) : Decidable (fire.ActiveOf autoId) := by
  unfold AutomationFire.ActiveOf
  infer_instance

/-- `has_active_automation_fire` -/
def FireStore.hasActiveFire (autoId : String) : Bool :=
  store.fires.any fun fire => fire.ActiveOf autoId

/-- `get_active_automation_fire`: `ORDER BY created_at DESC LIMIT 1`. -/
def FireStore.getActiveFire (autoId : String) : Option AutomationFire :=
  ((store.fires.filter fun fire => fire.ActiveOf autoId).insertionSort
    fun left right => right.createdAt ≤ left.createdAt).head?

def FireStore.listDueAutomations (now : Time) : List Automation :=
  (store.automations.filter fun auto =>
    auto.enabled && decide (auto.triggerKind ≠ .webhook) && decide (auto.nextRunAt ≤ now)
    ).insertionSort fun left right => left.nextRunAt ≤ right.nextRunAt

/-- `list_due_automation_fires` with its default limit. -/
def FireStore.listDueFires (now : Time) : List AutomationFire :=
  ((store.fires.filter fun fire =>
    fire.status.isWaiting && fire.nextAttemptAt.any fun due => due ≤ now).insertionSort
      fun left right => left.nextAttemptAt.getD 0 ≤ right.nextAttemptAt.getD 0).take 100

def attemptKey (fireId : String) (attempt : Nat) : String :=
  "automation:" ++ fireId ++ ":attempt:" ++ toString attempt

def FireStore.getRunByIdempotency (ownerId key : String) : Option AttemptRun :=
  store.runs.find? fun run => run.ownerId = ownerId && run.idempotencyKey = key

def FireStore.latestAttemptRun (fire : AutomationFire) : Option AttemptRun :=
  store.getRunByIdempotency fire.ownerId (attemptKey fire.id fire.attempt)

end

section

variable (store : FireStore)

/-- The columns that `mark_automation_run` is given. -/
structure AutomationMark where
  nextRunAt : Option Time
  lastRunAt : Option Time
  lastSessionId : Option String
  lastStatus : Option String

def FireStore.markAutomationRun (autoId : String) (mark : AutomationMark) : FireStore :=
  { store with
    automations := updateWhere (fun auto => auto.id = autoId) (fun auto =>
      { auto with
        nextRunAt := mark.nextRunAt.getD auto.nextRunAt
        lastRunAt := mark.lastRunAt <|> auto.lastRunAt
        lastSessionId := mark.lastSessionId <|> auto.lastSessionId
        lastStatus := mark.lastStatus <|> auto.lastStatus }) store.automations }

def FireStore.markSessionRun (sessionId runStatus : String) (runSummary : Option String)
    (now : Time) : FireStore :=
  { store with
    sessions := updateWhere (fun session => session.id = sessionId) (fun session =>
      { session with runStatus := runStatus, runSummary := runSummary, updatedAt := now })
      store.sessions }

def FireStore.createSession (auto : Automation) (runKind : String) (draw : FireDraw) :
    FireStore :=
  { store with
    sessions := store.sessions ++ [{
      id := draw.sessionId, ownerId := auto.ownerId, projectId := auto.projectId
      automationId := auto.id, runKind := runKind, runStatus := "running"
      runSummary := none, updatedAt := draw.now }] }

/-- The arguments of `create_automation_fire`. -/
structure NewFire where
  automationId : String
  ownerId : String
  fireKey : String
  triggerKind : FireTrigger
  plannedAt : Time
  maxAttempts : Nat
  sessionId : Option String
  retryOfRunId : Option String
  inputPayload : Option Json

def NewFire.key (request : NewFire) : String := clip 240 (strip request.fireKey)

def NewFire.row (request : NewFire) (draw : FireDraw) : AutomationFire where
  id := draw.fireId
  automationId := request.automationId
  ownerId := request.ownerId
  fireKey := request.key
  triggerKind := request.triggerKind
  plannedAt := request.plannedAt
  status := .queued
  attempt := 0
  maxAttempts := max 1 request.maxAttempts
  sessionId := request.sessionId
  runId := none
  retryOfRunId := request.retryOfRunId
  errorCode := none
  errorMessage := none
  promptTokens := 0
  completionTokens := 0
  nextAttemptAt := some request.plannedAt
  inputPayload := request.inputPayload
  createdAt := draw.now
  updatedAt := draw.now
  finishedAt := none

/-- `create_automation_fire`, with `created`; `none` when it raises. -/
def FireStore.createFire (request : NewFire) (draw : FireDraw) :
    Option (FireStore × AutomationFire × Bool) :=
  if (store.getAutomationFor request.automationId request.ownerId).isNone ∨ request.key = "" then
    none
  else
    match store.getFireByKey request.automationId request.key with
    | some fire => some (store, fire, false)
    | none =>
      if draw.fireId ∈ store.issued then none
      else some ({ store with
          fires := store.fires ++ [request.row draw]
          issued := draw.fireId :: store.issued }, request.row draw, true)

/-- `UPDATE automation_fires SET .. WHERE id=? AND ..`. -/
def FireStore.updateFire (fireId : String) (allowed : FireStatus → Bool)
    (assign : AutomationFire → AutomationFire) : FireStore :=
  { store with
    fires := updateWhere (fun fire => fire.id = fireId ∧ allowed fire.status = true) assign
      store.fires }

def FireStore.hasFire (fireId : String) (allowed : FireStatus → Bool) : Bool :=
  store.fires.any fun fire => fire.id = fireId && allowed fire.status

def AutomationFire.claimed (now : Time) (fire : AutomationFire) : AutomationFire :=
  { fire with status := .running, attempt := fire.attempt + 1, updatedAt := now }

/-- `claim_automation_fire`; the row when one was updated. -/
def FireStore.claimFire (fireId : String) (now : Time) : FireStore × Option AutomationFire :=
  let claimed := { store with
    fires := updateWhere (fun fire => fire.id = fireId ∧ fire.status.isWaiting = true ∧
        fire.nextAttemptAt.any (fun due => due ≤ now) = true)
      (AutomationFire.claimed now) store.fires }
  (claimed, if store.fires.any (fun fire => fire.id = fireId && fire.status.isWaiting &&
      fire.nextAttemptAt.any fun due => due ≤ now) then claimed.getFire fireId else none)

def AutomationFire.attached (sessionId : String) (now : Time) (fire : AutomationFire) :
    AutomationFire :=
  { fire with sessionId := some sessionId, updatedAt := now }

/-- `attach_automation_fire_session`; `none` when it raises. -/
def FireStore.attachSession (fireId sessionId : String) (now : Time) :
    Option (FireStore × AutomationFire) := do
  let fire ← store.getFire fireId
  let session ← store.sessions.find? fun session => session.id = sessionId
  if session.ownerId ≠ fire.ownerId then none
  else
    let attached := store.updateFire fireId (fun _ => true) (AutomationFire.attached sessionId now)
    return (attached, ← attached.getFire fireId)

structure AttemptReport where
  runId : Option String
  errorCode : Option String
  errorMessage : String
  promptTokens : Nat
  completionTokens : Nat

def AutomationFire.retried (report : AttemptReport) (nextAttemptAt now : Time)
    (fire : AutomationFire) : AutomationFire :=
  { fire with
    status := .retryWait
    runId := report.runId
    retryOfRunId := report.runId
    errorCode := report.errorCode
    errorMessage := some (clip 500 report.errorMessage)
    promptTokens := fire.promptTokens + report.promptTokens
    completionTokens := fire.completionTokens + report.completionTokens
    nextAttemptAt := some nextAttemptAt
    updatedAt := now }

/-- `schedule_automation_fire_retry`; `none` when it raises. -/
def FireStore.scheduleRetry (fireId : String) (report : AttemptReport)
    (nextAttemptAt now : Time) : Option FireStore :=
  if store.hasFire fireId (· = .running) then
    some (store.updateFire fireId (· = .running) (AutomationFire.retried report nextAttemptAt now))
  else none

/-- The final statuses that the scheduler gives; `ignored` is given by an acknowledgement. -/
inductive FireEnd where
  | succeeded | deadLetter
  deriving DecidableEq

def FireEnd.status : FireEnd → FireStatus
  | .succeeded => .succeeded
  | .deadLetter => .deadLetter

def AutomationFire.finished (ending : FireEnd) (report : AttemptReport)
    (retryOfRunId : Option String) (now : Time) (fire : AutomationFire) : AutomationFire :=
  { fire with
    status := ending.status
    runId := report.runId <|> fire.runId
    retryOfRunId := retryOfRunId <|> fire.retryOfRunId
    errorCode := report.errorCode
    errorMessage :=
      if report.errorMessage = "" then none else some (clip 500 report.errorMessage)
    promptTokens := fire.promptTokens + report.promptTokens
    completionTokens := fire.completionTokens + report.completionTokens
    nextAttemptAt := none
    finishedAt := some now
    updatedAt := now }

/-- `finish_automation_fire`; `none` when it raises. -/
def FireStore.finishFire (fireId : String) (ending : FireEnd) (report : AttemptReport)
    (retryOfRunId : Option String) (now : Time) : Option FireStore :=
  if store.hasFire fireId FireStatus.isActive then
    some (store.updateFire fireId FireStatus.isActive
      (AutomationFire.finished ending report retryOfRunId now))
  else if (store.getFire fireId).any (·.status = ending.status) then some store
  else none

def AutomationFire.acknowledged (now : Time) (fire : AutomationFire) : AutomationFire :=
  { fire with status := .ignored, updatedAt := now }

/-- `ignore_automation_fire`; `none` when it raises or finds no fire. -/
def FireStore.ignoreFire (fireId ownerId : String) (now : Time) : Option FireStore :=
  match store.getFireFor fireId ownerId with
  | none => none
  | some fire =>
    if fire.status = .deadLetter then
      some (store.updateFire fireId (fun _ => true) (AutomationFire.acknowledged now))
    else none

/-- `set_run_status(run.id, "failed")`, which every status but a final one allows. -/
def FireStore.failRun (runId errorCode errorMessage : String) : FireStore :=
  { store with
    runs := updateWhere (fun run => run.id = runId) (fun run =>
      { run with
        status := .failed, errorCode := some errorCode, errorMessage := some errorMessage })
      store.runs }

end

section

variable (store : FireStore)

/-- `f.status='running' AND f.updated_at + a.timeout_sec <= ?` -/
def FireStore.Stale (now : Time) (fire : AutomationFire) : Prop :=
  fire.status = .running ∧ ∃ auto ∈ store.automations, auto.id = fire.automationId ∧
      fire.updatedAt + auto.timeoutSec ≤ now

instance (now : Time) (fire : AutomationFire) : Decidable (store.Stale now fire) := by
  unfold FireStore.Stale
  infer_instance

def FireStore.recoveredRun (fire : AutomationFire) : Option AttemptRun :=
  match fire.runId with
  | some runId => store.runs.find? fun run => run.id = runId
  | none => store.latestAttemptRun fire

/-- `{"planning", "waiting_approval", "running", "paused"}` -/
def isUnfinished : LocalRuns.RunStatus → Bool
  | .planning | .waitingApproval | .running | .paused => true
  | _ => false

def stoppedMessage : String := "Automation worker stopped before the attempt finished"

def AutomationFire.recovered (terminal : Bool) (runId : Option String) (now : Time)
    (row : AutomationFire) : AutomationFire :=
  { row with
    status := if terminal then .deadLetter else .retryWait
    retryOfRunId := runId <|> row.retryOfRunId
    errorCode := some "scheduler_restarted"
    errorMessage := some stoppedMessage
    nextAttemptAt := if terminal then none else some now
    finishedAt := if terminal then some now else none
    updatedAt := now }

def FireStore.stopRun (run : Option AttemptRun) : FireStore :=
  match run with
  | some run =>
    if isUnfinished run.status then store.failRun run.id "scheduler_restarted" stoppedMessage
    else store
  | none => store

def FireStore.markStopped (sessionId : Option String) (now : Time) : FireStore :=
  match sessionId with
  | some sessionId =>
    store.markSessionRun sessionId "error" (some "Automation worker stopped") now
  | none => store

/-- One round of `recover_stale_automation_fires`, on the row that its query returned. -/
def FireStore.recoverFire (now : Time) (fire : AutomationFire) : FireStore :=
  let run := store.recoveredRun fire
  let terminal := decide (fire.maxAttempts ≤ fire.attempt)
  let recovered := (store.stopRun run).updateFire fire.id (· = .running)
    (AutomationFire.recovered terminal (run.map AttemptRun.id) now)
  (recovered.markStopped fire.sessionId now).markAutomationRun fire.automationId
    ⟨none, some now, fire.sessionId, some (if terminal then "error" else "retrying")⟩

def FireStore.recoverStale (now : Time) : FireStore :=
  (store.fires.filter fun fire => store.Stale now fire).foldl
    (fun current fire => current.recoverFire now fire) store

end

section

variable (host : FireHost) (store : FireStore)

def FireStore.launch (fireId : String) : FireStore :=
  if store.running.any fun live => live.fireId = fireId then store
  else if host.maxConcurrency ≤ store.running.length then store
  else
    match store.getFire fireId with
    | none => store
    | some fire =>
      if host.perOwnerConcurrency ≤
          (store.running.filter fun live => live.ownerId = fire.ownerId).length then store
      else { store with running := store.running ++ [⟨fireId, fire.ownerId, .waiting⟩] }

/-- The coroutine ends, or is cancelled, or its process is killed. -/
def FireStore.dropLive (fireId : String) : FireStore :=
  { store with running := store.running.filter fun live => live.fireId ≠ fireId }

def FireStore.live? (fireId : String) : Option LiveFire :=
  lookup LiveFire.fireId fireId store.running

def runKind : FireTrigger → String
  | .scheduled | .healthDaily => "scheduled"
  | .webhook => "webhook"
  | _ => "test"

def failedStart (errorCode errorMessage : String) : AttemptReport :=
  ⟨none, some errorCode, errorMessage, 0, 0⟩

/-- The session of the claimed fire; `none` when `attach_automation_fire_session` raises. -/
def FireStore.fireSession (auto : Automation) (fire : AutomationFire) (draw : FireDraw) :
    Option (FireStore × AutomationFire × String) :=
  match fire.sessionId.bind fun sessionId =>
      store.sessions.find? fun session => session.id = sessionId with
  | some session => some (store, fire, session.id)
  | none =>
    ((store.createSession auto (runKind fire.triggerKind) draw).attachSession fire.id
      draw.sessionId draw.now).map fun attached => (attached.1, attached.2, draw.sessionId)

/-- `_execute_fire` as far as the conversation, for a fire that has been claimed. -/
def FireStore.prepareFire (fire : AutomationFire) (draw : FireDraw) (userKnown : Bool) :
    FireStore :=
  match store.getAutomationFor fire.automationId fire.ownerId with
  | none =>
    ((store.finishFire fire.id .deadLetter (failedStart "automation_missing" "自动化不存在")
      none draw.now).getD store).dropLive fire.id
  | some auto =>
    if !userKnown then
      match store.finishFire fire.id .deadLetter
          (failedStart "owner_missing" "运行账户不存在") none draw.now with
      | none => store.dropLive fire.id
      | some finished =>
        (finished.markAutomationRun auto.id ⟨none, some draw.now, none, some "error"⟩).dropLive
          fire.id
    else
      match store.fireSession auto fire draw with
      | none => (store.createSession auto (runKind fire.triggerKind) draw).dropLive fire.id
      | some (attached, current, sessionId) =>
        let marked := (attached.markSessionRun sessionId "running" none draw.now
          ).markAutomationRun auto.id ⟨none, none, some sessionId, some "running"⟩
        { marked with
          running := updateWhere (fun live => live.fireId = fire.id) (fun live =>
            { live with phase := .driving auto current sessionId }) marked.running }

/-- `_execute_fire` once the fire has its slot. `userKnown` tells whether the account of the
owner, or the local one, is there. -/
def FireStore.beginFire (fireId : String) (draw : FireDraw) (userKnown : Bool) : FireStore :=
  let claim := store.claimFire fireId draw.now
  match claim.2 with
  | none => claim.1.dropLive fireId
  | some fire => claim.1.prepareFire fire draw userKnown

/-- How `asyncio.wait_for` returns from the conversation. -/
inductive DriveOutcome where
  | returned
  | timedOut
  | raised (text : String)

/-- What the handlers around the conversation do to the Run of the attempt. -/
def FireStore.settleDrive (auto : Automation) (fire : AutomationFire) (outcome : DriveOutcome) :
    FireStore :=
  match outcome, store.latestAttemptRun fire with
  | .timedOut, some run =>
    if run.status = .paused then
      store.failRun run.id "automation_timeout"
        ("Automation timed out after " ++ toString auto.timeoutSec ++ "s")
    else store
  | .raised text, some run =>
    if run.status = .running ∨ run.status = .planning ∨ run.status = .paused then
      store.failRun run.id "scheduler_error" (clip 500 text)
    else store
  | _, _ => store

def attemptMessage (run : Option AttemptRun) : String :=
  match run with
  | none => "执行未产生 Run 记录"
  | some run =>
    match run.errorMessage with
    | none => "运行失败"
    | some message => if message = "" then "运行失败" else message

def attemptReport (run : Option AttemptRun) : AttemptReport where
  runId := run.map AttemptRun.id
  errorCode := run.elim (some "run_missing") AttemptRun.errorCode
  errorMessage := attemptMessage run
  promptTokens := run.elim 0 AttemptRun.promptTokens
  completionTokens := run.elim 0 AttemptRun.completionTokens

/-- `max(1, retry_backoff_sec) * (2 ** max(0, attempt - 1))` -/
def retryDelay (auto : Automation) (fire : AutomationFire) : Nat :=
  max 1 auto.retryBackoffSec * 2 ^ (fire.attempt - 1)

/-- The end of `_execute_fire` with the Run of the attempt; `none` when it raises. -/
def FireStore.closeAttempt (auto : Automation) (fire : AutomationFire) (sessionId : String)
    (run : Option AttemptRun) (now : Time) : Option FireStore :=
  let report := attemptReport run
  let summary := some (clip 500 report.errorMessage)
  if run.any fun run => run.status = .completed || run.status = .accepted then
    (store.finishFire fire.id .succeeded { report with errorCode := none, errorMessage := "" }
      none now).map fun finished =>
        (finished.markSessionRun sessionId "ok" none now).markAutomationRun auto.id
          ⟨none, some now, some sessionId, some "ok"⟩
  else if report.errorCode = some "token_budget_exceeded" ∨ fire.maxAttempts ≤ fire.attempt then
    (store.finishFire fire.id .deadLetter report (report.runId <|> fire.retryOfRunId) now).map
      fun finished =>
        (finished.markSessionRun sessionId "error" summary now).markAutomationRun auto.id
          ⟨none, some now, some sessionId, some "error"⟩
  else
    (store.scheduleRetry fire.id report (now + retryDelay auto fire) now).map fun scheduled =>
      (scheduled.markSessionRun sessionId "error" summary now).markAutomationRun auto.id
        ⟨none, some now, some sessionId, some "retrying"⟩

/-- `_execute_fire` after the conversation. -/
def FireStore.endFire (auto : Automation) (fire : AutomationFire) (sessionId : String)
    (outcome : DriveOutcome) (now : Time) : FireStore :=
  let settled := store.settleDrive auto fire outcome
  ((settled.closeAttempt auto fire sessionId (settled.latestAttemptRun fire) now).getD
    settled).dropLive fire.id

def FireStore.writeRun (fire : AutomationFire) (run : AttemptRun) : FireStore :=
  let row := { run with ownerId := fire.ownerId, idempotencyKey := attemptKey fire.id fire.attempt }
  if (store.latestAttemptRun fire).isSome then
    { store with
      runs := updateWhere (fun other => other.ownerId = row.ownerId ∧
        other.idempotencyKey = row.idempotencyKey) (fun other => { row with id := other.id })
          store.runs }
  else { store with runs := store.runs ++ [row] }

end

/-- How `resolve_project_health` ends. -/
inductive HealthResult where
  | found (health : Json)
  | notFound
  | raised

inductive FireTicket where
  | scan (now : Time) (auto : Automation) (plannedAt : Time) (rest : List Automation)
  | runNow (auto : Automation) (requestKey : String)

structure FireInput where
  health : HealthResult
  draw : String → FireDraw

section

variable (host : FireHost)

/-- The project whose health `_input_for_automation` awaits. -/
def Automation.healthProject (auto : Automation) : Option String :=
  if auto.triggerKind = .healthDaily then auto.projectId.filter (· ≠ "") else none

def healthPayload (auto : Automation) (health : Json) : Json :=
  .obj [("project_id", .str (auto.projectId.getD "")), ("project_health", health)]

/-- `f"scheduled:{int(planned_at * 1000)}"` -/
def scheduledKey (plannedAt : Time) : String :=
  "scheduled:" ++ toString (Int.tdiv (plannedAt * 1000).num (plannedAt * 1000).den)

def scheduledFire (auto : Automation) (plannedAt : Time) (payload : Option Json) : NewFire where
  automationId := auto.id
  ownerId := auto.ownerId
  fireKey := scheduledKey plannedAt
  triggerKind := if auto.triggerKind = .healthDaily then .healthDaily else .scheduled
  plannedAt := plannedAt
  maxAttempts := auto.maxAttempts
  sessionId := none
  retryOfRunId := none
  inputPayload := payload

def FireStore.createAndLaunch (store : FireStore) (request : NewFire) (draw : FireDraw) :
    Option FireStore :=
  (store.createFire request draw).map fun created => created.1.launch host created.2.1.id

/-- The loop of `_scan_once` over the due automations and its launches. It stops at the first
snapshot that it awaits, and where it raises. -/
def FireStore.scanDue (store : FireStore) (now : Time) (draw : String → FireDraw) :
    List Automation → FireStore × Option FireTicket
  | [] => ((store.listDueFires now).foldl (fun current fire => current.launch host fire.id) store,
      none)
  | auto :: rest =>
    let marked := store.markAutomationRun auto.id
      ⟨some (host.computeNextRun auto.triggerKind auto.intervalMin auto.atTime now),
        none, none, none⟩
    if auto.concurrencyPolicy = "skip" ∧ marked.hasActiveFire auto.id = true then
      marked.scanDue now draw rest
    else if auto.healthProject.isSome then (marked, some (.scan now auto auto.nextRunAt rest))
    else
      match marked.createAndLaunch host (scheduledFire auto auto.nextRunAt none) (draw auto.id) with
      | none => (marked, none)
      | some launched => launched.scanDue now draw rest

/-- The fire of a report whose project can no longer be read. -/
def FireStore.revokedFire (store : FireStore) (now : Time) (auto : Automation) (plannedAt : Time)
    (draw : FireDraw) : Option FireStore := do
  let (created, fire, new) ← store.createFire (scheduledFire auto plannedAt none) draw
  if new then
    let finished ← created.finishFire fire.id .deadLetter
      (failedStart "project_access_revoked" "自动化绑定的项目已不可访问") none draw.now
    return finished.markAutomationRun auto.id ⟨none, some now, none, some "error"⟩
  else return created

/-- `_scan_once` from the snapshot on. -/
def FireStore.scanHealth (store : FireStore) (now : Time) (auto : Automation) (plannedAt : Time)
    (rest : List Automation) (input : FireInput) : FireStore × Option FireTicket :=
  match input.health with
  | .raised => (store, none)
  | .notFound =>
    match store.revokedFire now auto plannedAt (input.draw auto.id) with
    | none => (store, none)
    | some finished => finished.scanDue host now input.draw rest
  | .found health =>
    match store.createAndLaunch host
        (scheduledFire auto plannedAt (some (healthPayload auto health))) (input.draw auto.id) with
    | none => (store, none)
    | some launched => launched.scanDue host now input.draw rest

/-- `_scan_once` after `_scan_health_transitions`. -/
def FireStore.scanOnce (store : FireStore) (now : Time) (draw : String → FireDraw) :
    FireStore × Option FireTicket :=
  let recovered := store.recoverStale now
  recovered.scanDue host now draw (recovered.listDueAutomations now)

def FireStore.openFire (store : FireStore) (auto : Automation) (fire : AutomationFire)
    (kind : String) (draw : FireDraw) : FireStore :=
  if fire.sessionId.isNone then
    match (store.createSession auto kind draw).attachSession fire.id draw.sessionId draw.now with
    | none => store.createSession auto kind draw
    | some (attached, current) =>
      (attached.markAutomationRun auto.id ⟨none, none, some draw.sessionId, some "running"⟩
        ).launch host current.id
  else store.launch host fire.id

def manualFire (auto : Automation) (requestKey : String) (now : Time) (payload : Option Json) :
    NewFire where
  automationId := auto.id
  ownerId := auto.ownerId
  fireKey := "manual:" ++ requestKey
  triggerKind := .manual
  plannedAt := now
  maxAttempts := auto.maxAttempts
  sessionId := none
  retryOfRunId := none
  inputPayload := payload

/-- `run_now` from `create_automation_fire` on. -/
def FireStore.fireNow (store : FireStore) (auto : Automation) (requestKey : String)
    (payload : Option Json) (draw : FireDraw) : FireStore :=
  match store.createFire (manualFire auto requestKey draw.now payload) draw with
  | none => store
  | some (created, fire, _) => created.openFire host auto fire "test" draw

/-- `run_now` for the automation of the endpoint's user. `requestKey` is the given key, or
the `uuid4` that stands in for it. -/
def FireStore.runNow (store : FireStore) (autoId ownerId requestKey : String) (draw : FireDraw) :
    FireStore × Option FireTicket :=
  match store.getAutomationFor autoId ownerId with
  | none => (store, none)
  | some auto =>
    if auto.concurrencyPolicy = "skip" ∧ (store.getActiveFire auto.id).isSome then (store, none)
    else
      let key := clip 120 (strip requestKey)
      if auto.healthProject.isSome then (store, some (.runNow auto key))
      else (store.fireNow host auto key none draw, none)

def webhookFire (auto : Automation) (fireKey : String) (now : Time) (payload : Json) : NewFire where
  automationId := auto.id
  ownerId := auto.ownerId
  fireKey := fireKey
  triggerKind := .webhook
  plannedAt := now
  maxAttempts := auto.maxAttempts
  sessionId := none
  retryOfRunId := none
  inputPayload := some payload

def webhookKey (webhookId idempotencyKey : String) : String :=
  "webhook:" ++ host.sha256 (webhookId ++ ":" ++ idempotencyKey)

/-- `run_webhook`, which awaits nothing. -/
def FireStore.runWebhook (store : FireStore) (autoId webhookId idempotencyKey : String)
    (payload : Json) (draw : FireDraw) : FireStore :=
  match store.getAutomation autoId with
  | none => store
  | some auto =>
    if auto.enabled = false ∨ auto.triggerKind ≠ .webhook then store
    else if (store.getFireByKey auto.id (webhookKey host webhookId idempotencyKey)).isSome then
      store
    else if auto.concurrencyPolicy = "skip" ∧ (store.getActiveFire auto.id).isSome then store
    else
      match store.createFire
          (webhookFire auto (webhookKey host webhookId idempotencyKey) draw.now payload) draw with
      | none => store
      | some (created, fire, _) => created.openFire host auto fire "webhook" draw

def replayedFire (auto : Automation) (original : AutomationFire) (requestKey : String)
    (now : Time) : NewFire where
  automationId := auto.id
  ownerId := original.ownerId
  fireKey := "replay:" ++ original.id ++ ":" ++ clip 120 (strip requestKey)
  triggerKind := .replay
  plannedAt := now
  maxAttempts := auto.maxAttempts
  sessionId := original.sessionId
  retryOfRunId := original.runId
  inputPayload := none

def FireStore.replayable (store : FireStore) (fireId ownerId : String) :
    Option (AutomationFire × Automation) := do
  let original ← store.getFireFor fireId ownerId
  if original.status = .deadLetter ∨ original.status = .ignored then
    return (original, ← store.getAutomationFor original.automationId ownerId)
  else none

/-- `replay_fire`, which awaits nothing and does not look for an active fire. -/
def FireStore.replayFire (store : FireStore) (fireId ownerId requestKey : String)
    (draw : FireDraw) : FireStore :=
  match store.replayable fireId ownerId with
  | none => store
  | some (original, auto) =>
    match store.createFire (replayedFire auto original requestKey draw.now) draw with
    | none => store
    | some (created, fire, _) =>
      if original.status = .deadLetter then
        match created.ignoreFire original.id ownerId draw.now with
        | none => created
        | some ignored => ignored.launch host fire.id
      else created.launch host fire.id

end

/-- The fields of a new automation and of a change; `some none` clears a project. -/
structure AutomationPatch where
  triggerKind : Option TriggerKind
  intervalMin : Option Int
  atTime : Option String
  projectId : Option (Option String)
  enabled : Option Bool
  timeoutSec : Option Nat
  maxAttempts : Option Nat
  retryBackoffSec : Option Nat
  concurrencyPolicy : Option String

/-- `_validate_governance` -/
def AutomationPatch.governed (patch : AutomationPatch) : Bool :=
  patch.timeoutSec.all (fun value => 1 ≤ value && value ≤ 3600) &&
    patch.maxAttempts.all (fun value => 1 ≤ value && value ≤ 10) &&
    patch.retryBackoffSec.all (fun value => 1 ≤ value && value ≤ 86400) &&
    patch.concurrencyPolicy.all (· = "skip")

section

variable (host : FireHost)

/-- `_validate` -/
def validSchedule (kind : TriggerKind) (intervalMin : Int) (atTime : String) : Bool :=
  match kind with
  | .interval => 1 ≤ intervalMin
  | .daily | .healthDaily => host.clockGiven atTime
  | .webhook => true

/-- `POST /automations` with the body's defaults. -/
def FireStore.createAutomation (store : FireStore) (autoId ownerId : String)
    (patch : AutomationPatch) (now : Time) : Option FireStore :=
  let kind := patch.triggerKind.getD .interval
  let intervalMin := patch.intervalMin.getD 60
  let atTime := patch.atTime.getD "09:00"
  let projectId := patch.projectId.getD none
  if validSchedule host kind intervalMin atTime ∧ patch.governed ∧
      (kind = .healthDaily → projectId.getD "" ≠ "") ∧
      ∀ auto ∈ store.automations, auto.id ≠ autoId then
    some { store with
      automations := store.automations ++ [{
        id := autoId, ownerId := ownerId, triggerKind := kind, intervalMin := intervalMin
        atTime := atTime, projectId := projectId, enabled := patch.enabled.getD true
        timeoutSec := patch.timeoutSec.getD 300, maxAttempts := patch.maxAttempts.getD 3
        retryBackoffSec := patch.retryBackoffSec.getD 30
        concurrencyPolicy := patch.concurrencyPolicy.getD "skip"
        nextRunAt := host.computeNextRun kind intervalMin atTime now
        lastRunAt := none, lastSessionId := none, lastStatus := none, updatedAt := now }] }
  else none

/-- `update_automation`: a touched schedule, or a task that is enabled again, is planned anew. -/
def AutomationPatch.apply (patch : AutomationPatch) (now : Time) (auto : Automation) :
    Automation :=
  let kind := patch.triggerKind.getD auto.triggerKind
  let intervalMin := patch.intervalMin.getD auto.intervalMin
  let atTime := patch.atTime.getD auto.atTime
  let touched := patch.triggerKind.isSome || patch.intervalMin.isSome || patch.atTime.isSome
  let reenabled := patch.enabled = some true && !auto.enabled
  { auto with
    triggerKind := kind, intervalMin := intervalMin, atTime := atTime
    projectId := patch.projectId.getD auto.projectId
    enabled := patch.enabled.getD auto.enabled
    timeoutSec := patch.timeoutSec.getD auto.timeoutSec
    maxAttempts := patch.maxAttempts.getD auto.maxAttempts
    retryBackoffSec := patch.retryBackoffSec.getD auto.retryBackoffSec
    concurrencyPolicy := patch.concurrencyPolicy.getD auto.concurrencyPolicy
    nextRunAt := if touched || reenabled then host.computeNextRun kind intervalMin atTime now
      else auto.nextRunAt
    updatedAt := now }

/-- `PATCH /automations/{id}` -/
def FireStore.updateAutomation (store : FireStore) (autoId ownerId : String)
    (patch : AutomationPatch) (now : Time) : Option FireStore :=
  match store.getAutomationFor autoId ownerId with
  | none => none
  | some current =>
    let merged := patch.apply host now current
    if ((patch.triggerKind.isSome ∨ patch.intervalMin.isSome ∨ patch.atTime.isSome) →
          validSchedule host merged.triggerKind merged.intervalMin merged.atTime) ∧
        patch.governed ∧
        (merged.triggerKind = .healthDaily → merged.projectId.getD "" ≠ "") then
      some { store with
        automations := updateWhere (fun auto => auto.id = autoId) (patch.apply host now)
          store.automations }
    else none

/-- `DELETE /automations/{id}`; the fires go with their automation. -/
def FireStore.deleteAutomation (store : FireStore) (autoId ownerId : String) : Option FireStore :=
  if (store.getAutomationFor autoId ownerId).isSome then
    some { store with
      automations := store.automations.filter fun auto => auto.id ≠ autoId
      fires := store.fires.filter fun fire => fire.automationId ≠ autoId }
  else none

end

inductive FireRequest where
  | createAutomation (autoId ownerId : String) (patch : AutomationPatch) (now : Time)
  | updateAutomation (autoId ownerId : String) (patch : AutomationPatch) (now : Time)
  | deleteAutomation (autoId ownerId : String)
  | deleteSession (sessionId : String)
  | scan (now : Time) (draw : String → FireDraw)
  | runNow (autoId ownerId requestKey : String) (draw : FireDraw)
  | runWebhook (autoId webhookId idempotencyKey : String) (payload : Json) (draw : FireDraw)
  | replayFire (fireId ownerId requestKey : String) (draw : FireDraw)
  | ignoreFire (fireId ownerId : String) (now : Time)
  | beginFire (fireId : String) (draw : FireDraw) (userKnown : Bool)
  | writeRun (fireId : String) (run : AttemptRun)
  | endFire (fireId : String) (outcome : DriveOutcome) (now : Time)
  | dropFire (fireId : String)

/-- What the coroutine of a fire does next; `none` when it is not at this point. -/
def FireStore.drive {Result : Type} (store : FireStore) (fireId : String)
    (go : Automation → AutomationFire → String → Result) : Option Result :=
  match store.live? fireId with
  | some ⟨_, _, .driving auto fire sessionId⟩ => some (go auto fire sessionId)
  | _ => none

def FireStore.waits (store : FireStore) (fireId : String) : Bool :=
  match store.live? fireId with
  | some ⟨_, _, .waiting⟩ => true
  | _ => false

def fireCall (host : FireHost) (store : FireStore) :
    FireRequest → Option (FireStore × Option FireTicket)
  | .createAutomation autoId ownerId patch now =>
    (store.createAutomation host autoId ownerId patch now).map fun next => (next, none)
  | .updateAutomation autoId ownerId patch now =>
    (store.updateAutomation host autoId ownerId patch now).map fun next => (next, none)
  | .deleteAutomation autoId ownerId =>
    (store.deleteAutomation autoId ownerId).map fun next => (next, none)
  | .deleteSession sessionId =>
    some ({ store with
      sessions := store.sessions.filter fun session => session.id ≠ sessionId }, none)
  | .scan now draw => some (store.scanOnce host now draw)
  | .runNow autoId ownerId requestKey draw => some (store.runNow host autoId ownerId requestKey draw)
  | .runWebhook autoId webhookId idempotencyKey payload draw =>
    some (store.runWebhook host autoId webhookId idempotencyKey payload draw, none)
  | .replayFire fireId ownerId requestKey draw =>
    some (store.replayFire host fireId ownerId requestKey draw, none)
  | .ignoreFire fireId ownerId now =>
    (store.ignoreFire fireId ownerId now).map fun next => (next, none)
  | .beginFire fireId draw userKnown =>
    if store.waits fireId then some (store.beginFire fireId draw userKnown, none) else none
  | .writeRun fireId run =>
    store.drive fireId fun _ fire _ => (store.writeRun fire run, none)
  | .endFire fireId outcome now =>
    store.drive fireId fun auto fire sessionId =>
      (store.endFire auto fire sessionId outcome now, none)
  | .dropFire fireId => some (store.dropLive fireId, none)

def fireResume (host : FireHost) (store : FireStore) (ticket : FireTicket) (input : FireInput) :
    Option (FireStore × Option FireTicket) :=
  match ticket with
  | .scan now auto plannedAt rest => some (store.scanHealth host now auto plannedAt rest input)
  | .runNow auto requestKey =>
    match input.health with
    | .found health =>
      some (store.fireNow host auto requestKey (some (healthPayload auto health))
        (input.draw auto.id), none)
    | _ => some (store, none)

def fireRoutine (host : FireHost) : Routine FireStore FireRequest FireInput FireTicket where
  call := fireCall host
  resume := fireResume host

end AgentMate.LocalFires
