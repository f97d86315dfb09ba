import AgentMate.RunStore
import Mathlib.Data.List.Sort

/-!
# The transcript a terminal event commits

`_commit_terminal_output` folds the stored events of the terminal epoch into
one assistant message, then settles the session, the automation fire and the
work item of the Run. The Run row itself is written by the caller.
-/

namespace AgentMate

open Table

variable {Hash : Type}

def orRaise {Value : Type} : Option Value → Except ProtocolError Value
  | some value => .ok value
  | none => .error .value

/-- `event_type.removeprefix("ui.")`. -/
def removeUiPrefix (eventType : String) : String :=
  (afterPrefix? "ui." eventType).getD eventType

def traceItem (text : PyText) (eventType : String) (payload : Json) :
    Except ProtocolError (Option Json) := do
  match removeUiPrefix eventType with
  | "think" =>
    return some (.obj [("kind", .str "think"), ("text", .str (payload.strField text "text"))])
  | "step" =>
    return some (.obj [("kind", .str "step"), ("tool", .str (payload.strField text "tool")),
      ("label", .str (payload.strField text "label"))])
  | "file_read" =>
    return some (.obj [("kind", .str "file_read"), ("path", .str (payload.strField text "path")),
      ("range", .str (payload.strField text "range"))])
  | "diff" =>
    let added ← orRaise (payload.intField text "add")
    let deleted ← orRaise (payload.intField text "del")
    return some (.obj [("kind", .str "diff"), ("op", .str (payload.strField text "op")),
      ("file", .str (payload.strField text "file")), ("add", .int added), ("del", .int deleted)])
  | "todo" =>
    return some (.obj [("kind", .str "todo"), ("text", .str (payload.strField text "text"))])
  | "plan_snapshot" =>
    let version ← orRaise (payload.intField text "version")
    return some (.obj [("kind", .str "plan_snapshot"), ("version", .int version),
      ("items", .arr (payload.listField "items")),
      ("project_id", (payload.get? "project_id").getD .null)])
  | "plan_patch" =>
    let version ← orRaise (payload.intField text "version")
    return some (.obj [("kind", .str "plan_patch"), ("version", .int version),
      ("items", .arr (payload.listField "items")),
      ("project_id", (payload.get? "project_id").getD .null)])
  | "qa_summary" =>
    return some (.obj [("kind", .str "qa"), ("qa", .arr (payload.listField "qa"))])
  | "context_degraded" =>
    let excerpts ← orRaise (payload.intField text "excerpt_messages")
    return some (.obj [("kind", .str "context_degraded"),
      ("reason", .str (payload.strField text "reason")), ("excerpt_messages", .int excerpts),
      ("retry_on_next_turn", .bool true)])
  | "artifact" => return some (.obj [("kind", .str "artifact"), ("artifact", payload)])
  | _ => return none

/-- `item.get("kind")`. -/
def traceKind (item : Json) : String :=
  match item.get? "kind" with
  | some (.str kind) => kind
  | _ => ""

def isPlanKind (kind : String) : Bool := kind = "plan_snapshot" || kind = "plan_patch"

/-- `{"todo", "plan_snapshot", "plan_patch"}`: what a newer plan replaces. -/
def isPlanOrTodoKind (kind : String) : Bool := kind = "todo" || isPlanKind kind

/-- `if len(trace) < 10000`. -/
def traceCap : Nat := 10000

/-- A trace item joins the trace: a plan replaces the todos and plans before it. -/
def appendTraceItem (trace : List Json) (item : Json) : List Json :=
  let kept := if isPlanKind (traceKind item) then
      trace.filter fun other => !isPlanOrTodoKind (traceKind other)
    else trace
  if kept.length < traceCap then kept ++ [item] else kept

structure OutputFold where
  content : List String
  trace : List Json
  usage : Option Usage
  streamError : String

def OutputFold.start : OutputFold := ⟨[], [], none, ""⟩

def foldOutput (text : PyText) (fold : OutputFold) (eventType : String) (payload : Json) :
    Except ProtocolError OutputFold :=
  if eventType = "ui.text" then
    .ok { fold with content := fold.content ++ [payload.strField text "md"] }
  else if eventType = "ui.usage" then do
    let detail := payload.dictField "detail"
    let prompt ← orRaise (match detail.getTruthy "prompt_tokens" with
      | some value => value.pyInt text
      | none => payload.intField text "used")
    let completion ← orRaise (detail.intField text "completion_tokens")
    return { fold with usage := some ⟨prompt, completion⟩ }
  else if eventType = "ui.error" then
    .ok { fold with streamError := clip 20000 (payload.strField text "message") }
  else do
    match ← traceItem text eventType payload with
    | none => return fold
    | some item => return { fold with trace := appendTraceItem fold.trace item }

/-- `SELECT .. FROM run_events WHERE run_id=? AND lease_epoch=? ORDER BY sequence`. -/
def epochEvents (events : List (EventRow Hash)) (runId : String) (epoch : Nat) :
    List (EventRow Hash) :=
  (events.filter fun row => row.runId = runId && row.leaseEpoch = epoch).insertionSort
    fun left right => left.sequence ≤ right.sequence

def foldEpoch (text : PyText) (rows : List (EventRow Hash)) : Except ProtocolError OutputFold :=
  rows.foldlM (fun fold row => foldOutput text fold row.eventType row.payload) OutputFold.start

/-- `automation_scheduler.finish_run`. -/
def finishRun (business : Business) (runId ownerId : String) (failed cancelled : Bool)
    (errorCode errorMessage : String) (usage : Usage) (now : Time) : Business :=
  match business.fires.find? fun fire => fire.runId = runId && fire.ownerId = ownerId with
  | none => business
  | some fire =>
    match lookup Automation.id fire.automationId business.automations with
    | none => business
    | some automation =>
      let backoff := if automation.retryBackoffSec = 0 then 30 else automation.retryBackoffSec
      let delay : Time := (backoff * 2 ^ (fire.attempt - 1) : Nat)
      let (status, nextAttemptAt, finishedAt, automationStatus) :
          FireStatus × Option Time × Time × AutomationStatus :=
        if cancelled then (.ignored, none, now, .cancelled)
        else if !failed then (.succeeded, none, now, .ok)
        else if fire.attempt < fire.maxAttempts then
          (.retryWait, some (now + delay), 0, .retrying)
        else (.deadLetter, none, now, .error)
      { business with
        fires := updateWhere (fun row => row.id = fire.id) (fun row => { row with
            status := status, errorCode := clip 200 errorCode
            errorMessage := clip 20000 errorMessage
            promptTokens := usage.prompt, completionTokens := usage.completion
            nextAttemptAt := nextAttemptAt, updatedAt := now, finishedAt := finishedAt })
          business.fires
        automations := updateWhere
          (fun row => row.id = fire.automationId ∧ row.ownerId = ownerId ∧ row.deletedAt = 0)
          (fun row => { row with
            lastStatus := some automationStatus, updatedAt := now, version := row.version + 1 })
          business.automations }

def assistantMessage (messages : List Message) (runId : String) : Option Message :=
  ((messages.filter fun message => message.runId = runId && message.role = .assistant).insertionSort
    fun left right => left.sequence ≤ right.sequence).head?

/-- `SELECT COALESCE(MAX(sequence),0)+1 FROM business_messages WHERE session_id=?`. -/
def nextMessageSequence (messages : List Message) (sessionId : String) : Nat :=
  (messages.filter fun message => message.sessionId = sessionId).foldl
    (fun highest message => max highest message.sequence) 0 + 1

/-- The work item of a finished Run waits for review or is handed back. -/
def settleWorkItem (business : Business) (run : Run) (failed cancelled : Bool) (now : Time) :
    Business :=
  match run.workItemId, run.projectId with
  | some workItemId, some projectId =>
    if workItemId = "" ∨ projectId = "" then business
    else
      let delivered := business.assets.any fun asset =>
        asset.runId = run.id && asset.projectId = projectId && asset.deletedAt = 0 &&
          asset.committed && asset.verified
      let next : WorkItemStatus :=
        if failed || cancelled || !delivered then .paused else .review
      { business with
        workItems := updateWhere (fun item => item.id = workItemId ∧ item.projectId = projectId ∧
            item.status ≠ .done ∧ item.status ≠ next)
          (fun item => { item with status := next, updatedAt := now }) business.workItems }
  | _, _ => business

/-- The event that ends a Run, as `_commit_terminal_output` reads it. -/
structure TerminalEvent where
  eventId : String
  leaseEpoch : Nat
  payload : Json

structure TerminalOutput where
  promptTokens : Int
  completionTokens : Int
  errorMessage : String

/-- `terminal_error`. -/
def terminalErrorText (text : PyText) (event : TerminalEvent) (fold : OutputFold) : String :=
  clip 20000 ((event.payload.getTruthy "error_message").elim fold.streamError (Json.pyStr text))

def terminalMessage (messages : List Message) (run : Run) (eventId : String) (fold : OutputFold)
    (terminalError : String) (now : Time) : Message :=
  { sessionId := run.sessionId, ownerId := run.ownerId, runId := run.id, role := .assistant
    content := String.join fold.content, actorId := "assistant", trace := fold.trace
    usage := fold.usage, error := if terminalError = "" then none else some terminalError
    sequence := nextMessageSequence messages run.sessionId
    clientRequestId := "run-terminal:" ++ run.id, requestHash := eventId, createdAt := now }

def storeAssistant (messages : List Message) (message : Message) : List Message :=
  match assistantMessage messages message.runId with
  | none => messages ++ [message]
  | some _ => messages

def commitTerminalOutput (text : PyText) (events : List (EventRow Hash)) (business : Business)
    (run : Run) (event : TerminalEvent) (failed cancelled : Bool) (now : Time) :
    Except ProtocolError (TerminalOutput × Business) := do
  let fold ← foldEpoch text (epochEvents events run.id event.leaseEpoch)
  let terminalError := terminalErrorText text event fold
  let usage := fold.usage.getD ⟨0, 0⟩
  let messages := storeAssistant business.messages
    (terminalMessage business.messages run event.eventId fold terminalError now)
  let sessions := updateWhere (fun session => session.id = run.sessionId)
    (fun session => { session with
      status := if failed && !cancelled then .error else .done
      updatedAt := now, version := session.version + 1 }) business.sessions
  let committed := { business with messages := messages, sessions := sessions }
  let automationId := run.requestSnapshot.strField text "automation_id"
  let finished :=
    if automationId = "" then committed
    else finishRun { committed with
        automations := updateWhere
          (fun row => row.id = automationId ∧ row.ownerId = run.ownerId ∧ row.deletedAt = 0)
          (fun row => { row with
            lastRunAt := now, lastSessionId := run.sessionId
            lastStatus := some (if failed then .error else .ok)
            updatedAt := now, version := row.version + 1 }) committed.automations }
      run.id run.ownerId failed cancelled
      ((event.payload.getTruthy "error_code").elim (if failed then "run_failed" else "")
        (Json.pyStr text))
      terminalError usage now
  return (⟨usage.prompt, usage.completion, terminalError⟩,
    settleWorkItem finished run failed cancelled now)

end AgentMate
