import AgentMate.TerminalOutput

/-!
# Display events in the client

`checkedSSEEvent` lets a stored display event through when its payload has the
fields that its type needs; `foldResumedRunEvent` folds it into the assistant
message on screen. A property that is `undefined` is one the object does not have.
-/

namespace AgentMate

namespace Json

mutual

/-- `JSON.parse` of a text that the Server wrote. A number is a double: `toNumber`
rounds an integer numeral, and a numeral without a fraction is an integer. -/
def parsed (toNumber : Int → Int) : Json → Json
  | .int value => .int (toNumber value)
  | .float value =>
    if value.value.den = 1 then .int (toNumber value.value.num) else .float value
  | .arr items => .arr (parsedItems toNumber items)
  | .obj fields => .obj (parsedFields toNumber fields)
  | value => value

def parsedItems (toNumber : Int → Int) : List Json → List Json
  | [] => []
  | item :: rest => item.parsed toNumber :: parsedItems toNumber rest

def parsedFields (toNumber : Int → Int) : List (String × Json) → List (String × Json)
  | [] => []
  | (key, value) :: rest => (key, value.parsed toNumber) :: parsedFields toNumber rest

end

/-- `typeof value[key] === 'string'`. -/
def hasText (key : String) (value : Json) : Bool :=
  match value.get? key with
  | some (.str _) => true
  | _ => false

/-- `typeof value[key] === 'number' && Number.isFinite(value[key])`. -/
def hasNumber (key : String) (value : Json) : Bool :=
  match value.get? key with
  | some (.int _) | some (.float _) => true
  | _ => false

/-- `Array.isArray(value[key])`. -/
def hasArray (key : String) (value : Json) : Bool :=
  match value.get? key with
  | some (.arr _) => true
  | _ => false

/-- `record(value) !== null`. -/
def isRecord : Json → Bool
  | .obj _ => true
  | _ => false

def textAt (key : String) (value : Json) : String :=
  match value.get? key with
  | some (.str text) => text
  | _ => ""

def elements : Json → List Json
  | .arr items => items
  | _ => []

/-- `value.key`, where the property was checked to be there. -/
def property (key : String) (value : Json) : Json := (value.get? key).getD .null

/-- `{ ...base, ...value }`: a property of `value` hides that of `base`. -/
def spread (base : List (String × Json)) : Json → Json
  | .obj fields => .obj (fields ++ base)
  | _ => .obj base

theorem spread_get (key : String) (base : List (String × Json)) (value : Json) :
    (value.spread base).get? key = (value.get? key).or ((Json.obj base).get? key) := by
  cases value with
  | obj fields =>
    simp only [Json.spread, Json.get?]
    rw [List.find?_append, Option.map_or]
  | _ => rfl

end Json

def jsObject (fields : List (String × Option Json)) : Json :=
  .obj (fields.filterMap fun field => field.2.map fun value => (field.1, value))

/-- `SSE_EVENT_TYPES`. -/
inductive SSEType where
  | session | status | run | think | step | fileRead | diff | todo | planSnapshot | planPatch
  | text | askUser | qaSummary | contextDegraded | artifact | workItem | usage | error | done
  deriving DecidableEq, Repr

def sseType? : String → Option SSEType
  | "session" => some .session
  | "status" => some .status
  | "run" => some .run
  | "think" => some .think
  | "step" => some .step
  | "file_read" => some .fileRead
  | "diff" => some .diff
  | "todo" => some .todo
  | "plan_snapshot" => some .planSnapshot
  | "plan_patch" => some .planPatch
  | "text" => some .text
  | "ask_user" => some .askUser
  | "qa_summary" => some .qaSummary
  | "context_degraded" => some .contextDegraded
  | "artifact" => some .artifact
  | "work_item" => some .workItem
  | "usage" => some .usage
  | "error" => some .error
  | "done" => some .done
  | _ => none

/-- `SSEEvent`: what the wire carried and `checkedSSEEvent` let through, or an event
that the client makes while it follows a Run (`CLIENT_EVENT_TYPES`). -/
inductive SSEEvent where
  | checked (type : SSEType) (data : Json)
  | runRecovered (leaseEpoch : Nat)
  | runState (status : RunStatus)

/-- The `switch` of `checkedSSEEvent`. -/
def SSEType.valid (value : Json) : SSEType → Bool
  | .session => value.hasText "id" && value.hasText "title"
  | .status => value.textAt "state" = "running" || value.textAt "state" = "done"
  | .run => (value.get? "run").any Json.isRecord
  | .think | .todo => value.hasText "text"
  | .step => value.hasText "tool" && value.hasText "label"
  | .fileRead => value.hasText "path" && value.hasText "range"
  | .diff => value.hasText "op" && value.hasText "file" && value.hasNumber "add" &&
      value.hasNumber "del"
  | .planSnapshot | .planPatch => value.hasNumber "version" && value.hasArray "items"
  | .text => value.hasText "md"
  | .askUser => value.hasArray "questions"
  | .qaSummary => value.hasArray "qa"
  | .contextDegraded => value.hasText "reason" && value.hasNumber "excerpt_messages" &&
      match value.get? "retry_on_next_turn" with
      | some (.bool true) => true
      | _ => false
  | .artifact => value.hasText "name" && value.hasText "size" && value.hasText "path"
  | .workItem => (value.get? "item").any Json.isRecord
  | .usage => value.hasNumber "pct" && value.hasNumber "used" &&
      (value.get? "detail").any Json.isRecord
  | .error => value.hasText "message"
  | .done => (value.get? "message_id").isNone || value.hasText "message_id"

def checkedSSEEvent (type : String) (data : Json) : Option SSEEvent :=
  match sseType? type with
  | none => none
  | some known => if data.isRecord && known.valid data then some (.checked known data) else none

inductive MessageStatus where
  | running | done
  deriving DecidableEq, Repr

/-- The fields of `ChatMessage` that the fold reads or writes. -/
structure ChatMessage where
  id : String
  content : String
  trace : List Json
  artifacts : List Json
  error : Option String
  status : MessageStatus
  runStatus : Option RunStatus
  secs : Option Json

def runPlanItem (kind : String) (version items : Json) (projectId : Option Json) : Json :=
  jsObject [("kind", some (.str kind)), ("version", some version), ("items", some items),
    ("project_id", projectId)]

def withRunPlan (trace : List Json) (version items : Json) (projectId : Option Json)
    (kind : String) : List Json :=
  if items.elements.isEmpty && !version.truthy then trace
  else (trace.filter fun item => !isPlanOrTodoKind (traceKind item)) ++
    [runPlanItem kind version items projectId]

def foldResumedRunEvent (message : ChatMessage) : SSEEvent → ChatMessage
  | .runRecovered _ => { message with
      content := "", trace := [], artifacts := [], error := none, status := .running
      runStatus := some .running }
  | .runState status => { message with
      status := if status.isTerminal then .done else .running, runStatus := some status }
  | .checked .text data => { message with content := message.content ++ data.textAt "md" }
  | .checked .think data => { message with
      trace := message.trace ++
        [jsObject [("kind", some (.str "think")), ("text", data.get? "text")]] }
  | .checked .step data => { message with
      trace := message.trace ++ [jsObject [("kind", some (.str "step")),
        ("tool", data.get? "tool"), ("label", data.get? "label")]] }
  | .checked .fileRead data => { message with
      trace := message.trace ++ [jsObject [("kind", some (.str "file_read")),
        ("path", data.get? "path"), ("range", data.get? "range")]] }
  | .checked .diff data => { message with
      trace := message.trace ++ [data.spread [("kind", .str "diff")]] }
  | .checked .todo data => { message with
      trace := message.trace ++
        [jsObject [("kind", some (.str "todo")), ("text", data.get? "text")]] }
  | .checked .planSnapshot data => { message with
      trace := withRunPlan message.trace (data.property "version") (data.property "items")
        (data.get? "project_id") "plan_snapshot" }
  | .checked .planPatch data => { message with
      trace := withRunPlan message.trace (data.property "version") (data.property "items")
        (data.get? "project_id") "plan_patch" }
  | .checked .artifact data => { message with
      artifacts := message.artifacts ++ [data]
      trace := message.trace ++
        [jsObject [("kind", some (.str "artifact")), ("artifact", some data)]] }
  | .checked .qaSummary data => { message with
      trace := message.trace ++ [jsObject [("kind", some (.str "qa")), ("qa", data.get? "qa")]] }
  | .checked .contextDegraded data => { message with
      trace := message.trace ++ [data.spread [("kind", .str "context_degraded")]] }
  | .checked .status data => { message with
      status := if data.textAt "state" = "running" then .running else .done
      secs := match data.get? "secs" with
        | none | some .null => message.secs
        | some secs => some secs }
  | .checked .error data => { message with
      error := some (data.textAt "message"), status := .done, runStatus := some .failed }
  | .checked .done data => { message with
      id := if data.textAt "message_id" = "" then message.id else data.textAt "message_id"
      status := .done
      runStatus :=
        if message.runStatus = some .failed ∨ message.runStatus = some .cancelled then
          message.runStatus
        else some .completed }
  | .checked _ _ => message

end AgentMate
