import AgentMate.LiveEvents

/-!
# The two folds of the client

While a message is sent, the handler in `send` folds the events of its Run; after a session is
opened again, `foldResumedRunEvent` does. The handler keeps a flag beside the message, finds the
message by the name it began with, and knows an event that the other fold does not.
-/

namespace AgentMate

open List

def Json.jsTruthy : Json → Bool
  | .null => false
  | .bool value => value
  | .int value => value ≠ 0
  | .float value => value.value ≠ 0
  | .str text => text ≠ ""
  | .arr _ => true
  | .obj _ => true

/-- The truth of `items.length`. -/
def Json.hasLength : Json → Bool
  | .arr items => !items.isEmpty
  | .str text => text ≠ ""
  | value => (value.get? "length").any Json.jsTruthy

/-- `withRunPlan` of the plan of a Run; `none` where the Run has no plan to ask for its length. -/
def withPlanOfRun (trace : List Json) (run : Json) : Option (List Json) :=
  match run.get? "plan" with
  | none | some .null => none
  | some items =>
    some (if !items.hasLength && !(run.get? "plan_version").any Json.jsTruthy then trace
      else (trace.filter fun item => !isPlanOrTodoKind (traceKind item)) ++
        [jsObject [("kind", some (.str "plan_snapshot")), ("version", run.get? "plan_version"),
          ("items", some items), ("project_id", run.get? "project_id")]])

/-- The bot message and the variables that `onEvent` closes over. -/
structure SendState where
  botId : String
  message : ChatMessage
  errored : Bool

/-- `patchBot`: a message that has got another name is not found. -/
def SendState.patchBot (state : SendState) (patch : ChatMessage → ChatMessage) : SendState :=
  if state.message.id = state.botId then { state with message := patch state.message } else state

def ChatMessage.addTrace (item : Json) (message : ChatMessage) : ChatMessage :=
  { message with trace := message.trace ++ [item] }

/-- `onEvent` in `send`; `none` is an exception. -/
def SendState.onEvent (state : SendState) : SSEEvent → Option SendState
  | .checked .run data =>
    let run := data.property "run"
    if state.message.id = state.botId then
      (withPlanOfRun state.message.trace run).map fun trace =>
        { state with message := { state.message with runStatus := some .running, trace := trace } }
    else some state
  | .runRecovered _ => some (state.patchBot fun message => { message with
      content := "", trace := [], artifacts := [], error := none, status := .running
      runStatus := some .running })
  | .runState status => some (state.patchBot fun message => { message with
      status := if status.isTerminal then .done else .running, runStatus := some status })
  | .checked .text data => some (state.patchBot fun message => { message with
      content := message.content ++ data.textAt "md" })
  | .checked .think data => some (state.patchBot (ChatMessage.addTrace
      (jsObject [("kind", some (.str "think")), ("text", data.get? "text")])))
  | .checked .step data => some (state.patchBot (ChatMessage.addTrace
      (jsObject [("kind", some (.str "step")), ("tool", data.get? "tool"),
        ("label", data.get? "label")])))
  | .checked .fileRead data => some (state.patchBot (ChatMessage.addTrace
      (jsObject [("kind", some (.str "file_read")), ("path", data.get? "path"),
        ("range", data.get? "range")])))
  | .checked .diff data => some (state.patchBot (ChatMessage.addTrace
      (jsObject [("kind", some (.str "diff")), ("op", data.get? "op"), ("file", data.get? "file"),
        ("add", data.get? "add"), ("del", data.get? "del")])))
  | .checked .todo data => some (state.patchBot (ChatMessage.addTrace
      (jsObject [("kind", some (.str "todo")), ("text", data.get? "text")])))
  | .checked .planSnapshot data => some (state.patchBot fun message => { message with
      trace := withRunPlan message.trace (data.property "version") (data.property "items")
        (data.get? "project_id") "plan_snapshot" })
  | .checked .planPatch data => some (state.patchBot fun message => { message with
      trace := withRunPlan message.trace (data.property "version") (data.property "items")
        (data.get? "project_id") "plan_patch" })
  | .checked .artifact data => some (state.patchBot fun message => { message with
      artifacts := message.artifacts ++ [data]
      trace := message.trace ++
        [jsObject [("kind", some (.str "artifact")), ("artifact", some data)]] })
  | .checked .qaSummary data => some (state.patchBot (ChatMessage.addTrace
      (jsObject [("kind", some (.str "qa")), ("qa", data.get? "qa")])))
  | .checked .contextDegraded data => some (state.patchBot (ChatMessage.addTrace
      (jsObject [("kind", some (.str "context_degraded")), ("reason", data.get? "reason"),
        ("excerpt_messages", data.get? "excerpt_messages"),
        ("retry_on_next_turn", some (.bool true))])))
  | .checked .status data => some (state.patchBot fun message => { message with
      status := if data.textAt "state" = "running" then .running else .done
      secs := match data.get? "secs" with
        | none | some .null => message.secs
        | some secs => some secs })
  | .checked .error data => some ({ state with errored := true }.patchBot fun message =>
    { message with error := some (data.textAt "message"), status := .done
                   runStatus := some .failed })
  | .checked .done data => some (state.patchBot fun message => { message with
      id := if data.textAt "message_id" = "" then message.id else data.textAt "message_id"
      status := .done
      runStatus := if state.errored then message.runStatus else some .completed })
  | .checked .session _ | .checked .askUser _ | .checked .workItem _ | .checked .usage _ =>
    some state

def Json.Alike (left right : Json) : Prop := ∀ key, left.get? key = right.get? key

structure SameView (left right : ChatMessage) : Prop where
  content : left.content = right.content
  trace : List.Forall₂ Json.Alike left.trace right.trace
  artifacts : left.artifacts = right.artifacts
  status : left.status = right.status
  runStatus : left.runStatus = right.runStatus
  error : left.error = right.error

theorem alike_refl (value : Json) : value.Alike value := fun _ => rfl

theorem same_trace_refl (trace : List Json) : List.Forall₂ Json.Alike trace trace := by
  induction trace with
  | nil => exact .nil
  | cons item rest ih => exact .cons (alike_refl item) ih

theorem same_view_refl (message : ChatMessage) : SameView message message :=
  ⟨rfl, same_trace_refl _, rfl, rfl, rfl, rfl⟩

theorem alike_kind {left right : Json} (alike : left.Alike right) :
    traceKind left = traceKind right := by
  rw [traceKind, traceKind, alike "kind"]

variable {left right : List Json}

theorem same_trace_append {item other : Json}
    (same : List.Forall₂ Json.Alike left right) (alike : item.Alike other) :
    List.Forall₂ Json.Alike (left ++ [item]) (right ++ [other]) := by
  induction same with
  | nil => exact .cons alike .nil
  | cons first _ ih => exact .cons first ih

theorem same_trace_filter (same : List.Forall₂ Json.Alike left right) :
    List.Forall₂ Json.Alike (left.filter fun item => !isPlanOrTodoKind (traceKind item))
      (right.filter fun item => !isPlanOrTodoKind (traceKind item)) := by
  induction same with
  | nil => exact .nil
  | cons first _ ih =>
    rw [filter_cons, filter_cons, alike_kind first]
    split
    · exact .cons first ih
    · exact ih

theorem same_trace_plan (same : List.Forall₂ Json.Alike left right)
    (version items : Json) (projectId : Option Json) (kind : String) :
    List.Forall₂ Json.Alike (withRunPlan left version items projectId kind)
      (withRunPlan right version items projectId kind) := by
  rw [withRunPlan, withRunPlan]
  split
  · exact same
  · exact same_trace_append (same_trace_filter same) (alike_refl _)

section

def picked (keys : List String) (value : Json) : List (String × Option Json) :=
  keys.map fun key => (key, value.get? key)

theorem get_js_object_cons (name key : String) (held : Option Json)
    (fields : List (String × Option Json)) :
    (jsObject ((name, held) :: fields)).get? key =
      (if name = key then held else none).or ((jsObject fields).get? key) := by
  cases held with
  | none => simp [jsObject, Json.get?]
  | some held => by_cases own : name = key <;> simp [jsObject, Json.get?, own]

theorem get_picked (keys : List String) (value : Json) (key : String) :
    (jsObject (picked keys value)).get? key = if key ∈ keys then value.get? key else none := by
  induction keys with
  | nil => rfl
  | cons first rest ih =>
    rw [picked, map_cons, ← picked, get_js_object_cons, ih]
    by_cases own : first = key
    · subst own
      cases found : value.get? first <;> simp
    · simp [own, Ne.symm own]

def Json.Only (keys : List String) (value : Json) : Prop :=
  ∀ key, (value.get? key).isSome → key ∈ keys

theorem spread_alike {kind : String} {keys : List String} {value : Json}
    (only : value.Only keys) (fresh : "kind" ∉ keys) :
    (jsObject (("kind", some (.str kind)) :: picked keys value)).Alike
      (value.spread [("kind", .str kind)]) := by
  intro key
  have absent (unlisted : key ∉ keys) : value.get? key = none := by
    rw [← Option.not_isSome_iff_eq_none]
    exact fun present => unlisted (only key present)
  rw [get_js_object_cons, get_picked, Json.spread_get]
  by_cases own : "kind" = key
  · rw [absent (own ▸ fresh)]
    simp [own, Json.get?]
  · by_cases listed : key ∈ keys
    · simp [own, listed, Json.get?]
    · rw [absent listed]
      simp [own, listed, Json.get?]

end

/-- What `followServerRun` hands on: a checked event, or one that it makes. -/
def SSEEvent.Followed : SSEEvent → Prop
  | .checked type data => data.isRecord = true ∧ type.valid data = true
  | _ => True

def SSEEvent.silent : SSEEvent → Bool
  | .checked .session _ | .checked .askUser _ | .checked .workItem _ | .checked .usage _ => true
  | _ => false

def ended (runStatus : Option RunStatus) : Bool :=
  runStatus = some .failed || runStatus = some .cancelled

/-- The state and the event do not show how the folds differ. -/
def SendState.Even (state : SendState) (event : SSEEvent) : Prop :=
  (event.silent = true ∨ state.message.id = state.botId) ∧
    match event with
    | .checked .run _ => False
    | .checked .diff data => data.Only ["op", "file", "add", "del"]
    | .checked .contextDegraded data =>
      data.Only ["reason", "excerpt_messages", "retry_on_next_turn"]
    | .checked .done _ => state.errored = ended state.message.runStatus ∨
        (state.errored = true ∧ state.message.runStatus = some .completed)
    | _ => True

variable {state next : SendState} {resumed : ChatMessage} {event : SSEEvent}

theorem patch_bot_found (found : state.message.id = state.botId)
    (patch : ChatMessage → ChatMessage) :
    state.patchBot patch = { state with message := patch state.message } := if_pos found

theorem add_trace_same {item other : Json} (same : SameView state.message resumed)
    (found : state.message.id = state.botId) (alike : item.Alike other) :
    SameView (state.patchBot (ChatMessage.addTrace item)).message
      { resumed with trace := resumed.trace ++ [other] } := by
  rw [patch_bot_found found]
  exact { same with trace := same_trace_append same.trace alike }

theorem context_degraded_alike {data : Json} (valid : SSEType.contextDegraded.valid data = true)
    (only : data.Only ["reason", "excerpt_messages", "retry_on_next_turn"]) :
    (jsObject [("kind", some (.str "context_degraded")), ("reason", data.get? "reason"),
      ("excerpt_messages", data.get? "excerpt_messages"),
      ("retry_on_next_turn", some (.bool true))]).Alike
        (data.spread [("kind", .str "context_degraded")]) := by
  have retry : data.get? "retry_on_next_turn" = some (.bool true) := by
    simp only [SSEType.valid, Bool.and_eq_true] at valid
    have checked := valid.2
    split at checked
    · assumption
    · cases checked
  have drawn : (jsObject (("kind", some (.str "context_degraded")) ::
      picked ["reason", "excerpt_messages", "retry_on_next_turn"] data)).Alike
        (data.spread [("kind", .str "context_degraded")]) := spread_alike only (by decide)
  rw [picked] at drawn
  simp only [map_cons, map_nil, retry] at drawn
  exact drawn

/-- The two folds write one `runStatus` at a `done` event exactly where the state is even. -/
theorem done_run_status_iff {errored : Bool} {runStatus : Option RunStatus} :
    ((if errored then runStatus else some RunStatus.completed) =
      if runStatus = some .failed ∨ runStatus = some .cancelled then runStatus
      else some .completed) ↔
    errored = ended runStatus ∨ (errored = true ∧ runStatus = some .completed) := by
  by_cases closed : runStatus = some .failed ∨ runStatus = some .cancelled
  · have last : ended runStatus = true := by
      rcases closed with rfl | rfl
      · rfl
      · rfl
    have other : runStatus ≠ some .completed := by
      rintro rfl
      simp at closed
    cases errored with
    | true => simp [closed, last]
    | false => simp [closed, last, other.symm]
  · have going : ended runStatus = false := by
      simpa [ended, not_or] using closed
    cases errored with
    | true => simp [closed, going]
    | false => simp [closed, going]

theorem silent_event (silent : event.silent = true) :
    state.onEvent event = some state ∧ foldResumedRunEvent resumed event = resumed := by
  cases event with
  | runRecovered => cases silent
  | runState => cases silent
  | checked type data => cases type <;> first | exact ⟨rfl, rfl⟩ | cases silent

theorem even_event_same (same : SameView state.message resumed) (followed : event.Followed)
    (even : state.Even event) :
    ∃ next, state.onEvent event = some next ∧
      SameView next.message (foldResumedRunEvent resumed event) := by
  obtain ⟨placed, even⟩ := even
  rcases placed with silent | found
  · obtain ⟨handled, kept⟩ : state.onEvent event = some state ∧
        foldResumedRunEvent resumed event = resumed := silent_event silent
    rw [kept]
    exact ⟨state, handled, same⟩
  cases event with
  | runRecovered leaseEpoch =>
    refine ⟨_, rfl, ?_⟩
    rw [patch_bot_found found]
    exact ⟨rfl, .nil, rfl, rfl, rfl, rfl⟩
  | runState status =>
    refine ⟨_, rfl, ?_⟩
    rw [patch_bot_found found]
    exact { same with status := rfl, runStatus := rfl }
  | checked type data =>
    cases type with
    | session => exact ⟨state, rfl, same⟩
    | askUser => exact ⟨state, rfl, same⟩
    | workItem => exact ⟨state, rfl, same⟩
    | usage => exact ⟨state, rfl, same⟩
    | run => exact absurd even id
    | status =>
      refine ⟨_, rfl, ?_⟩
      rw [patch_bot_found found]
      exact { same with status := rfl }
    | think => exact ⟨_, rfl, add_trace_same same found (alike_refl _)⟩
    | step => exact ⟨_, rfl, add_trace_same same found (alike_refl _)⟩
    | fileRead => exact ⟨_, rfl, add_trace_same same found (alike_refl _)⟩
    | todo => exact ⟨_, rfl, add_trace_same same found (alike_refl _)⟩
    | qaSummary => exact ⟨_, rfl, add_trace_same same found (alike_refl _)⟩
    | diff => exact ⟨_, rfl, add_trace_same same found (spread_alike even (by decide))⟩
    | contextDegraded =>
      exact ⟨_, rfl, add_trace_same same found (context_degraded_alike followed.2 even)⟩
    | planSnapshot =>
      refine ⟨_, rfl, ?_⟩
      rw [patch_bot_found found]
      exact { same with trace := same_trace_plan same.trace _ _ _ _ }
    | planPatch =>
      refine ⟨_, rfl, ?_⟩
      rw [patch_bot_found found]
      exact { same with trace := same_trace_plan same.trace _ _ _ _ }
    | artifact =>
      refine ⟨_, rfl, ?_⟩
      rw [patch_bot_found found]
      exact { same with
        trace := same_trace_append same.trace (alike_refl _)
        artifacts := congrArg (· ++ [data]) same.artifacts }
    | text =>
      refine ⟨_, rfl, ?_⟩
      rw [patch_bot_found found]
      exact { same with content := congrArg (· ++ data.textAt "md") same.content }
    | error =>
      refine ⟨{ state with
        errored := true
        message := { state.message with
          error := some (data.textAt "message"), status := .done
          runStatus := some .failed } }, ?_, ?_⟩
      · exact congrArg some (if_pos found)
      · exact { same with error := rfl, status := rfl, runStatus := rfl }
    | done =>
      refine ⟨_, rfl, ?_⟩
      rw [patch_bot_found found]
      exact { same with
        status := rfl
        runStatus := (done_run_status_iff.mpr even).trans (by rw [same.runStatus]; rfl) }

def SendState.AllEven (state : SendState) : List SSEEvent → Prop
  | [] => True
  | event :: rest => state.Even event ∧
      ∀ next, state.onEvent event = some next → next.AllEven rest

theorem even_events_same (events : List SSEEvent) (same : SameView state.message resumed)
    (followed : ∀ event ∈ events, event.Followed) (even : state.AllEven events) :
    ∃ final, events.foldlM SendState.onEvent state = some final ∧
      SameView final.message (events.foldl foldResumedRunEvent resumed) := by
  induction events generalizing state resumed with
  | nil => exact ⟨state, rfl, same⟩
  | cons event rest ih =>
    obtain ⟨now, later⟩ := even
    obtain ⟨next, handled, agree⟩ :=
      even_event_same same (followed event mem_cons_self) now
    obtain ⟨final, run, equal⟩ := ih agree
      (fun other mem => followed other (mem_cons_of_mem _ mem)) (later next handled)
    refine ⟨final, ?_, equal⟩
    rw [foldlM_cons, handled]
    exact run

theorem all_even_cons {rest : List SSEEvent} (even : state.Even event)
    (handled : state.onEvent event = some next) (later : next.AllEven rest) :
    state.AllEven (event :: rest) := by
  refine ⟨even, ?_⟩
  intro other same
  cases handled.symm.trans same
  exact later

theorem all_even_front {front rest : List SSEEvent} (even : state.AllEven (front ++ rest)) :
    state.AllEven front := by
  induction front generalizing state with
  | nil => trivial
  | cons event front ih => exact ⟨even.1, fun next handled => ih (even.2 next handled)⟩

/-- The status that the last `run_state` event tells, and the events after it. -/
def lastState : List SSEEvent → Option (RunStatus × List SSEEvent)
  | [] => none
  | .runState status :: rest => some ((lastState rest).getD (status, rest))
  | _ :: rest => lastState rest

/-- An event that writes another `runStatus` over a terminal one. -/
def SSEEvent.overrides : SSEEvent → Bool
  | .checked .error _ | .runRecovered _ => true
  | _ => false

/-- A `run_recovered` event comes after an `error` event. -/
def RecoveredAfterError (events : List SSEEvent) : Prop :=
  ∃ before after, events = before ++ after ∧ (∃ data, .checked .error data ∈ before) ∧
    ∃ leaseEpoch, .runRecovered leaseEpoch ∈ after

/-- No event writes over the status of a cancelled Run, nor over that of a completed one which
recovered after an error. -/
structure OutcomeKept (events : List SSEEvent) : Prop where
  cancelled : ∀ later, lastState events = some (.cancelled, later) →
    ∀ event ∈ later, event.overrides = false
  recovered : RecoveredAfterError events → ∀ later, lastState events = some (.completed, later) →
    ∀ event ∈ later, event.overrides = false

theorem last_state_split {events later : List SSEEvent} {status : RunStatus}
    (last : lastState events = some (status, later)) :
    ∃ before, events = before ++ .runState status :: later ∧ lastState later = none := by
  induction events with
  | nil => cases last
  | cons event rest ih =>
    have deeper (found : lastState rest = some (status, later)) :
        ∃ before, event :: rest = before ++ .runState status :: later ∧ lastState later = none := by
      obtain ⟨before, equal, none⟩ := ih found
      exact ⟨event :: before, by rw [equal]; rfl, none⟩
    cases event with
    | runState told =>
      cases found : lastState rest with
      | none =>
        rw [lastState, found] at last
        cases last
        exact ⟨[], rfl, found⟩
      | some pair =>
        rw [lastState, found] at last
        exact deeper (found.trans last)
    | runRecovered leaseEpoch => exact deeper last
    | checked type data => exact deeper last

theorem quiet_event_status {status : RunStatus}
    (closed : status = .cancelled ∨ status = .completed) (told : resumed.runStatus = some status)
    (silent : lastState [event] = none) (kept : event.overrides = false) :
    (foldResumedRunEvent resumed event).runStatus = some status := by
  cases event with
  | runRecovered leaseEpoch => cases kept
  | runState other => cases silent
  | checked type data =>
    cases type with
    | error => cases kept
    | done =>
      rw [foldResumedRunEvent]
      dsimp only
      rw [told]
      rcases closed with rfl | rfl
      · rfl
      · rfl
    | session | status | run | think | step | fileRead | diff | todo | planSnapshot | planPatch
    | text | askUser | qaSummary | contextDegraded | artifact | workItem | usage => exact told

theorem quiet_events_status {status : RunStatus} {later : List SSEEvent}
    (closed : status = .cancelled ∨ status = .completed) (told : resumed.runStatus = some status)
    (silent : lastState later = none) (kept : ∀ event ∈ later, event.overrides = false) :
    (later.foldl foldResumedRunEvent resumed).runStatus = some status := by
  induction later generalizing resumed with
  | nil => exact told
  | cons event rest ih =>
    have apart : lastState [event] = none ∧ lastState rest = none := by
      cases event with
      | runState => cases silent
      | runRecovered => exact ⟨rfl, silent⟩
      | checked => exact ⟨rfl, silent⟩
    rw [foldl_cons]
    apply ih
    · exact quiet_event_status closed told apart.1 (kept event mem_cons_self)
    · exact apart.2
    · exact fun other mem => kept other (mem_cons_of_mem _ mem)

theorem told_status_kept {events later : List SSEEvent} {status : RunStatus}
    (closed : status = .cancelled ∨ status = .completed)
    (last : lastState events = some (status, later))
    (kept : ∀ event ∈ later, event.overrides = false) :
    (events.foldl foldResumedRunEvent resumed).runStatus = some status := by
  obtain ⟨before, rfl, silent⟩ := last_state_split last
  rw [foldl_append, foldl_cons]
  exact quiet_events_status closed rfl silent kept

/-- After every front of a sequence whose events find even states, the handler of `send` and the
fold of a resumed Run show one message. In the end it tells that a cancelled Run is cancelled, and
that a Run which recovered after an error and then completed is completed. -/
theorem client_folds_agree (message : ChatMessage) (events : List SSEEvent)
    (followed : ∀ event ∈ events, event.Followed)
    (even : (SendState.mk message.id message false).AllEven events)
    (outcome : OutcomeKept events) :
    (∀ front, front <+: events →
      ∃ final, front.foldlM SendState.onEvent ⟨message.id, message, false⟩ = some final ∧
        SameView final.message (front.foldl foldResumedRunEvent message)) ∧
    ∃ final, events.foldlM SendState.onEvent ⟨message.id, message, false⟩ = some final ∧
      ∀ status later, lastState events = some (status, later) →
        status = .cancelled ∨ (status = .completed ∧ RecoveredAfterError events) →
          final.message.runStatus = some status ∧
            (events.foldl foldResumedRunEvent message).runStatus = some status := by
  constructor
  · rintro front ⟨rest, rfl⟩
    apply even_events_same front (same_view_refl message) ?_ (all_even_front even)
    intro event mem
    exact followed event (mem_append_left _ mem)
  · obtain ⟨final, run, same⟩ := even_events_same events (same_view_refl message) followed even
    refine ⟨final, run, ?_⟩
    intro status later last named
    have resumed : (events.foldl foldResumedRunEvent message).runStatus = some status := by
      rcases named with rfl | ⟨rfl, recovered⟩
      · exact told_status_kept (.inl rfl) last (outcome.cancelled later last)
      · exact told_status_kept (.inr rfl) last (outcome.recovered recovered later last)
    exact ⟨same.runStatus.trans resumed, resumed⟩

def waitingMessage : ChatMessage := ⟨"bot", "", [], [], none, .running, some .running, none⟩

def recoveredEvents : List SSEEvent :=
  [.runState .running, .checked .error (.obj [("message", .str "lost")]), .runState .recoverable,
    .runState .leased, .runRecovered 2, .runState .running,
    .checked .text (.obj [("md", .str "Done.")]), .runState .completed, .checked .done (.obj [])]

/-- The user cancels after an error that the Run was to recover from. -/
def cancelledAfterError : List SSEEvent :=
  [.runState .running, .checked .error (.obj [("message", .str "lost")]), .runState .recoverable,
    .runState .cancelled, .checked .done (.obj [])]

theorem recovered_outcome : OutcomeKept recoveredEvents := by
  constructor
  · intro later last
    cases last
  · intro _ later last
    cases last
    decide

theorem cancelled_outcome : OutcomeKept cancelledAfterError := by
  constructor
  · intro later last
    cases last
    decide
  · intro _ later last
    cases last

theorem recovered_events_agree :
    (∃ final, recoveredEvents.foldlM SendState.onEvent ⟨"bot", waitingMessage, false⟩ =
        some final ∧ final.message.runStatus = some .completed ∧
      SameView final.message (recoveredEvents.foldl foldResumedRunEvent waitingMessage)) ∧
    ∃ final, cancelledAfterError.foldlM SendState.onEvent ⟨"bot", waitingMessage, false⟩ =
        some final ∧ final.message.runStatus = some .cancelled ∧
      (cancelledAfterError.foldl foldResumedRunEvent waitingMessage).runStatus =
        some .cancelled := by
  constructor
  · have followed : ∀ event ∈ recoveredEvents, event.Followed := by
      intro event mem
      simp only [recoveredEvents, mem_cons, not_mem_nil, or_false] at mem
      rcases mem with rfl | rfl | rfl | rfl | rfl | rfl | rfl | rfl | rfl <;> trivial
    have even : (SendState.mk waitingMessage.id waitingMessage false).AllEven recoveredEvents := by
      refine all_even_cons ⟨.inr rfl, trivial⟩ rfl ?_
      refine all_even_cons ⟨.inr rfl, trivial⟩ rfl ?_
      refine all_even_cons ⟨.inr rfl, trivial⟩ rfl ?_
      refine all_even_cons ⟨.inr rfl, trivial⟩ rfl ?_
      refine all_even_cons ⟨.inr rfl, trivial⟩ rfl ?_
      refine all_even_cons ⟨.inr rfl, trivial⟩ rfl ?_
      refine all_even_cons ⟨.inr rfl, trivial⟩ rfl ?_
      refine all_even_cons ⟨.inr rfl, trivial⟩ rfl ?_
      exact all_even_cons ⟨.inr rfl, .inr ⟨rfl, rfl⟩⟩ rfl trivial
    have again : RecoveredAfterError recoveredEvents :=
      ⟨recoveredEvents.take 2, recoveredEvents.drop 2, rfl, ⟨_, mem_cons_of_mem _ mem_cons_self⟩,
        2, mem_cons_of_mem _ (mem_cons_of_mem _ mem_cons_self)⟩
    obtain ⟨same, final, run, told⟩ :=
      client_folds_agree waitingMessage recoveredEvents followed even recovered_outcome
    obtain ⟨shown, sameRun, equal⟩ := same recoveredEvents (prefix_refl _)
    cases run.symm.trans sameRun
    exact ⟨final, run, (told .completed _ rfl (.inr ⟨rfl, again⟩)).1, equal⟩
  · have followed : ∀ event ∈ cancelledAfterError, event.Followed := by
      intro event mem
      simp only [cancelledAfterError, mem_cons, not_mem_nil, or_false] at mem
      rcases mem with rfl | rfl | rfl | rfl | rfl <;> trivial
    have even : (SendState.mk waitingMessage.id waitingMessage false).AllEven
        cancelledAfterError := by
      refine all_even_cons ⟨.inr rfl, trivial⟩ rfl ?_
      refine all_even_cons ⟨.inr rfl, trivial⟩ rfl ?_
      refine all_even_cons ⟨.inr rfl, trivial⟩ rfl ?_
      refine all_even_cons ⟨.inr rfl, trivial⟩ rfl ?_
      exact all_even_cons ⟨.inr rfl, .inl rfl⟩ rfl trivial
    obtain ⟨_, final, run, told⟩ :=
      client_folds_agree waitingMessage cancelledAfterError followed even cancelled_outcome
    exact ⟨final, run, told .cancelled _ rfl (.inl rfl)⟩

def cancelledEvents : List SSEEvent := [.runState .cancelled, .checked .done (.obj [])]

theorem cancelled_run_shown_completed :
    (cancelledEvents.foldlM SendState.onEvent ⟨"bot", waitingMessage, false⟩).map
        (fun final => final.message.runStatus) = some (some .completed) ∧
      (cancelledEvents.foldl foldResumedRunEvent waitingMessage).runStatus = some .cancelled :=
  ⟨rfl, rfl⟩

end AgentMate
