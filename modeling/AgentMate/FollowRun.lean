import AgentMate.LiveEvents
import AgentMate.ProtocolMachine

/-!
# Following a Run from the client

`followServerRun` polls `GET /runs/{id}/events`. The Server answers a poll with two
reads, first the Run row and then a page of events; other transactions may commit
between them and between polls. Here the client handles an answer at the second
read: nothing else touches its state while a poll is open.
-/

namespace AgentMate

variable {Hash : Type}

/-- The local variables of `followServerRun`. -/
structure Follow where
  afterEpoch : Nat
  afterSequence : Nat
  currentEpoch : Nat
  sawError : Bool
  lastStatus : Option RunStatus

def Follow.start : Follow := ⟨0, 0, 0, false, none⟩

/-- The event that the client makes of a stored one: a display event that passes the
check, or the question of `run.waiting_user`. -/
def clientEvent (toNumber : Int → Int) (row : EventRow Hash) : Option SSEEvent :=
  match afterPrefix? "ui." row.eventType with
  | some type => checkedSSEEvent type (row.payload.parsed toNumber)
  | none =>
    if row.eventType = "run.waiting_user" then
      checkedSSEEvent "ask_user" (.obj (("question_event_id", .str row.eventId) ::
          match row.payload.parsed toNumber with
          | .obj fields => fields
          | _ => []))
    else none

def SSEEvent.isError : SSEEvent → Bool
  | .checked .error _ => true
  | _ => false

def Follow.read (toNumber : Int → Int) (follow : Follow) (row : EventRow Hash) :
    Follow × List SSEEvent :=
  let follow := { follow with afterEpoch := row.leaseEpoch, afterSequence := row.sequence }
  if row.leaseEpoch < follow.currentEpoch then (follow, [])
  else
    let recovered := decide (follow.currentEpoch < row.leaseEpoch)
    let event := clientEvent toNumber row
    ({ follow with
        currentEpoch := row.leaseEpoch
        sawError := (!recovered && follow.sawError) || event.any SSEEvent.isError },
      (if recovered then [.runRecovered row.leaseEpoch] else []) ++ event.toList)

def Follow.readAll (toNumber : Int → Int) (follow : Follow) :
    List (EventRow Hash) → Follow × List SSEEvent
  | [] => (follow, [])
  | row :: rest =>
    let (next, emitted) := follow.read toNumber row
    let (last, more) := next.readAll toNumber rest
    (last, emitted ++ more)

def Follow.readRun (follow : Follow) (run : Run) : Follow × List SSEEvent :=
  let state := if follow.lastStatus = some run.status then [] else [SSEEvent.runState run.status]
  let follow := { follow with lastStatus := some run.status }
  if follow.currentEpoch < run.leaseEpoch then
    if 0 < follow.currentEpoch then
      ({ follow with currentEpoch := run.leaseEpoch, sawError := false },
        state ++ [.runRecovered run.leaseEpoch])
    else ({ follow with currentEpoch := run.leaseEpoch }, state)
  else (follow, state)

/-- One pass of the `while` loop. -/
def Follow.poll (toNumber : Int → Int) (follow : Follow) (run : Run)
    (events : List (EventRow Hash)) : Follow × List SSEEvent :=
  let (seen, state) := follow.readRun run
  let (next, emitted) := seen.readAll toNumber events
  (next, state ++ emitted)

def Follow.closing (follow : Follow) (run : Run) (messageId : Option String) : List SSEEvent :=
  (if run.status = .failed ∧ follow.sawError = false then
    [.checked .error (.obj [("message", .str
      (if run.report.errorMessage ≠ "" then run.report.errorMessage
      else if run.report.errorCode ≠ "" then run.report.errorCode
      else "Local Agent 执行失败"))])]
  else []) ++
  [.checked .done (jsObject [("message_id", messageId.map Json.str)])]

inductive FollowPhase where
  | idle
  | polling (run : Run)
  | left (run : Run)
  | finished (run : Run)

def FollowPhase.isIdle : FollowPhase → Bool
  | .idle => true
  | _ => false

structure LiveView (Hash : Type) where
  server : Server Hash
  phase : FollowPhase
  follow : Follow
  message : ChatMessage

namespace LiveView

def answered (toNumber : Int → Int) (runId : String) (pageLimit : Nat) (view : LiveView Hash)
    (run : Run) : LiveView Hash :=
  let events := listEvents view.server.store runId view.follow.afterEpoch
    view.follow.afterSequence pageLimit
  let (follow, emitted) := view.follow.poll toNumber run events
  { view with
    phase := if run.status.isTerminal && events.length < pageLimit then .left run else .idle
    follow := follow
    message := emitted.foldl foldResumedRunEvent view.message }

def closed (view : LiveView Hash) (run : Run) (messageId : Option String) : LiveView Hash :=
  { view with
    phase := .finished run
    message := (view.follow.closing run messageId).foldl foldResumedRunEvent view.message }

inductive Action (Hash : Type) where
  | serve (action : Server.Action Hash)
  | readRun
  | readEvents
  | close (messageId : Option String)

def blankMessage (id : String) (runStatus : Option RunStatus) : ChatMessage :=
  ⟨id, "", [], [], none, .running, runStatus, none⟩

variable [DecidableEq Hash] (host : Host Hash) (toNumber : Int → Int) (runId : String)
  (pageLimit : Nat)

inductive Step : LiveView Hash → Action Hash → LiveView Hash → Prop
  | serve (view : LiveView Hash) (action : Server.Action Hash) (next : Server Hash) :
      (serverMachine host).Step view.server action next →
      Step view (.serve action) { view with server := next }
  | readRun (view : LiveView Hash) (run : Run) :
      view.phase = .idle → view.server.store.run? runId = some run →
      Step view .readRun { view with phase := .polling run }
  | readEvents (view : LiveView Hash) (run : Run) : view.phase = .polling run →
      Step view .readEvents (view.answered toNumber runId pageLimit run)
  | close (view : LiveView Hash) (run : Run) (messageId : Option String) :
      view.phase = .left run → Step view (.close messageId) (view.closed run messageId)

def machine : TransitionSystem.Machine (LiveView Hash) (Action Hash) where
  Initial view := view.server.store.Fresh ∧ view.phase = .idle ∧ view.follow = Follow.start ∧
    ∃ id runStatus, view.message = blankMessage id runStatus
  Step := Step host toNumber runId pageLimit

def polled (view : LiveView Hash) : LiveView Hash :=
  match view.server.store.run? runId with
  | none => view
  | some run => { view with phase := .polling run }.answered toNumber runId pageLimit run

variable {host toNumber runId pageLimit}

theorem serve_path {view : LiveView Hash} {server : Server Hash}
    (path : (serverMachine host).Path TransitionSystem.Anything view.server server) :
    (machine host toNumber runId pageLimit).Path TransitionSystem.Anything view
      { view with server := server } := by
  induction path with
  | refl => exact .refl view
  | step _ _ step ih => exact .step ih trivial (.serve _ _ _ step)

theorem polled_path {view : LiveView Hash} (idle : view.phase.isIdle = true) :
    (machine host toNumber runId pageLimit).Path TransitionSystem.Anything view
      (view.polled toNumber runId pageLimit) := by
  unfold polled
  cases found : view.server.store.run? runId with
  | none => exact .refl view
  | some run =>
    have waiting : view.phase = .idle := by
      cases phase : view.phase <;> rw [phase] at idle <;> first | rfl | cases idle
    exact .step (.step (.refl view) trivial (.readRun view run waiting found)) trivial
      (.readEvents _ run rfl)

end LiveView

end AgentMate
