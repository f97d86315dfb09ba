import AgentMate.LocalTransport

/-!
# The worker of a leased Run

`_execute_run` drives the runtime's event stream while `_control_loop` renews the
lease and takes commands. Both are coroutines of one event loop: what runs between
two awaits is one step here. A chunk of the runtime is taken up frame by frame and a
renewal command by command, which only adds interleavings. The slot is the one that the
supervisor pool reserved for the Run. `question` in a channel
and `handed` in an execution remember which event a question was reported with and
which command was handed to it; nothing reads them.
-/

namespace AgentMate

variable {Hash : Type}

/-- `_answers[run_id]`: its event and its answers. -/
structure Channel where
  question : String
  woken : Bool
  answers : Option (List String)
  deriving DecidableEq

structure Runtime where
  registered : Bool
  stop : Bool
  channel : Option Channel
  unwinding : Bool

def Runtime.requestStop (runtime : Runtime) : Runtime :=
  if runtime.registered then
    { runtime with
      stop := true
      channel := runtime.channel.map fun channel => { channel with woken := true } }
  else runtime

/-- The channel `submit_answers` finds. -/
def Runtime.waiting (runtime : Runtime) : Option Channel :=
  if runtime.registered then runtime.channel else none

def Runtime.submitAnswers (runtime : Runtime) (answers : List String) : Runtime :=
  match runtime.waiting with
  | some channel => { runtime with
      channel := some { channel with woken := true, answers := some answers } }
  | none => runtime

/-- `_ActiveRun.phase`. -/
inductive Phase where
  | leased | loadingContext | preparing | running | waitingUser | paused
  | completed | failed | cancelled
  deriving DecidableEq, Repr

/-- Where the execution coroutine awaits. After a question and after a confirmed pause
it awaits a flush before it gives its slot back. -/
inductive Position where
  | claimed
  | loading
  | preparing
  | starting
  | generating
  | emitting (frames : List (String × Json))
  | reporting (frames : List (String × Json))
  | confirming
  | pausing
  | finishing
  | failing (preflight : Bool)
  | ended

def Position.isEnded : Position → Bool
  | .ended => true
  | _ => false

def Position.isFresh : Position → Bool
  | .claimed | .loading | .preparing => true
  | _ => false

/-- Where the control coroutine is: not created, between two commands of a renewal
or asleep after the last one, in `renew_lease`, or finished. -/
inductive Control where
  | absent
  | handling (commands : List Command)
  | posted (lease : LocalLease)
  | replied (lease : LocalLease) (reply : Reply LeaseRenewal)
  | done

structure ControlState where
  stopped : Bool
  terminal : Bool
  paused : Bool
  pauseRequested : Bool
  pendingPauseCommands : List String
  gateSet : Bool

structure Execution where
  leaseEpoch : Nat
  position : Position
  phase : Phase
  slotHeld : Bool
  streamError : String
  runtime : Runtime
  state : ControlState
  control : Control
  acknowledged : List String
  handed : List (String × Command)

def Execution.claimed (leaseEpoch : Nat) : Execution :=
  { leaseEpoch := leaseEpoch, position := .claimed, phase := .leased, slotHeld := true
    streamError := ""
    runtime := ⟨false, false, none, false⟩
    state := ⟨false, false, false, false, [], true⟩
    control := .absent, acknowledged := [], handed := [] }

def Execution.halted (execution : Execution) : Bool :=
  match execution.position, execution.control with
  | .ended, .absent | .ended, .done => true
  | .ended, _ => execution.state.terminal
  | _, _ => false

/-- `_try_reacquire_run_slot`: `none` when the slot was given back and
`_reserve_capacity` finds no `room` for another one. -/
def Execution.reacquire (execution : Execution) (room : Bool) : Option Execution :=
  if execution.slotHeld || room then some { execution with slotHeld := true } else none

/-- An execution with the tables of `run_transport` it writes. -/
structure Workspace (Hash : Type) where
  transport : Transport Hash
  execution : Execution

section

variable (agent : LocalAgent Hash) (clock : Time)

/-- The handlers `except Exception`: of `_execute_run`, or before its `try` of
`execute_run`, which leaves the control coroutine running. -/
def Workspace.fail (work : Workspace Hash) (preflight : Bool) (message : String) : Workspace Hash :=
  let message := clip 20000 message
  let code := if preflight then "local_agent_preflight" else "local_agent_worker"
  let (transport, raised) := appendEvents agent clock work.transport
    [("ui.error", .obj [("message", .str message)]),
      ("run.failed", .obj [("error_code", .str code), ("error_message", .str message)])]
  match raised with
  | none => ⟨transport, { work.execution with position := .failing preflight }⟩
  | some _ => ⟨transport, { work.execution with
      position := .ended
      state := { work.execution.state with
        terminal := work.execution.state.terminal || !preflight } }⟩

/-- The start of the execution: the control coroutine is created before the first event. -/
def Workspace.start (work : Workspace Hash) : Workspace Hash :=
  let started := { work.execution with control := .handling [] }
  let (transport, raised) := appendEvents agent clock work.transport
    [("run.started", .obj [("source", .str "local_agent")])]
  match raised with
  | none => ⟨transport, { started with position := .starting, phase := .running }⟩
  | some error => Workspace.fail agent clock ⟨transport, started⟩ true error.message

/-- Appends after which the execution goes on as `next`, or raise. -/
def Workspace.append (work : Workspace Hash) (events : List (String × Json))
    (next : Execution) : Workspace Hash :=
  let (transport, raised) := appendEvents agent clock work.transport events
  match raised with
  | none => ⟨transport, next⟩
  | some error => Workspace.fail agent clock ⟨transport, work.execution⟩ false error.message

def Workspace.finish (work : Workspace Hash) : Workspace Hash :=
  let (eventType, phase) :=
    if work.execution.state.stopped then ("run.cancelled", Phase.cancelled)
    else if work.execution.streamError ≠ "" then ("run.failed", .failed)
    else ("run.completed", .completed)
  let payload := if work.execution.streamError ≠ "" then
      [("error_code", Json.str "local_execution_failed"),
        ("error_message", .str work.execution.streamError)]
    else []
  work.append agent clock [(eventType, .obj payload)]
    { work.execution with position := .finishing, phase := phase }

def frameEvents (eventType : String) (payload : Json) : List (String × Json) :=
  if eventType = "run" ∨ eventType = "done" then []
  else if eventType = "ask_user" then
    [("run.waiting_user", .obj [("questions", .arr (payload.listField "questions"))])]
  else [("ui." ++ eventType, payload)]

def Workspace.emit (work : Workspace Hash) (eventType : String) (payload : Json)
    (rest : List (String × Json)) : Workspace Hash :=
  let asks := eventType = "ask_user"
  let noted := { work.execution with
    streamError := if eventType = "error" then payload.strField agent.host.toPyText "message"
      else work.execution.streamError
    phase := if asks then .waitingUser else work.execution.phase }
  Workspace.append agent clock ⟨work.transport, noted⟩ (frameEvents eventType payload)
    { noted with position := if asks then .reporting rest else .emitting rest }

/-- The runtime asks: it registers the channel and yields the frame, which is reported
without an await. -/
def Workspace.ask (work : Workspace Hash) (questions : List Json) : Workspace Hash :=
  Workspace.emit agent clock { work with execution := { work.execution with
      runtime := { work.execution.runtime with
        channel := some ⟨agent.uuid work.transport.written.length, false, none⟩ } } }
    "ask_user" (.obj [("questions", .arr questions)]) []

/-- `if state.stopped: break`, and the next request to the runtime. -/
def Workspace.proceed (work : Workspace Hash) : Workspace Hash :=
  if work.execution.state.stopped then work.finish agent clock
  else { work with execution := { work.execution with position := .generating } }

def Workspace.pauseAtBoundary (work : Workspace Hash) : Workspace Hash :=
  let state := work.execution.state
  if !state.pauseRequested || state.stopped then work.proceed agent clock
  else
    let paused := { work.execution with
      phase := .paused
      state := { state with
        pauseRequested := false, paused := true, gateSet := false
        pendingPauseCommands := [] } }
    Workspace.append agent clock ⟨work.transport, paused⟩
      (("run.paused", .obj [("reason", .str "user_requested")]) ::
        state.pendingPauseCommands.map fun commandId =>
          ("command.ack", .obj [("command_id", .str commandId)]))
      { paused with position := .confirming }

end

section

variable (agent : LocalAgent Hash) (clock : Time)

def Execution.stop (execution : Execution) : Execution :=
  { execution with
    runtime := execution.runtime.requestStop
    state := { execution.state with stopped := true, gateSet := true } }

/-- `command.ack` for a handled command; an append that raises ends the coroutine. -/
def Workspace.acknowledge (work : Workspace Hash) (command : Command) : Workspace Hash :=
  match appendEvent agent clock work.transport "command.ack"
      (.obj [("command_id", .str command.id)]) with
  | .ok transport => ⟨transport, { work.execution with
      acknowledged := command.id :: work.execution.acknowledged }⟩
  | .error _ => { work with execution := { work.execution with control := .done } }

/-- `run.started` after a pause or an answer, then the acknowledgement. Only a
resumed pause opens the gate. -/
def Workspace.restart (work : Workspace Hash) (resumedFrom : String) (opensGate : Bool)
    (command : Command) : Workspace Hash :=
  match appendEvent agent clock work.transport "run.started"
      (.obj [("resumed_from", .str resumedFrom)]) with
  | .ok transport => Workspace.acknowledge agent clock ⟨transport, { work.execution with
      state := { work.execution.state with
        gateSet := work.execution.state.gateSet || opensGate } }⟩ command
  | .error _ => { work with execution := { work.execution with control := .done } }

/-- `submit_answers` for a command, remembering what was handed over. -/
def Execution.answer (text : PyText) (execution : Execution) (command : Command) : Execution :=
  let answers := (command.payload.listField "answers").map (Json.pyStr text)
  { execution with
    runtime := execution.runtime.submitAnswers answers
    handed := match execution.runtime.waiting with
      | some channel => execution.handed ++ [(channel.question, command)]
      | none => execution.handed }

def Workspace.handle (work : Workspace Hash) (room : Bool) (command : Command) : Workspace Hash :=
  if command.id = "" ∨ command.id ∈ work.execution.acknowledged then work
  else match command.commandType with
    | .cancel => Workspace.acknowledge agent clock { work with execution := work.execution.stop }
        command
    | .pause =>
      if work.execution.state.paused then work.acknowledge agent clock command
      else { work with execution := { work.execution with
        state := { work.execution.state with
          pauseRequested := true
          pendingPauseCommands := work.execution.state.pendingPauseCommands ++ [command.id] }
        acknowledged := command.id :: work.execution.acknowledged } }
    | .resume =>
      if work.execution.state.paused then
        match work.execution.reacquire room with
        | some execution => Workspace.restart agent clock { work with
            execution := { execution with
              phase := .running, state := { execution.state with paused := false } } }
            "paused" true command
        | none => work
      else work.acknowledge agent clock command
    | .askUserAnswer =>
      match work.execution.reacquire room with
      | some execution => Workspace.restart agent clock { work with
          execution := { execution.answer agent.host.toPyText command with
            phase := .running } } "waiting_user" false command
      | none => work

/-- After `renew_lease` returned or raised `LeaseFenced`. The thread of a cancelled
control coroutine still writes the local tables. -/
def Workspace.settleRenewal (work : Workspace Hash) (lease : LocalLease)
    (reply : Reply LeaseRenewal) : Workspace Hash :=
  let (transport, commands) := work.transport.settleRenewal lease clock reply
  if work.execution.state.terminal then
    ⟨transport, { work.execution with control := .done }⟩
  else match commands with
    | some commands => ⟨transport, { work.execution with control := .handling commands }⟩
    | none => ⟨transport, { work.execution.stop with control := .done }⟩

end

section

theorem reacquire_some {execution taken : Execution} {room : Bool}
    (done : execution.reacquire room = some taken) :
    (execution.slotHeld || room) = true ∧ taken = { execution with slotHeld := true } := by
  unfold Execution.reacquire at done
  split at done
  · next room_left =>
    cases done
    exact ⟨room_left, rfl⟩
  · cases done

variable {agent : LocalAgent Hash} {clock : Time} {work : Workspace Hash}

theorem fail_cases (preflight : Bool) (message : String) :
    (work.fail agent clock preflight message).execution =
        { work.execution with position := .failing preflight } ∨
      (work.fail agent clock preflight message).execution = { work.execution with
        position := .ended
        state := { work.execution.state with
          terminal := work.execution.state.terminal || !preflight } } := by
  unfold Workspace.fail
  dsimp only
  split
  · exact Or.inl rfl
  · exact Or.inr rfl

theorem append_cases (events : List (String × Json)) (next : Execution) :
    (work.append agent clock events next).execution = next ∨
      ∃ transport message, work.append agent clock events next =
        Workspace.fail agent clock ⟨transport, work.execution⟩ false message := by
  unfold Workspace.append
  split
  split
  · exact Or.inl rfl
  · exact Or.inr ⟨_, _, rfl⟩

theorem acknowledge_cases (command : Command) :
    (work.acknowledge agent clock command).execution = { work.execution with
        acknowledged := command.id :: work.execution.acknowledged } ∨
      (work.acknowledge agent clock command).execution =
        { work.execution with control := .done } := by
  unfold Workspace.acknowledge
  split
  · exact Or.inl rfl
  · exact Or.inr rfl

theorem restart_cases (resumedFrom : String) (opensGate : Bool) (command : Command) :
    (∃ transport, work.restart agent clock resumedFrom opensGate command =
        Workspace.acknowledge agent clock ⟨transport, { work.execution with
          state := { work.execution.state with
            gateSet := work.execution.state.gateSet || opensGate } }⟩ command) ∨
      (work.restart agent clock resumedFrom opensGate command).execution =
        { work.execution with control := .done } := by
  unfold Workspace.restart
  split
  · exact Or.inl ⟨_, rfl⟩
  · exact Or.inr rfl

end

/-- A step of one of the two coroutines, or of the stream they drive. -/
inductive Task where
  | load
  | loaded
  | prepare
  | preflightFail (message : String)
  | begin
  | register
  | yieldFrames (frames : List (String × Json))
  | ask (questions : List Json)
  | wake
  | emit
  | release
  | boundary
  | leavePause
  | finish
  | fail (message : String)
  | close
  | leave
  | cancel
  | renew
  | settle
  | handle (room : Bool)

def Workspace.run (agent : LocalAgent Hash) (clock : Time) (work : Workspace Hash) :
    Task → Option (Workspace Hash)
  | .load =>
    match work.execution.position with
    | .claimed => some { work with
        execution := { work.execution with position := .loading, phase := .loadingContext } }
    | _ => none
  | .loaded =>
    match work.execution.position with
    | .loading => some { work with
        execution := { work.execution with position := .preparing, phase := .preparing } }
    | _ => none
  | .prepare =>
    match work.execution.position with
    | .preparing => some (work.start agent clock)
    | _ => none
  | .preflightFail message =>
    match work.execution.position with
    | .loading | .preparing | .starting => some (work.fail agent clock true message)
    | _ => none
  | .begin =>
    match work.execution.position with
    | .starting => some { work with execution := { work.execution with position := .generating } }
    | _ => none
  | .register =>
    match work.execution.position, work.execution.runtime.registered with
    | .generating, false => some { work with execution := { work.execution with
        runtime := { work.execution.runtime with registered := true } } }
    | _, _ => none
  | .yieldFrames frames =>
    match work.execution.position, work.execution.runtime.channel with
    | .generating, none =>
      if frames.all fun frame => frame.1 ≠ "ask_user" then
        some { work with execution := { work.execution with position := .emitting frames } }
      else none
    | _, _ => none
  | .ask questions =>
    match work.execution.position, work.execution.runtime.channel with
    | .generating, none =>
      if work.execution.runtime.registered && !work.execution.runtime.unwinding then
        some (work.ask agent clock questions)
      else none
    | _, _ => none
  -- `await ev.wait()` returns
  | .wake =>
    match work.execution.position, work.execution.runtime.channel with
    | .generating, some channel =>
      if channel.woken then
        some { work with execution := { work.execution with
          runtime := { work.execution.runtime with
            channel := none, unwinding := work.execution.runtime.stop } } }
      else none
    | _, _ => none
  | .emit =>
    match work.execution.position with
    | .emitting ((eventType, payload) :: rest) =>
      some (work.emit agent clock eventType payload rest)
    | _ => none
  -- the flush returned, then `_release_run_slot`
  | .release =>
    match work.execution.position with
    | .reporting rest => some { work with
        execution := { work.execution with position := .emitting rest, slotHeld := false } }
    | .confirming => some { work with
        execution := { work.execution with position := .pausing, slotHeld := false } }
    | _ => none
  | .boundary =>
    match work.execution.position with
    | .emitting [] => some (work.pauseAtBoundary agent clock)
    | _ => none
  | .leavePause =>
    match work.execution.position, work.execution.state.gateSet with
    | .pausing, true => some (work.proceed agent clock)
    | _, _ => none
  -- the stream is exhausted and unregistered
  | .finish =>
    match work.execution.position, work.execution.runtime.channel with
    | .generating, none => some (Workspace.finish agent clock { work with
        execution := { work.execution with
          runtime := { work.execution.runtime with registered := false } } })
    | _, _ => none
  | .fail message =>
    match work.execution.position with
    | .generating | .emitting _ | .reporting _ | .confirming | .pausing | .finishing =>
      some (work.fail agent clock false message)
    | _ => none
  | .close =>
    match work.execution.position with
    | .finishing | .failing false => some { work with execution := { work.execution with
        position := .ended, state := { work.execution.state with terminal := true } } }
    | .failing true => some { work with execution := { work.execution with position := .ended } }
    | _ => none
  -- `_execute_claimed` gives the slot back
  | .leave =>
    match work.execution.position with
    | .ended => some { work with execution := { work.execution with slotHeld := false } }
    | _ => none
  -- the process ends
  | .cancel => some { work with execution := { work.execution with
      position := .ended, state := { work.execution.state with terminal := true }
      control := .done } }
  | .renew =>
    match work.execution.control, work.execution.state.terminal with
    | .handling [], false =>
      match work.transport.lease.filter fun lease => lease.status = .active with
      | some lease =>
        some { work with execution := { work.execution with control := .posted lease } }
      | none => some { work with execution := { work.execution.stop with control := .done } }
    | _, _ => none
  | .settle =>
    match work.execution.control with
    | .replied lease reply => some (work.settleRenewal clock lease reply)
    | _ => none
  | .handle room =>
    match work.execution.control, work.execution.state.terminal with
    | .handling (command :: rest), false =>
      some (Workspace.handle agent clock { work with
        execution := { work.execution with control := .handling rest } } room command)
    | _, _ => none

inductive Workspace.Move (agent : LocalAgent Hash) (clock : Time) (work : Workspace Hash) :
    Task → Workspace Hash → Prop
  | load : work.execution.position = .claimed → work.Move agent clock .load { work with
      execution := { work.execution with position := .loading, phase := .loadingContext } }
  | loaded : work.execution.position = .loading → work.Move agent clock .loaded { work with
      execution := { work.execution with position := .preparing, phase := .preparing } }
  | prepare : work.execution.position = .preparing →
      work.Move agent clock .prepare (work.start agent clock)
  | preflightFail (message : String) : work.execution.position.isEnded = false →
      work.Move agent clock (.preflightFail message) (work.fail agent clock true message)
  | begin : work.execution.position = .starting → work.Move agent clock .begin { work with
      execution := { work.execution with position := .generating } }
  | register : work.execution.position = .generating →
      work.execution.runtime.registered = false → work.Move agent clock .register { work with
        execution := { work.execution with
          runtime := { work.execution.runtime with registered := true } } }
  | yieldFrames (frames : List (String × Json)) : work.execution.position = .generating →
      work.execution.runtime.channel = none → (∀ frame ∈ frames, frame.1 ≠ "ask_user") →
      work.Move agent clock (.yieldFrames frames) { work with
        execution := { work.execution with position := .emitting frames } }
  | ask (questions : List Json) : work.execution.position = .generating →
      work.execution.runtime.channel = none → work.execution.runtime.registered = true →
      work.execution.runtime.unwinding = false →
      work.Move agent clock (.ask questions) (work.ask agent clock questions)
  | wake (channel : Channel) : work.execution.position = .generating →
      work.execution.runtime.channel = some channel → channel.woken = true →
      work.Move agent clock .wake { work with execution := { work.execution with
        runtime := { work.execution.runtime with
          channel := none, unwinding := work.execution.runtime.stop } } }
  | emit (eventType : String) (payload : Json) (rest : List (String × Json)) :
      work.execution.position = .emitting ((eventType, payload) :: rest) →
      work.Move agent clock .emit (work.emit agent clock eventType payload rest)
  | reported (rest : List (String × Json)) : work.execution.position = .reporting rest →
      work.Move agent clock .release { work with
        execution := { work.execution with position := .emitting rest, slotHeld := false } }
  | confirmed : work.execution.position = .confirming → work.Move agent clock .release { work with
        execution := { work.execution with position := .pausing, slotHeld := false } }
  | boundary : work.execution.position = .emitting [] →
      work.Move agent clock .boundary (work.pauseAtBoundary agent clock)
  | leavePause : work.execution.position = .pausing → work.execution.state.gateSet = true →
      work.Move agent clock .leavePause (work.proceed agent clock)
  | finish : work.execution.position = .generating → work.execution.runtime.channel = none →
      work.Move agent clock .finish (Workspace.finish agent clock { work with
        execution := { work.execution with
          runtime := { work.execution.runtime with registered := false } } })
  | fail (message : String) : work.execution.position.isEnded = false →
      work.Move agent clock (.fail message) (work.fail agent clock false message)
  | close (terminal : Bool) : work.execution.position.isEnded = false →
      work.Move agent clock .close { work with execution := { work.execution with
        position := .ended
        state := { work.execution.state with terminal := terminal } } }
  | leave : work.execution.position.isEnded = true → work.Move agent clock .leave { work with
      execution := { work.execution with slotHeld := false } }
  | cancel : work.Move agent clock .cancel { work with execution := { work.execution with
      position := .ended, state := { work.execution.state with terminal := true }
      control := .done } }
  | renew (lease : LocalLease) : work.execution.control = .handling [] →
      work.transport.lease = some lease → lease.status = .active →
      work.Move agent clock .renew { work with
        execution := { work.execution with control := .posted lease } }
  | fenced : work.execution.control = .handling [] → work.Move agent clock .renew { work with
      execution := { work.execution.stop with control := .done } }
  | settle (lease : LocalLease) (reply : Reply LeaseRenewal) :
      work.execution.control = .replied lease reply →
      work.Move agent clock .settle (work.settleRenewal clock lease reply)
  | handle (room : Bool) (command : Command) (rest : List Command) :
      work.execution.control = .handling (command :: rest) →
      work.execution.state.terminal = false →
      work.Move agent clock (.handle room) (Workspace.handle agent clock { work with
        execution := { work.execution with control := .handling rest } } room command)

theorem run_move {agent : LocalAgent Hash} {clock : Time} {work next : Workspace Hash} {task : Task}
    (ran : work.run agent clock task = some next) : work.Move agent clock task next := by
  cases task <;> simp only [Workspace.run] at ran
  case load =>
      split at ran
      · next position =>
        cases ran
        exact .load position
      · cases ran
  case loaded =>
      split at ran
      · next position =>
        cases ran
        exact .loaded position
      · cases ran
  case prepare =>
      split at ran
      · next position =>
        cases ran
        exact .prepare position
      · cases ran
  case preflightFail message =>
      split at ran
      all_goals cases ran
      all_goals
        apply Workspace.Move.preflightFail
        simp [*, Position.isEnded]
  case begin =>
      split at ran
      · next position =>
        cases ran
        exact .begin position
      · cases ran
  case register =>
      split at ran
      · next position registered =>
        cases ran
        exact .register position registered
      · cases ran
  case yieldFrames frames =>
      split at ran
      · next position channel =>
        split at ran
        · next frames_ok =>
          cases ran
          exact .yieldFrames frames position channel (by simpa using frames_ok)
        · cases ran
      · cases ran
  case ask questions =>
      split at ran
      · next position channel =>
        split at ran
        · next asking =>
          cases ran
          have ⟨registered, unwinding⟩ : work.execution.runtime.registered = true ∧
              work.execution.runtime.unwinding = false := by simpa using asking
          exact .ask questions position channel registered unwinding
        · cases ran
      · cases ran
  case wake =>
      split at ran
      · next channel position opened =>
        split at ran
        · next woken =>
          cases ran
          exact .wake channel position opened woken
        · cases ran
      · cases ran
  case emit =>
      split at ran
      · next eventType payload rest position =>
        cases ran
        exact .emit eventType payload rest position
      · cases ran
  case release =>
      split at ran
      · next rest position =>
        cases ran
        exact .reported rest position
      · next position =>
        cases ran
        exact .confirmed position
      · cases ran
  case boundary =>
      split at ran
      · next position =>
        cases ran
        exact .boundary position
      · cases ran
  case leavePause =>
      split at ran
      · next position gate =>
        cases ran
        exact .leavePause position gate
      · cases ran
  case finish =>
      split at ran
      · next position channel =>
        cases ran
        exact .finish position channel
      · cases ran
  case fail message =>
      split at ran
      all_goals cases ran
      all_goals
        apply Workspace.Move.fail
        simp [*, Position.isEnded]
  case close =>
      split at ran
      all_goals cases ran
      all_goals
        apply Workspace.Move.close
        simp [*, Position.isEnded]
  case leave =>
      split at ran
      · next position =>
        cases ran
        apply Workspace.Move.leave
        rw [position]
        rfl
      · cases ran
  case cancel =>
      cases ran
      exact .cancel
  case renew =>
      split at ran
      · next control terminal =>
        split at ran
        · next lease held =>
          cases ran
          have ⟨row, active⟩ := Option.filter_eq_some_iff.mp held
          exact .renew lease control row (by simpa using active)
        · cases ran
          exact .fenced control
      · cases ran
  case settle =>
      split at ran
      · next lease reply control =>
        cases ran
        exact .settle lease reply control
      · cases ran
  case handle room =>
      split at ran
      · next command rest control terminal =>
        cases ran
        exact .handle room command rest control terminal
      · cases ran

/-- A step of the execution, the reply to the renewal it posted, or a change of the
local tables by a flush or by another part of the process. -/
inductive WorkerAction (Hash : Type) where
  | task (clock : Time) (task : Task)
  | reply (reply : Reply LeaseRenewal)
  | tables (transport : Transport Hash)

def Workspace.step (agent : LocalAgent Hash) (work : Workspace Hash) :
    WorkerAction Hash → Option (Workspace Hash)
  | .task clock task => work.run agent clock task
  | .reply reply =>
    match work.execution.control with
    | .posted lease => some { work with
        execution := { work.execution with control := .replied lease reply } }
    | _ => none
  | .tables transport => some { work with transport := transport }

def workerMachine (agent : LocalAgent Hash) :
    TransitionSystem.Machine (Workspace Hash) (WorkerAction Hash) where
  Initial work := ∃ leaseEpoch, work.execution = Execution.claimed leaseEpoch
  Step work action next := work.step agent action = some next

end AgentMate
