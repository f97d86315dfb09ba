import AgentMate.RunWorker

/-! # What the worker appends -/

namespace AgentMate

open List

variable {Hash : Type}

inductive Appends (agent : LocalAgent Hash) (clock : Time) :
    Transport Hash → List (String × Json) → Transport Hash → Prop
  | nil (transport : Transport Hash) : Appends agent clock transport [] transport
  | cons {transport middle finish : Transport Hash} {eventType : String} {payload : Json}
      {rest : List (String × Json)} :
      appendEvent agent clock transport eventType payload = .ok middle →
      Appends agent clock middle rest finish →
      Appends agent clock transport ((eventType, payload) :: rest) finish

section

variable {agent : LocalAgent Hash} {clock : Time} {transport middle finish : Transport Hash}

theorem appends_one {eventType : String} {payload : Json}
    (done : appendEvent agent clock transport eventType payload = .ok finish) :
    Appends agent clock transport [(eventType, payload)] finish :=
  .cons done (.nil finish)

theorem appends_trans {first second : List (String × Json)}
    (before : Appends agent clock transport first middle)
    (after : Appends agent clock middle second finish) :
    Appends agent clock transport (first ++ second) finish := by
  induction before with
  | nil => exact after
  | cons done rest ih => exact .cons done (ih after)

theorem append_events_appends (agent : LocalAgent Hash) (clock : Time)
    (transport : Transport Hash) (events : List (String × Json)) :
    ∃ added, Appends agent clock transport added (appendEvents agent clock transport events).1 ∧
      added <+: events ∧
      ((appendEvents agent clock transport events).2 = none ↔ added = events) := by
  induction events generalizing transport with
  | nil => exact ⟨[], .nil transport, prefix_rfl, by simp [appendEvents]⟩
  | cons event rest ih =>
    obtain ⟨eventType, payload⟩ := event
    unfold appendEvents
    split
    · exact ⟨[], .nil transport, List.nil_prefix, by simp⟩
    · next next done =>
      obtain ⟨added, appends, before, complete⟩ := ih next
      refine ⟨(eventType, payload) :: added, .cons done appends, ?_, ?_⟩
      · exact (cons_prefix_cons).mpr ⟨rfl, before⟩
      · rw [complete]
        simp

end

def Task.isSettle : Task → Bool
  | .settle => true
  | _ => false

def Execution.Failed (before after : Execution) : Prop :=
  ∃ preflight, after = { before with position := .failing preflight } ∨ after = { before with
      position := .ended
      state := { before.state with terminal := before.state.terminal || !preflight } }

def isFailure (event : String × Json) : Prop := event.1 = "ui.error" ∨ event.1 = "run.failed"

/-- The events are appended and the execution goes on as planned, or some are and it
fails from the state `before`. -/
inductive Outcome (agent : LocalAgent Hash) (clock : Time) (transport : Transport Hash)
    (events : List (String × Json)) (planned before : Execution) : Workspace Hash → Prop
  | planned (finish : Transport Hash) : Appends agent clock transport events finish →
      Outcome agent clock transport events planned before ⟨finish, planned⟩
  | failed (added failure : List (String × Json)) (finish : Transport Hash) (after : Execution) :
      added <+: events → added ≠ events → (∀ event ∈ failure, isFailure event) →
      Appends agent clock transport (added ++ failure) finish → before.Failed after →
      Outcome agent clock transport events planned before ⟨finish, after⟩

section

variable {agent : LocalAgent Hash} {clock : Time} {work : Workspace Hash}

theorem fail_outcome (preflight : Bool) (message : String) :
    ∃ failure, (∀ event ∈ failure, isFailure event) ∧ Appends agent clock work.transport failure
        (work.fail agent clock preflight message).transport ∧
      work.execution.Failed (work.fail agent clock preflight message).execution := by
  have failed : work.execution.Failed (work.fail agent clock preflight message).execution :=
    ⟨preflight, fail_cases preflight message⟩
  unfold Workspace.fail at failed ⊢
  dsimp only at failed ⊢
  generalize report : [_, _] = events at failed ⊢
  obtain ⟨added, appends, before, -⟩ :=
    append_events_appends agent clock work.transport events
  refine ⟨added, ?_, ?_, ?_⟩
  · intro event mem
    have listed := before.subset mem
    rw [← report] at listed
    simp only [mem_cons, not_mem_nil, or_false] at listed
    rcases listed with rfl | rfl
    · exact Or.inl rfl
    · exact Or.inr rfl
  · split <;> exact appends
  · exact failed

theorem append_outcome (events : List (String × Json)) (next : Execution) :
    Outcome agent clock work.transport events next work.execution
      (work.append agent clock events next) := by
  obtain ⟨added, appends, before, complete⟩ :=
    append_events_appends agent clock work.transport events
  unfold Workspace.append
  split
  next transport raised done =>
    rw [done] at appends complete
    split
    · obtain rfl := complete.mp rfl
      exact .planned transport appends
    · next error =>
      obtain ⟨failure, failures, appended, failed⟩ := @fail_outcome _ agent clock
        ⟨transport, work.execution⟩ false error.message
      apply Outcome.failed added failure _ _ before _ failures (appends_trans appends appended)
        failed
      intro same
      have none := complete.mpr same
      cases none

theorem start_outcome :
    Outcome agent clock work.transport [("run.started", .obj [("source", .str "local_agent")])]
      { work.execution with control := .handling [], position := .starting, phase := .running }
      { work.execution with control := .handling [] } (work.start agent clock) := by
  obtain ⟨added, appends, before, complete⟩ := append_events_appends agent clock work.transport
    [("run.started", .obj [("source", .str "local_agent")])]
  unfold Workspace.start
  dsimp only
  split
  · next done =>
    obtain rfl := complete.mp done
    exact .planned _ appends
  · next error done =>
    obtain ⟨failure, failures, appended, failed⟩ := @fail_outcome _ agent clock
      ⟨_, { work.execution with control := .handling [] }⟩ true error.message
    apply Outcome.failed added failure _ _ before _ failures (appends_trans appends appended) failed
    intro same
    have none := complete.mpr same
    rw [done] at none
    cases none

def isTerminalReport (eventType : String) : Prop :=
  eventType = "run.cancelled" ∨ eventType = "run.failed" ∨ eventType = "run.completed"

theorem finish_outcome : ∃ eventType payload phase, isTerminalReport eventType ∧
    Outcome agent clock work.transport [(eventType, payload)]
      { work.execution with position := .finishing, phase := phase } work.execution
      (work.finish agent clock) := by
  unfold Workspace.finish
  dsimp only
  split
  · exact ⟨_, _, _, Or.inl rfl, append_outcome _ _⟩
  · split
    · exact ⟨_, _, _, Or.inr (Or.inl rfl), append_outcome _ _⟩
    · exact ⟨_, _, _, Or.inr (Or.inr rfl), append_outcome _ _⟩

def Execution.note (text : PyText) (execution : Execution) (eventType : String) (payload : Json) :
    Execution :=
  { execution with
    streamError := if eventType = "error" then payload.strField text "message"
      else execution.streamError
    phase := if eventType = "ask_user" then .waitingUser else execution.phase }

theorem emit_outcome (eventType : String) (payload : Json) (rest : List (String × Json)) :
    Outcome agent clock work.transport (frameEvents eventType payload)
      { work.execution.note agent.host.toPyText eventType payload with
        position := if eventType = "ask_user" then .reporting rest else .emitting rest }
      (work.execution.note agent.host.toPyText eventType payload)
      (work.emit agent clock eventType payload rest) :=
  @append_outcome _ agent clock
    ⟨work.transport, work.execution.note agent.host.toPyText eventType payload⟩ _ _

def ControlState.pauses (state : ControlState) : Bool :=
  state.pauseRequested && !state.stopped

def Execution.confirm (execution : Execution) : Execution :=
  { execution with
    phase := .paused
    state := { execution.state with
      pauseRequested := false, paused := true, gateSet := false, pendingPauseCommands := [] } }

theorem proceed_outcome : work.proceed agent clock = work.finish agent clock ∨
    work.proceed agent clock =
      { work with execution := { work.execution with position := .generating } } := by
  unfold Workspace.proceed
  split
  · exact Or.inl rfl
  · exact Or.inr rfl

theorem pause_at_boundary_outcome : work.pauseAtBoundary agent clock = work.proceed agent clock ∨
      work.execution.state.pauses = true ∧ ∃ events : List (String × Json),
        (∀ event ∈ events, event.1 = "run.paused" ∨ event.1 = "command.ack") ∧
        Outcome agent clock work.transport events
          { work.execution.confirm with position := .confirming } work.execution.confirm
          (work.pauseAtBoundary agent clock) := by
  unfold Workspace.pauseAtBoundary
  dsimp only
  split
  · exact Or.inl rfl
  · next pausing =>
    right
    constructor
    · simpa [ControlState.pauses] using pausing
    · refine ⟨_, ?_, @append_outcome _ agent clock ⟨work.transport, work.execution.confirm⟩ _ _⟩
      intro event mem
      rcases mem_cons.mp mem with rfl | acknowledgement
      · exact Or.inl rfl
      · obtain ⟨commandId, -, rfl⟩ := mem_map.mp acknowledgement
        exact Or.inr rfl

theorem acknowledge_outcome (command : Command) :
    ∃ added : List (String × Json), (∀ event ∈ added, event.1 = "command.ack") ∧
      Appends agent clock work.transport added (work.acknowledge agent clock command).transport ∧
      ((work.acknowledge agent clock command).execution = { work.execution with
          acknowledged := command.id :: work.execution.acknowledged } ∨
        (work.acknowledge agent clock command).execution =
          { work.execution with control := .done }) := by
  unfold Workspace.acknowledge
  split
  · next transport done => exact ⟨_, by simp, appends_one done, Or.inl rfl⟩
  · exact ⟨[], by simp, .nil _, Or.inr rfl⟩

theorem restart_outcome (resumedFrom : String) (opensGate : Bool) (command : Command) :
    ∃ (added : List (String × Json)) (gateSet : Bool),
      (∀ event ∈ added, event.1 = "run.started" ∨ event.1 = "command.ack") ∧
      Appends agent clock work.transport added
        (work.restart agent clock resumedFrom opensGate command).transport ∧
      ((work.restart agent clock resumedFrom opensGate command).execution = { work.execution with
          state := { work.execution.state with gateSet := gateSet }
          acknowledged := command.id :: work.execution.acknowledged } ∨
        (work.restart agent clock resumedFrom opensGate command).execution = { work.execution with
          state := { work.execution.state with gateSet := gateSet }, control := .done }) := by
  unfold Workspace.restart
  split
  · next transport done =>
    obtain ⟨added, acknowledgements, appends, handled⟩ := @acknowledge_outcome _ agent clock
      ⟨transport, { work.execution with
        state := { work.execution.state with
          gateSet := work.execution.state.gateSet || opensGate } }⟩ command
    refine ⟨_, _, ?_, .cons done appends, handled⟩
    intro event mem
    rcases mem_cons.mp mem with rfl | later
    · exact Or.inl rfl
    · exact Or.inr (acknowledgements event later)
  · exact ⟨[], work.execution.state.gateSet, by simp, .nil _, Or.inr rfl⟩

end

variable {agent : LocalAgent Hash} {clock : Time} {transport finish : Transport Hash}

theorem appends_rows {events : List (String × Json)}
    (appends : Appends agent clock transport events finish) :
    finish.lease = transport.lease ∧ ∃ rows, finish.written = transport.written ++ rows ∧
      rows.map (fun row => (row.event.eventType, row.event.payload)) = events ∧
      ∀ row ∈ rows, transport.lease.map LocalLease.leaseEpoch = some row.leaseEpoch := by
  induction appends with
  | nil => exact ⟨rfl, [], by simp, rfl, by simp⟩
  | @cons start middle finish eventType payload rest done appends ih =>
    obtain ⟨-, -, lease, found, -, rfl⟩ := append_event_ok done
    obtain ⟨same, rows, written, reported, epochs⟩ := ih
    refine ⟨same, start.newRow agent clock lease eventType payload :: rows, ?_, ?_, ?_⟩
    · rw [written]
      exact append_assoc _ _ _
    · rw [map_cons, reported]
      rfl
    · intro row mem
      rcases mem_cons.mp mem with rfl | later
      · rw [found]
        rfl
      · exact epochs row later

end AgentMate
