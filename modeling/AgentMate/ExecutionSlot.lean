import AgentMate.RunWorker
import AgentMate.TransportNetwork

/-! # The execution slot of a Run -/

namespace AgentMate

open TransitionSystem

variable {Hash : Type}

def Position.givesSlotBack : Position → Bool
  | .reporting _ | .confirming => true
  | _ => false

def Execution.reopens (execution : Execution) (room : Bool) (command : Command) : Bool :=
  command.id ≠ "" && command.id ∉ execution.acknowledged && (execution.slotHeld || room) &&
    (command.commandType = .askUserAnswer ||
      (command.commandType = .resume && execution.state.paused))

def Workspace.takesUp (work : Workspace Hash) : WorkerAction Hash → Bool
  | .task _ (.handle room) =>
    match work.execution.control with
    | .handling (command :: _) => work.execution.reopens room command
    | _ => false
  | _ => false

/-- No answer and no resume is taken up between a question or a confirmed pause and the
release of the slot. -/
def Workspace.slotSettled (work : Workspace Hash) (action : WorkerAction Hash) : Bool :=
  !(work.execution.position.givesSlotBack && work.takesUp action)

def SlotSettled (work : Workspace Hash) (action : WorkerAction Hash) : Prop :=
  work.slotSettled action = true

/-- The phase before the slot is given back is one in which the Run does not run. -/
structure SlotInv (execution : Execution) : Prop where
  held : execution.position.isEnded = false → execution.phase = .running → execution.slotHeld = true
  idle : execution.position.givesSlotBack = true →
    execution.phase = .waitingUser ∨ execution.phase = .paused
  fresh : execution.position.isFresh = true → execution.slotHeld = true

structure Position.Streaming (position : Position) : Prop where
  quiet : position.givesSlotBack = false
  requested : position.isFresh = false

/-- Phase, slot and position are the same, or the execution goes on to a position of its
stream with phase and slot as they were. -/
structure SlotKept (before after : Execution) : Prop where
  phase : after.phase = before.phase
  slot : after.slotHeld = before.slotHeld
  position : after.position = before.position ∨ after.position.Streaming ∧
    (before.position.isEnded = true → after.position.isEnded = true)

section

variable {agent : LocalAgent Hash} {clock : Time} {work : Workspace Hash}

theorem slot_kept_refl (execution : Execution) : SlotKept execution execution :=
  ⟨rfl, rfl, Or.inl rfl⟩

theorem slot_inv_kept {before after : Execution} (inv : SlotInv before)
    (kept : SlotKept before after) : SlotInv after := by
  obtain ⟨phase, slot, position⟩ := kept
  constructor
  · intro open_ running
    rw [slot]
    rw [phase] at running
    apply inv.held _ running
    rcases position with same | ⟨-, ending⟩
    · rwa [same] at open_
    · by_contra ended
      rw [Bool.not_eq_false] at ended
      rw [ending ended] at open_
      cases open_
  · intro giving
    rw [phase]
    rcases position with same | ⟨streaming, -⟩
    · rw [same] at giving
      exact inv.idle giving
    · rw [streaming.quiet] at giving
      cases giving
  · intro fresh
    rw [slot]
    rcases position with same | ⟨streaming, -⟩
    · rw [same] at fresh
      exact inv.fresh fresh
    · rw [streaming.requested] at fresh
      cases fresh

theorem slot_kept_moved {before after : Execution} (alive : before.position.isEnded = false)
    (phase : after.phase = before.phase) (slot : after.slotHeld = before.slotHeld)
    (streaming : after.position.Streaming) : SlotKept before after := by
  constructor
  · exact phase
  · exact slot
  · right
    apply And.intro streaming
    intro ended
    rw [alive] at ended
    cases ended

variable {execution : Execution}

theorem slot_inv_resting (resting : execution.phase ≠ .running)
    (streaming : execution.position.Streaming) : SlotInv execution := by
  constructor
  · intro _ running
    exact absurd running resting
  · intro giving
    rw [streaming.quiet] at giving
    cases giving
  · intro fresh
    rw [streaming.requested] at fresh
    cases fresh

theorem slot_inv_holding (holding : execution.slotHeld = true)
    (quiet : execution.position.givesSlotBack = false) : SlotInv execution := by
  constructor
  · intro _ _
    exact holding
  · intro giving
    rw [quiet] at giving
    cases giving
  · intro _
    exact holding

theorem ended_position {position : Position} (ended : position.isEnded = true) :
    position = .ended := by
  cases position <;> first | rfl | cases ended

theorem slot_inv_ended (ended : execution.position.isEnded = true) : SlotInv execution := by
  have position := ended_position ended
  constructor
  · intro open_
    rw [ended] at open_
    cases open_
  · intro giving
    rw [position] at giving
    cases giving
  · intro fresh
    rw [position] at fresh
    cases fresh

theorem fail_slot (preflight : Bool) (message : String)
    (alive : work.execution.position.isEnded = false) :
    SlotKept work.execution (work.fail agent clock preflight message).execution := by
  rcases fail_cases preflight message with same | same
  · rw [same]
    exact slot_kept_moved alive rfl rfl ⟨rfl, rfl⟩
  · rw [same]
    exact slot_kept_moved alive rfl rfl ⟨rfl, rfl⟩

theorem append_slot (events : List (String × Json)) (next : Execution)
    (alive : work.execution.position.isEnded = false) :
    (work.append agent clock events next).execution = next ∨
      SlotKept work.execution (work.append agent clock events next).execution := by
  rcases append_cases events next with same | ⟨transport, message, same⟩
  · exact Or.inl same
  · have failing : (Workspace.mk transport work.execution).execution.position.isEnded = false :=
      alive
    rw [same]
    exact Or.inr (fail_slot false message failing)

theorem acknowledge_slot (command : Command) :
    SlotKept work.execution (work.acknowledge agent clock command).execution := by
  rcases acknowledge_cases command with same | same
  · rw [same]
    exact ⟨rfl, rfl, Or.inl rfl⟩
  · rw [same]
    exact ⟨rfl, rfl, Or.inl rfl⟩

theorem restart_slot (resumedFrom : String) (opensGate : Bool) (command : Command) :
    SlotKept work.execution (work.restart agent clock resumedFrom opensGate command).execution := by
  rcases restart_cases resumedFrom opensGate command with ⟨transport, same⟩ | same
  · rw [same]
    obtain ⟨phase, slot, position⟩ := acknowledge_slot command
    exact ⟨phase, slot, position⟩
  · rw [same]
    exact ⟨rfl, rfl, Or.inl rfl⟩

theorem append_slot_inv {events : List (String × Json)} {next : Execution}
    (alive : work.execution.position.isEnded = false) (before : SlotInv work.execution)
    (after : SlotInv next) : SlotInv (work.append agent clock events next).execution := by
  rcases append_slot events next alive with same | kept
  · rw [same]
    exact after
  · exact slot_inv_kept before kept

theorem start_slot_inv (fresh : work.execution.position = .preparing)
    (inv : SlotInv work.execution) : SlotInv (work.start agent clock).execution := by
  have holding : work.execution.slotHeld = true := by
    apply inv.fresh
    rw [fresh]
    rfl
  unfold Workspace.start
  dsimp only
  split
  · exact slot_inv_holding holding rfl
  · next error _ =>
    have started : SlotInv { work.execution with control := .handling [] } :=
      slot_inv_kept inv ⟨rfl, rfl, Or.inl rfl⟩
    have alive : work.execution.position.isEnded = false := by
      rw [fresh]
      rfl
    exact slot_inv_kept started (@fail_slot _ agent clock
      ⟨_, { work.execution with control := .handling [] }⟩ true error.message alive)

theorem finish_slot_inv (alive : work.execution.position.isEnded = false)
    (inv : SlotInv work.execution) : SlotInv (work.finish agent clock).execution := by
  unfold Workspace.finish
  dsimp only
  apply append_slot_inv alive inv
  apply slot_inv_resting
  · dsimp only
    split
    · decide
    · split <;> decide
  · constructor <;> rfl

theorem emit_slot_inv (eventType : String) (payload : Json) (rest : List (String × Json))
    (alive : work.execution.position.isEnded = false) (quiet : work.execution.position.Streaming)
    (inv : SlotInv work.execution) :
    SlotInv (work.emit agent clock eventType payload rest).execution := by
  unfold Workspace.emit
  dsimp only
  by_cases asks : eventType = "ask_user"
  · simp only [asks, if_true]
    apply append_slot_inv
    · exact alive
    · exact slot_inv_resting (by simp) quiet
    · constructor
      · intro _ running
        cases running
      · intro _
        exact Or.inl rfl
      · intro fresh
        cases fresh
  · simp only [asks, if_false]
    apply append_slot_inv
    · exact alive
    · exact slot_inv_kept inv ⟨rfl, rfl, Or.inl rfl⟩
    · apply slot_inv_kept inv
      exact slot_kept_moved alive rfl rfl ⟨rfl, rfl⟩

theorem proceed_slot_inv (alive : work.execution.position.isEnded = false)
    (inv : SlotInv work.execution) : SlotInv (work.proceed agent clock).execution := by
  unfold Workspace.proceed
  split
  · exact finish_slot_inv alive inv
  · apply slot_inv_kept inv
    exact slot_kept_moved alive rfl rfl ⟨rfl, rfl⟩

theorem pause_at_boundary_slot_inv (alive : work.execution.position.isEnded = false)
    (streaming : work.execution.position.Streaming) (inv : SlotInv work.execution) :
    SlotInv (work.pauseAtBoundary agent clock).execution := by
  unfold Workspace.pauseAtBoundary
  dsimp only
  split
  · exact proceed_slot_inv alive inv
  · apply append_slot_inv
    · exact alive
    · exact slot_inv_resting (by simp) streaming
    · constructor
      · intro _ running
        cases running
      · intro _
        exact Or.inr rfl
      · intro fresh
        cases fresh

theorem handle_slot (room : Bool) (command : Command) :
    SlotKept work.execution (work.handle agent clock room command).execution ∨
      work.execution.reopens room command = true ∧ ∃ execution : Execution,
        execution.slotHeld = true ∧ execution.position = work.execution.position ∧
          SlotKept execution (work.handle agent clock room command).execution := by
  unfold Workspace.handle
  split
  · exact Or.inl (slot_kept_refl _)
  · next unseen =>
    rw [not_or] at unseen
    split
    · left
      have kept := @acknowledge_slot _ agent clock ⟨work.transport, work.execution.stop⟩ command
      exact ⟨kept.phase, kept.slot, kept.position⟩
    · left
      split
      · exact acknowledge_slot command
      · exact ⟨rfl, rfl, Or.inl rfl⟩
    · next resume =>
      split
      · next paused =>
        split
        · next execution taken =>
          obtain ⟨room_left, rfl⟩ := reacquire_some taken
          right
          constructor
          · simp [Execution.reopens, unseen, room_left, resume, paused]
          · refine ⟨_, ?_, ?_, restart_slot "paused" true command⟩ <;> rfl
        · exact Or.inl (slot_kept_refl _)
      · exact Or.inl (acknowledge_slot command)
    · next answer =>
      split
      · next execution taken =>
        obtain ⟨room_left, rfl⟩ := reacquire_some taken
        right
        constructor
        · simp [Execution.reopens, unseen, room_left, answer]
        · refine ⟨_, ?_, ?_, restart_slot "waiting_user" false command⟩ <;> rfl
      · exact Or.inl (slot_kept_refl _)

theorem handle_slot_inv {room : Bool} {command : Command} {rest : List Command}
    (posted : work.execution.control = .handling (command :: rest)) (inv : SlotInv work.execution)
    (settled : SlotSettled work (.task clock (.handle room))) :
    SlotInv (Workspace.handle agent clock { work with
      execution := { work.execution with control := .handling rest } } room command).execution := by
  have before : SlotInv { work.execution with control := .handling rest } :=
    slot_inv_kept inv ⟨rfl, rfl, Or.inl rfl⟩
  have handled := @handle_slot _ agent clock { work with
    execution := { work.execution with control := .handling rest } } room command
  rcases handled with kept | ⟨reopened, execution, holding, position, kept⟩
  · exact slot_inv_kept before kept
  · refine slot_inv_kept (slot_inv_holding holding ?_) kept
    rw [position]
    by_contra giving
    rw [Bool.not_eq_false] at giving
    have taken : work.takesUp (.task clock (.handle room)) = true := by
      simp only [Workspace.takesUp, posted]
      exact reopened
    rw [SlotSettled, Workspace.slotSettled, giving, taken] at settled
    cases settled

theorem settle_renewal_slot (lease : LocalLease) (reply : Reply LeaseRenewal) :
    SlotKept work.execution (work.settleRenewal clock lease reply).execution := by
  unfold Workspace.settleRenewal
  dsimp only
  split
  · exact ⟨rfl, rfl, Or.inl rfl⟩
  · split
    · exact ⟨rfl, rfl, Or.inl rfl⟩
    · exact ⟨rfl, rfl, Or.inl rfl⟩

end

section

variable {agent : LocalAgent Hash} {clock : Time} {work next : Workspace Hash}

theorem task_slot_inv {task : Task} (inv : SlotInv work.execution)
    (settled : SlotSettled work (.task clock task)) (move : work.Move agent clock task next) :
    SlotInv next.execution := by
  have alive : ∀ {position : Position}, work.execution.position = position →
      position.isEnded = false → work.execution.position.isEnded = false := by
    intro position found alive
    rwa [found]
  have moved : ∀ {after : Execution}, work.execution.position.isEnded = false →
      after.phase = work.execution.phase → after.slotHeld = work.execution.slotHeld →
      after.position.Streaming → SlotInv after := by
    intro after open_ phase slot streaming
    exact slot_inv_kept inv (slot_kept_moved open_ phase slot streaming)
  have fresh : ∀ {position : Position}, work.execution.position = position →
      position.isFresh = true → work.execution.slotHeld = true := by
    intro position found fresh
    apply inv.fresh
    rwa [found]
  cases move with
  | load position => exact slot_inv_holding (fresh position rfl) rfl
  | loaded position => exact slot_inv_holding (fresh position rfl) rfl
  | prepare position => exact start_slot_inv position inv
  | preflightFail message open_ => exact slot_inv_kept inv (fail_slot true message open_)
  | begin position => exact moved (alive position rfl) rfl rfl ⟨rfl, rfl⟩
  | register => exact slot_inv_kept inv ⟨rfl, rfl, Or.inl rfl⟩
  | yieldFrames frames position => exact moved (alive position rfl) rfl rfl ⟨rfl, rfl⟩
  | ask questions position =>
    apply emit_slot_inv
    · exact alive position rfl
    · constructor <;> dsimp only <;> rw [position] <;> rfl
    · exact slot_inv_kept inv ⟨rfl, rfl, Or.inl rfl⟩
  | wake => exact slot_inv_kept inv ⟨rfl, rfl, Or.inl rfl⟩
  | emit eventType payload rest position =>
    apply emit_slot_inv
    · exact alive position rfl
    · constructor <;> rw [position] <;> rfl
    · exact inv
  | reported rest position =>
    apply slot_inv_resting
    · have idle := inv.idle (by rw [position]; rfl)
      rcases idle with phase | phase <;> simp [phase]
    · constructor <;> rfl
  | confirmed position =>
    apply slot_inv_resting
    · have idle := inv.idle (by rw [position]; rfl)
      rcases idle with phase | phase <;> simp [phase]
    · constructor <;> rfl
  | boundary position =>
    apply pause_at_boundary_slot_inv
    · exact alive position rfl
    · constructor <;> rw [position] <;> rfl
    · exact inv
  | leavePause position => exact proceed_slot_inv (alive position rfl) inv
  | finish position =>
    apply finish_slot_inv
    · exact alive position rfl
    · exact slot_inv_kept inv ⟨rfl, rfl, Or.inl rfl⟩
  | fail message open_ => exact slot_inv_kept inv (fail_slot false message open_)
  | close terminal open_ => exact moved open_ rfl rfl ⟨rfl, rfl⟩
  | leave ended => exact slot_inv_ended ended
  | cancel => exact slot_inv_ended rfl
  | renew => exact slot_inv_kept inv ⟨rfl, rfl, Or.inl rfl⟩
  | fenced => exact slot_inv_kept inv ⟨rfl, rfl, Or.inl rfl⟩
  | settle lease reply => exact slot_inv_kept inv (settle_renewal_slot lease reply)
  | handle room command rest posted => exact handle_slot_inv posted inv settled

@[simp] theorem fail_slot_held (preflight : Bool) (message : String) :
    (work.fail agent clock preflight message).execution.slotHeld = work.execution.slotHeld := by
  rcases fail_cases preflight message with same | same <;> rw [same]

theorem append_slot_held {events : List (String × Json)} {after : Execution}
    (same : after.slotHeld = work.execution.slotHeld) :
    (work.append agent clock events after).execution.slotHeld = work.execution.slotHeld := by
  have appended := @append_cases _ agent clock work events after
  rcases appended with planned | ⟨transport, message, failed⟩
  · rw [planned]
    exact same
  · rw [failed]
    exact fail_slot_held false message

@[simp] theorem start_slot_held :
    (work.start agent clock).execution.slotHeld = work.execution.slotHeld := by
  unfold Workspace.start
  dsimp only
  split
  · rfl
  · exact fail_slot_held true _

@[simp] theorem finish_slot_held :
    (work.finish agent clock).execution.slotHeld = work.execution.slotHeld :=
  append_slot_held rfl

@[simp] theorem emit_slot_held (eventType : String) (payload : Json) (rest : List (String × Json)) :
    (work.emit agent clock eventType payload rest).execution.slotHeld =
      work.execution.slotHeld := by
  apply append_slot_held
  rfl

@[simp] theorem proceed_slot_held :
    (work.proceed agent clock).execution.slotHeld = work.execution.slotHeld := by
  unfold Workspace.proceed
  split
  · exact finish_slot_held
  · rfl

@[simp] theorem pause_at_boundary_slot_held :
    (work.pauseAtBoundary agent clock).execution.slotHeld = work.execution.slotHeld := by
  unfold Workspace.pauseAtBoundary
  dsimp only
  split
  · exact proceed_slot_held
  · apply append_slot_held
    rfl

theorem handle_slot_held {room : Bool} {command : Command}
    (holding : work.execution.slotHeld = true) :
    (work.handle agent clock room command).execution.slotHeld = true := by
  have handled := @handle_slot _ agent clock work room command
  rcases handled with kept | ⟨-, execution, held, -, kept⟩
  · rw [kept.slot, holding]
  · rw [kept.slot, held]

theorem move_releases {task : Task} (move : work.Move agent clock task next)
    (holding : work.execution.slotHeld = true) (released : next.execution.slotHeld = false) :
    work.execution.position.givesSlotBack = true ∨ work.execution.position.isEnded = true := by
  by_contra neither
  have kept : next.execution.slotHeld = true := by
    cases move with
    | reported rest position => simp [position, Position.givesSlotBack] at neither
    | confirmed position => simp [position, Position.givesSlotBack] at neither
    | leave ended => simp [ended] at neither
    | handle room command rest posted =>
      apply handle_slot_held
      exact holding
    | settle lease reply =>
      rw [(settle_renewal_slot lease reply).slot, holding]
    | _ => simp [Workspace.ask, Execution.stop, holding]
  rw [kept] at released
  cases released

theorem step_slot_inv {action : WorkerAction Hash} (inv : SlotInv work.execution)
    (settled : SlotSettled work action) (taken : work.step agent action = some next) :
    SlotInv next.execution := by
  cases action with
  | task clock task => exact task_slot_inv inv settled (run_move taken)
  | reply reply =>
    rw [Workspace.step] at taken
    split at taken
    · cases taken
      exact slot_inv_kept inv ⟨rfl, rfl, Or.inl rfl⟩
    · cases taken
  | tables transport =>
    cases taken
    exact inv

theorem step_releases {action : WorkerAction Hash} (taken : work.step agent action = some next)
    (holding : work.execution.slotHeld = true) (released : next.execution.slotHeld = false) :
    work.execution.position.givesSlotBack = true ∨ work.execution.position.isEnded = true := by
  cases action with
  | task clock task => exact move_releases (run_move taken) holding released
  | reply reply =>
    rw [Workspace.step] at taken
    split at taken
    · cases taken
      rw [holding] at released
      cases released
    · cases taken
  | tables transport =>
    cases taken
    rw [holding] at released
    cases released

end

theorem claimed_slot_inv (leaseEpoch : Nat) : SlotInv (Execution.claimed leaseEpoch) :=
  slot_inv_holding rfl rfl

theorem reachable_slot_inv {agent : LocalAgent Hash} {work : Workspace Hash}
    (reachable : (workerMachine agent).Reachable SlotSettled work) : SlotInv work.execution := by
  apply reachable_invariant (fun work => SlotInv work.execution) _ _ reachable
  · intro start initial
    obtain ⟨leaseEpoch, claimed⟩ := initial
    rw [claimed]
    exact claimed_slot_inv leaseEpoch
  · intro work action next inv settled taken
    exact step_slot_inv inv settled taken

/-- Until the execution ended it holds a slot while it runs, and gives one back only
while it waits or is paused. -/
theorem executing_holds_slot (agent : LocalAgent Hash) {work : Workspace Hash}
    (reachable : (workerMachine agent).Reachable SlotSettled work)
    (open_ : work.execution.position.isEnded = false) :
    (work.execution.phase = .running → work.execution.slotHeld = true) ∧
      ∀ action next, (workerMachine agent).Step work action next →
        work.execution.slotHeld = true → next.execution.slotHeld = false →
          work.execution.phase = .waitingUser ∨ work.execution.phase = .paused := by
  have inv := reachable_slot_inv reachable
  constructor
  · exact inv.held open_
  · intro action next taken holding released
    rcases step_releases taken holding released with giving | ended
    · exact inv.idle giving
    · rw [open_] at ended
      cases ended

def claimedWork : Workspace Envelope :=
  { transport := ⟨some ⟨"lease", 1, 30, 0, .active⟩, [], [], [], 0⟩
    execution := Execution.claimed 1 }

def Workspace.runAll (agent : LocalAgent Envelope)
    (guard : Workspace Envelope → WorkerAction Envelope → Bool)
    (actions : List (WorkerAction Envelope)) : Option (Workspace Envelope) :=
  actions.foldlM (fun work action =>
    if guard work action then work.step agent action else none) claimedWork

theorem worker_run_reachable {agent : LocalAgent Envelope}
    (guard : Workspace Envelope → WorkerAction Envelope → Bool)
    {actions : List (WorkerAction Envelope)} {finish : Workspace Envelope}
    (ran : Workspace.runAll agent guard actions = some finish) :
    (workerMachine agent).Reachable (fun work action => guard work action = true) finish :=
  ⟨claimedWork, ⟨1, rfl⟩, path_of_run guard (Workspace.step agent) (fun _ _ _ taken => taken) ran⟩

def yesAnswer : Command :=
  { id := "answer", runId := "run", ownerId := "ada", commandType := .askUserAnswer, version := 1
    payload := .obj [("question_event_id", .str "eeeeeeeee"), ("answers", .arr [.str "yes"])]
    status := .pending, createdAt := 4, acknowledgedAt := 0 }

def askedRun : List (WorkerAction Envelope) :=
  [.task 1 .load, .task 1 .loaded, .task 1 .prepare, .task 2 .begin, .task 2 .register,
    .task 3 (.ask [.str "Proceed?"]), .task 5 .renew,
    .reply (.answered (.ok ⟨35, 0, [yesAnswer]⟩)), .task 5 .settle]

def answerBeforeRelease : List (WorkerAction Envelope) :=
  askedRun ++ [.task 5 (.handle true), .task 6 .release]

def answerAfterRelease : List (WorkerAction Envelope) :=
  askedRun ++ [.task 5 .release, .task 6 (.handle true)]

theorem answered_execution_loses_slot : ∃ work : Workspace Envelope,
    (workerMachine laptopAgent).Reachable Anything work ∧
      work.execution.position.isEnded = false ∧ work.execution.phase = .running ∧
      work.execution.slotHeld = false := by
  have ran : ((Workspace.runAll laptopAgent (fun _ _ => true) answerBeforeRelease).map fun work =>
      (work.execution.position.isEnded, work.execution.phase, work.execution.slotHeld)) =
      some (false, .running, false) := by decide +kernel
  obtain ⟨work, done, seen⟩ := Option.map_eq_some_iff.mp ran
  simp only [Prod.mk.injEq] at seen
  exact ⟨work, reachable_weaken (fun _ _ _ => trivial) (worker_run_reachable _ done), seen⟩

theorem answered_execution_holds_slot : ∃ work : Workspace Envelope,
    Workspace.runAll laptopAgent Workspace.slotSettled answerAfterRelease = some work ∧
      work.execution.phase = .running ∧ work.execution.slotHeld = true := by
  have ran : ((Workspace.runAll laptopAgent Workspace.slotSettled answerAfterRelease).map
      fun work => (work.execution.position.isEnded, work.execution.phase)) =
      some (false, .running) := by decide +kernel
  obtain ⟨work, done, seen⟩ := Option.map_eq_some_iff.mp ran
  simp only [Prod.mk.injEq] at seen
  have holds := executing_holds_slot laptopAgent (worker_run_reachable _ done) seen.1
  exact ⟨work, done, seen.2, holds.1 seen.2⟩

end AgentMate
