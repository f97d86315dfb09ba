import AgentMate.WalRetention
import AgentMate.WorkerOutcome

/-!
# The worker on its device

The executions of one Run in the worker's process, with the tables and the requests
that the device shares with the Server. Events are appended and leases renewed by the
executions alone: the local endpoints that do so for other programs are not called.
Executions that have ended stay in the list.
-/

namespace AgentMate

open TransitionSystem Option

variable {Hash : Type}

structure Deployment (Hash : Type) where
  network : Network Hash
  executions : List Execution

/-- An exchange with the Server, the end of `claim_run`, another Run's append, another
execution's hold on the slot of the Run, a task of an execution, the end of its
`renew_lease`, and the end of the process. -/
inductive Deployment.Action (Hash : Type) where
  | exchange (action : Network.Action Hash)
  | record (index : Nat)
  | others (otherBytes : Nat)
  | slot (index : Nat) (held : Bool)
  | task (index : Nat) (clock : Time) (task : Task)
  | settle (index reply : Nat) (clock : Time)
  | restart

def Network.Action.isExchange : Network.Action Hash → Bool
  | .record _ | .append .. | .postRenewal | .settleRenewal .. | .restart => false
  | _ => true

def Execution.kill (execution : Execution) : Execution :=
  { execution with
    position := .ended, state := { execution.state with terminal := true }, control := .done }

def Task.posts (task : Task) (execution : Execution) : Option LocalLease :=
  match task, execution.control with
  | .renew, .posted lease => some lease
  | _, _ => none

section

variable [DecidableEq Hash] (agent : LocalAgent Hash)

def Deployment.started (deployment : Deployment Hash) (grant : LeaseGrant) : List Execution :=
  match deployment.network.transport.recordLease grant with
  | .ok _ => deployment.executions ++ [Execution.claimed grant.leaseEpoch]
  | .error _ => deployment.executions

def Deployment.after (deployment : Deployment Hash) (index : Nat) (task : Task)
    (work : Workspace Hash) : Deployment Hash :=
  { network := { deployment.network with
      transport := work.transport
      renewals := match task.posts work.execution with
        | some lease => deployment.network.renewals.post lease
        | none => deployment.network.renewals }
    executions := deployment.executions.set index work.execution }

def Deployment.afterReply (deployment : Deployment Hash) (index reply : Nat)
    (work : Workspace Hash) : Deployment Hash :=
  { network := { deployment.network with
      transport := work.transport, renewals := deployment.network.renewals.read reply }
    executions := deployment.executions.set index work.execution }

def Deployment.step (deployment : Deployment Hash) :
    Deployment.Action Hash → Option (Deployment Hash)
  | .exchange action =>
    if action.isExchange then
      (deployment.network.step agent action).map fun network =>
        { deployment with network := network }
    else none
  | .record index =>
    match deployment.network.grants[index]? with
    | some grant => (deployment.network.step agent (.record index)).map fun network =>
      ⟨network, deployment.started grant⟩
    | none => none
  | .others otherBytes => some { deployment with network := { deployment.network with
      transport := { deployment.network.transport with otherBytes := otherBytes } } }
  | .slot index held => deployment.executions[index]?.map fun execution =>
    { deployment with
      executions := deployment.executions.set index { execution with slotHeld := held } }
  | .task index clock task =>
    match deployment.executions[index]? with
    | some execution =>
      if task.isSettle then none
      else (Workspace.run agent clock ⟨deployment.network.transport, execution⟩ task).map
        (deployment.after index task)
    | none => none
  | .settle index reply clock =>
    match deployment.executions[index]?, deployment.network.renewals.replies[reply]? with
    | some execution, some (lease, answer) =>
      match execution.control with
      | .posted posted =>
        if posted = lease then
          some (deployment.afterReply index reply (Workspace.settleRenewal clock
            ⟨deployment.network.transport, execution⟩ lease answer))
        else none
      | _ => none
    | _, _ => none
  | .restart => (deployment.network.step agent .restart).map fun network =>
    ⟨network, deployment.executions.map Execution.kill⟩

structure Deployment.Initial (deployment : Deployment Hash) : Prop where
  network : deployment.network.Initial
  executions : deployment.executions = []

def deploymentMachine : Machine (Deployment Hash) (Deployment.Action Hash) where
  Initial := Deployment.Initial
  Step deployment action next := deployment.step agent action = some next

inductive Deployment.Move (deployment : Deployment Hash) :
    Deployment.Action Hash → Deployment Hash → Prop
  | exchange (action : Network.Action Hash) (network : Network Hash) : action.isExchange = true →
      (networkMachine agent).Step deployment.network action network →
      deployment.Move (.exchange action) { deployment with network := network }
  | record (index : Nat) (grant : LeaseGrant) (network : Network Hash) :
      deployment.network.grants[index]? = some grant →
      (networkMachine agent).Step deployment.network (.record index) network →
      deployment.Move (.record index) ⟨network, deployment.started grant⟩
  | others (otherBytes : Nat) : deployment.Move (.others otherBytes) { deployment with
      network := { deployment.network with
        transport := { deployment.network.transport with otherBytes := otherBytes } } }
  | slot (index : Nat) (held : Bool) (execution : Execution) :
      deployment.executions[index]? = some execution →
      deployment.Move (.slot index held) { deployment with
        executions := deployment.executions.set index { execution with slotHeld := held } }
  | task (index : Nat) (clock : Time) (task : Task) (execution : Execution)
      (work : Workspace Hash) : deployment.executions[index]? = some execution →
      task.isSettle = false →
      Workspace.run agent clock ⟨deployment.network.transport, execution⟩ task = some work →
      deployment.Move (.task index clock task) (deployment.after index task work)
  | settle (index reply : Nat) (clock : Time) (execution : Execution) (lease : LocalLease)
      (answer : Reply LeaseRenewal) : deployment.executions[index]? = some execution →
      deployment.network.renewals.replies[reply]? = some (lease, answer) →
      execution.control = .posted lease →
      deployment.Move (.settle index reply clock) (deployment.afterReply index reply
        (Workspace.settleRenewal clock ⟨deployment.network.transport, execution⟩ lease answer))
  | restart (network : Network Hash) :
      (networkMachine agent).Step deployment.network .restart network →
      deployment.Move .restart ⟨network, deployment.executions.map Execution.kill⟩

variable {agent}

theorem deployment_step_move {deployment next : Deployment Hash}
    {action : Deployment.Action Hash}
    (step : (deploymentMachine agent).Step deployment action next) :
    deployment.Move agent action next := by
  change deployment.step agent action = some next at step
  cases action with
  | exchange action =>
    simp only [Deployment.step, ite_none_right_eq_some, map_eq_some_iff] at step
    obtain ⟨own, network, taken, rfl⟩ := step
    exact .exchange action network own taken
  | record index =>
    simp only [Deployment.step] at step
    split at step
    · next grant found =>
      obtain ⟨network, taken, rfl⟩ := map_eq_some_iff.mp step
      exact .record index grant network found taken
    · cases step
  | others otherBytes =>
    cases step
    exact .others otherBytes
  | slot index held =>
    simp only [Deployment.step, map_eq_some_iff] at step
    obtain ⟨execution, found, rfl⟩ := step
    exact .slot index held execution found
  | task index clock task =>
    simp only [Deployment.step] at step
    split at step
    · next execution found =>
      split at step
      · cases step
      · next other =>
        obtain ⟨work, ran, rfl⟩ := map_eq_some_iff.mp step
        rw [Bool.not_eq_true] at other
        exact .task index clock task execution work found other ran
    · cases step
  | settle index reply clock =>
    simp only [Deployment.step] at step
    split at step
    · next execution lease answer found replied =>
      split at step
      · next posted control =>
        split at step
        · next same =>
          subst same
          cases step
          exact .settle index reply clock execution posted answer found replied control
        · cases step
      · cases step
    · cases step
  | restart =>
    simp only [Deployment.step, map_eq_some_iff] at step
    obtain ⟨network, taken, rfl⟩ := step
    exact .restart network taken

end

/-! ## The network of a deployment

Up to the bytes of other Runs, every run of a deployment is one of its network.
-/

def Network.holding (network : Network Hash) (otherBytes : Nat) : Network Hash :=
  { network with transport := { network.transport with otherBytes := otherBytes } }

theorem holding_server (network : Network Hash) (otherBytes : Nat) :
    (network.holding otherBytes).server = network.server := rfl

theorem holding_flushes (network : Network Hash) (otherBytes : Nat) :
    (network.holding otherBytes).flushes = network.flushes := rfl

theorem holding_renewals (network : Network Hash) (otherBytes : Nat) :
    (network.holding otherBytes).renewals = network.renewals := rfl

theorem holding_active_lease (network : Network Hash) (otherBytes : Nat) :
    (network.holding otherBytes).transport.activeLease = network.transport.activeLease := rfl

section

variable {agent : LocalAgent Hash} {clock : Time} {work next : Workspace Hash} {task : Task}

theorem outcome_appends {transport : Transport Hash} {events : List (String × Json)}
    {planned before : Execution}
    (outcome : Outcome agent clock transport events planned before next) :
    ∃ added, Appends agent clock transport added next.transport := by
  cases outcome with
  | planned finish appends => exact ⟨_, appends⟩
  | failed added failure finish after start partly failures appends => exact ⟨_, appends⟩

theorem fail_appends (preflight : Bool) (message : String) :
    ∃ added, Appends agent clock work.transport added
      (work.fail agent clock preflight message).transport := by
  obtain ⟨failure, -, appends, -⟩ := @fail_outcome _ agent clock work preflight message
  exact ⟨failure, appends⟩

theorem finish_appends (transport : Transport Hash) (execution : Execution) :
    ∃ added, Appends agent clock transport added
      (Workspace.finish agent clock ⟨transport, execution⟩).transport := by
  obtain ⟨eventType, payload, phase, -, outcome⟩ :=
    @finish_outcome _ agent clock ⟨transport, execution⟩
  exact outcome_appends outcome

theorem proceed_appends :
    ∃ added, Appends agent clock work.transport added (work.proceed agent clock).transport := by
  rcases @proceed_outcome _ agent clock work with same | same
  · rw [same]
    exact finish_appends work.transport work.execution
  · rw [same]
    exact ⟨[], .nil _⟩

theorem emit_appends (transport : Transport Hash) (execution : Execution) (eventType : String)
    (payload : Json) (rest : List (String × Json)) :
    ∃ added, Appends agent clock transport added
      (Workspace.emit agent clock ⟨transport, execution⟩ eventType payload rest).transport :=
  outcome_appends (@emit_outcome _ agent clock ⟨transport, execution⟩ eventType payload rest)

theorem handle_appends (transport : Transport Hash) (execution : Execution) (room : Bool)
    (command : Command) : ∃ added, Appends agent clock transport added
      (Workspace.handle agent clock ⟨transport, execution⟩ room command).transport := by
  have acknowledged : ∀ execution : Execution, ∃ added, Appends agent clock transport added
      (Workspace.acknowledge agent clock ⟨transport, execution⟩ command).transport := by
    intro execution
    obtain ⟨added, -, appends, -⟩ :=
      @acknowledge_outcome _ agent clock ⟨transport, execution⟩ command
    exact ⟨added, appends⟩
  have restarted : ∀ (execution : Execution) (resumedFrom : String) (opensGate : Bool),
      ∃ added, Appends agent clock transport added (Workspace.restart agent clock
        ⟨transport, execution⟩ resumedFrom opensGate command).transport := by
    intro execution resumedFrom opensGate
    obtain ⟨added, gateSet, -, appends, -⟩ := @restart_outcome _ agent clock
      ⟨transport, execution⟩ resumedFrom opensGate command
    exact ⟨added, appends⟩
  unfold Workspace.handle
  split
  · exact ⟨[], .nil _⟩
  · split
    · exact acknowledged _
    · split
      · exact acknowledged _
      · exact ⟨[], .nil _⟩
    · split
      · split
        · exact restarted _ _ _
        · exact ⟨[], .nil _⟩
      · exact acknowledged _
    · split
      · exact restarted _ _ _
      · exact ⟨[], .nil _⟩

theorem task_appends (other : task.isSettle = false) (move : work.Move agent clock task next) :
    ∃ added, Appends agent clock work.transport added next.transport := by
  cases move with
  | prepare => exact outcome_appends start_outcome
  | preflightFail message => exact fail_appends true message
  | ask => exact emit_appends work.transport _ _ _ _
  | emit => exact emit_appends work.transport work.execution _ _ _
  | boundary =>
    rcases @pause_at_boundary_outcome _ agent clock work with same | ⟨-, events, -, outcome⟩
    · rw [same]
      exact proceed_appends
    · exact outcome_appends outcome
  | leavePause => exact proceed_appends
  | finish => exact finish_appends work.transport _
  | fail message => exact fail_appends false message
  | settle => cases other
  | handle room command => exact handle_appends work.transport _ room command
  | _ => exact ⟨[], .nil _⟩

theorem settle_renewal_transport (lease : LocalLease) (reply : Reply LeaseRenewal) :
    (work.settleRenewal clock lease reply).transport =
      (work.transport.settleRenewal lease clock reply).1 := by
  unfold Workspace.settleRenewal
  dsimp only
  split
  · rfl
  · split <;> rfl

theorem task_posts {lease : LocalLease} (move : work.Move agent clock task next)
    (posts : task.posts next.execution = some lease) :
    next.transport = work.transport ∧ work.transport.lease = some lease ∧
      lease.status = .active := by
  cases move with
  | renew held handling found active =>
    cases posts
    exact ⟨rfl, found, active⟩
  | _ => cases posts

end

section

theorem record_lease_holding (transport : Transport Hash) (grant : LeaseGrant) (otherBytes : Nat) :
    ({ transport with otherBytes := otherBytes }.recordLease grant).toOption.getD
        { transport with otherBytes := otherBytes } =
      { (transport.recordLease grant).toOption.getD transport with otherBytes := otherBytes } := by
  unfold Transport.recordLease
  dsimp only
  split
  · rfl
  · split <;> rfl

theorem settle_flush_holding (transport : Transport Hash) (flight : Flight Hash)
    (reply : Reply SubmitReply) (otherBytes : Nat) :
    { transport with otherBytes := otherBytes }.settleFlush flight reply =
      { transport.settleFlush flight reply with otherBytes := otherBytes } := by
  unfold Transport.settleFlush
  split
  · split <;> rfl
  · split <;> rfl
  · rfl
  · rfl

theorem settle_renewal_holding (transport : Transport Hash) (posted : LocalLease) (clock : Time)
    (reply : Reply LeaseRenewal) (otherBytes : Nat) :
    ({ transport with otherBytes := otherBytes }.settleRenewal posted clock reply).1 =
      { (transport.settleRenewal posted clock reply).1 with otherBytes := otherBytes } := by
  unfold Transport.settleRenewal
  split
  · rfl
  · rfl
  · rfl
  · split <;> rfl

theorem restart_holding (transport : Transport Hash) (otherBytes : Nat) :
    { transport with otherBytes := otherBytes }.restart =
      { transport.restart with otherBytes := otherBytes } := by
  unfold Transport.restart
  dsimp only
  split
  · split <;> rfl
  · rfl

end

def Network.Action.isAppend : Network.Action Hash → Bool
  | .append .. => true
  | _ => false

section

variable [DecidableEq Hash] {agent : LocalAgent Hash} {network next : Network Hash}

theorem step_holding {action : Network.Action Hash}
    (other : action.isAppend = false) (otherBytes : Nat) :
    (network.holding otherBytes).step agent action =
      (network.step agent action).map fun next => next.holding otherBytes := by
  cases action with
  | serve action =>
    simp only [Network.step, apply_ite (Option.map _), map_some, map_none]
    rfl
  | claim now principal leaseSeconds leaseId =>
    simp only [Network.step, holding_server, apply_ite (Option.map _), map_none]
    congr 1
    cases leaseRun agent.host.toPyText network.server.store principal leaseSeconds leaseId now with
    | error error => rfl
    | ok leased =>
      obtain ⟨store, granted⟩ := leased
      cases granted with
      | none => rfl
      | some grant =>
        simp only [apply_ite (Option.map _), map_some, map_none]
        rfl
  | record index =>
    simp only [Network.step, Network.holding]
    cases network.grants[index]? with
    | none => rfl
    | some grant =>
      exact congrArg (fun transport => some { network with
        transport := transport, grants := network.grants.eraseIdx index })
        (record_lease_holding network.transport grant otherBytes)
  | append clock bytes eventType payload => cases other
  | openFlush =>
    simp only [Network.step, holding_active_lease]
    cases network.transport.activeLease <;> rfl
  | postFlush index =>
    simp only [Network.step, Network.holding]
    cases network.opened[index]? <;> rfl
  | serveFlush index now principal =>
    simp only [Network.step, holding_flushes]
    cases network.flushes.posted[index]? with
    | none => rfl
    | some item =>
      simp only [apply_ite (Option.map _), map_some, map_none]
      rfl
  | loseFlush index unauthorized => rfl
  | settleFlush index =>
    simp only [Network.step, Network.holding]
    cases network.flushes.replies[index]? with
    | none => rfl
    | some pair =>
      exact congrArg (fun transport => some { network with
        transport := transport, flushes := network.flushes.read index })
        (settle_flush_holding network.transport pair.1 pair.2 otherBytes)
  | postRenewal =>
    simp only [Network.step, holding_active_lease]
    cases network.transport.activeLease <;> rfl
  | serveRenewal index now principal =>
    simp only [Network.step, holding_renewals]
    cases network.renewals.posted[index]? with
    | none => rfl
    | some item =>
      simp only [apply_ite (Option.map _), map_some, map_none]
      rfl
  | loseRenewal index unauthorized => rfl
  | settleRenewal index clock =>
    simp only [Network.step, Network.holding]
    cases network.renewals.replies[index]? with
    | none => rfl
    | some pair =>
      exact congrArg (fun transport => some { network with
        transport := transport, renewals := network.renewals.read index })
        (settle_renewal_holding network.transport pair.1 clock pair.2 otherBytes)
  | restart =>
    exact congrArg (fun transport => some { network with
      transport := transport, grants := [], opened := []
      flushes := network.flushes.abandon, renewals := network.renewals.abandon })
      (restart_holding network.transport otherBytes)

theorem holding_path {action : Network.Action Hash} (other : action.isAppend = false)
    (step : (networkMachine agent).Step network action next) (otherBytes : Nat) :
    (networkMachine agent).Path Anything (network.holding otherBytes)
      (next.holding otherBytes) := by
  apply Machine.Path.step (.refl _) trivial
  change (network.holding otherBytes).step agent action = some (next.holding otherBytes)
  rw [step_holding other, show network.step agent action = some next from step, map_some]

theorem appends_path {clock : Time} {transport finish : Transport Hash}
    {events : List (String × Json)} (appends : Appends agent clock transport events finish)
    (network : Network Hash) (otherBytes : Nat) :
    ∃ bytes, (networkMachine agent).Path Anything
      ({ network with transport := transport }.holding otherBytes)
      ({ network with transport := finish }.holding bytes) := by
  induction appends generalizing otherBytes with
  | nil transport => exact ⟨otherBytes, .refl _⟩
  | @cons start middle finish eventType payload rest done appends ih =>
    obtain ⟨bytes, later⟩ := ih middle.otherBytes
    have step : (networkMachine agent).Step ({ network with transport := start }.holding otherBytes)
        (.append clock start.otherBytes eventType payload)
        ({ network with transport := middle }.holding middle.otherBytes) := by
      change (match appendEvent agent clock start eventType payload with
        | .ok transport => _
        | .error _ => _) = _
      rw [done]
      rfl
    exact ⟨bytes, path_trans (.step (.refl _) trivial step) later⟩

theorem deployment_step_path {deployment after : Deployment Hash}
    {action : Deployment.Action Hash}
    (step : (deploymentMachine agent).Step deployment action after) (otherBytes : Nat) :
    ∃ bytes, (networkMachine agent).Path Anything (deployment.network.holding otherBytes)
      (after.network.holding bytes) := by
  cases deployment_step_move step with
  | exchange action network own taken =>
    refine ⟨otherBytes, holding_path ?_ taken otherBytes⟩
    cases action <;> first | rfl | cases own
  | record index grant network found taken =>
    exact ⟨otherBytes, holding_path rfl taken otherBytes⟩
  | others bytes => exact ⟨otherBytes, .refl _⟩
  | slot index held => exact ⟨otherBytes, .refl _⟩
  | task index clock task execution work found other ran =>
    have move := run_move ran
    unfold Deployment.after
    cases posts : task.posts work.execution with
    | none =>
      obtain ⟨events, appends⟩ := task_appends other move
      exact appends_path appends deployment.network otherBytes
    | some lease =>
      obtain ⟨same, held, active⟩ := task_posts move posts
      have post : (networkMachine agent).Step deployment.network .postRenewal
          { deployment.network with renewals := deployment.network.renewals.post lease } := by
        have current : deployment.network.transport.activeLease = some lease :=
          filter_eq_some_iff.mpr ⟨held, by simpa using active⟩
        simp only [networkMachine, Network.step, current]
      rw [same]
      exact ⟨otherBytes, holding_path rfl post otherBytes⟩
  | settle index reply clock execution lease answer found replied posted =>
    have taken : (networkMachine agent).Step deployment.network (.settleRenewal reply clock)
        { deployment.network with
          transport := (deployment.network.transport.settleRenewal lease clock answer).1
          renewals := deployment.network.renewals.read reply } := by
      simp only [networkMachine, Network.step, replied]
    unfold Deployment.afterReply
    rw [settle_renewal_transport]
    exact ⟨otherBytes, holding_path rfl taken otherBytes⟩
  | restart network taken => exact ⟨otherBytes, holding_path rfl taken otherBytes⟩

variable {Guard : Deployment Hash → Deployment.Action Hash → Prop} {deployment : Deployment Hash}

theorem deployment_network (reachable : (deploymentMachine agent).Reachable Guard deployment) :
    ∃ bytes, (networkMachine agent).Reachable Anything (deployment.network.holding bytes) := by
  apply reachable_invariant (fun deployment : Deployment Hash => ∃ bytes,
    (networkMachine agent).Reachable Anything (deployment.network.holding bytes)) _ _ reachable
  · intro start initial
    exact ⟨start.network.transport.otherBytes, start.network, initial.network, .refl _⟩
  · intro deployment action after reached _ step
    obtain ⟨before, network⟩ := reached
    obtain ⟨bytes, path⟩ := deployment_step_path step before
    exact ⟨bytes, reachable_path network path⟩

/-! What holds in a network holds in the network of a deployment. -/

theorem deployment_server (reachable : (deploymentMachine agent).Reachable Guard deployment) :
    (serverMachine agent.host).Reachable Anything deployment.network.server := by
  obtain ⟨bytes, network⟩ := deployment_network reachable
  have server := network_server network
  exact server

theorem deployment_epoch_inv (reachable : (deploymentMachine agent).Reachable Guard deployment) :
    EpochInv agent deployment.network := by
  obtain ⟨bytes, network⟩ := deployment_network reachable
  have inv := network_epoch_inv network
  exact ⟨inv.known, inv.granted, inv.distinct, inv.ordered⟩

theorem deployment_delivery_inv (reachable : (deploymentMachine agent).Reachable Guard deployment) :
    DeliveryInv agent deployment.network := by
  obtain ⟨bytes, network⟩ := deployment_network reachable
  have inv := network_delivery_inv network
  exact ⟨inv.stored, inv.receipts⟩

end

variable {agent : LocalAgent Hash} {clock : Time} {work next : Workspace Hash} {task : Task}

theorem halted_iff {execution : Execution} : execution.halted = true ↔
    execution.position = .ended ∧ (execution.control = .absent ∨ execution.control = .done ∨
      execution.state.terminal = true) := by
  unfold Execution.halted
  cases execution.position <;> cases execution.control <;> simp

theorem killed_halted (execution : Execution) : execution.kill.halted = true := rfl

theorem halted_run (halted : work.execution.halted = true) (other : task.isSettle = false)
    (ran : work.run agent clock task = some next) :
    next.transport = work.transport ∧ next.execution.halted = true ∧
      next.execution.leaseEpoch = work.execution.leaseEpoch ∧
      next.execution.handed = work.execution.handed ∧ task.posts next.execution = none := by
  obtain ⟨ended, quiet⟩ := halted_iff.mp halted
  cases task <;> simp only [Workspace.run, ended] at ran
  case settle => cases other
  case leave =>
      cases ran
      exact ⟨rfl, halted_iff.mpr ⟨rfl, quiet⟩, rfl, rfl, rfl⟩
  case cancel =>
      cases ran
      exact ⟨rfl, rfl, rfl, rfl, rfl⟩
  case renew =>
      rcases quiet with control | control | terminal
      · simp [control] at ran
      · simp [control] at ran
      · simp [terminal] at ran
  case handle room =>
      rcases quiet with control | control | terminal
      · simp [control] at ran
      · simp [control] at ran
      · simp [terminal] at ran
  all_goals cases ran

theorem halted_settle (halted : work.execution.halted = true) (lease : LocalLease)
    (reply : Reply LeaseRenewal) (posted : work.execution.control = .posted lease) :
    (work.settleRenewal clock lease reply).execution =
      { work.execution with control := .done } := by
  obtain ⟨ended, control | control | terminal⟩ := halted_iff.mp halted
  · rw [control] at posted
    cases posted
  · rw [control] at posted
    cases posted
  · simp [Workspace.settleRenewal, terminal]

end AgentMate
