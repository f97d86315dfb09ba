import AgentMate.LocalTransport
import AgentMate.Mailbox

/-!
# The Server and the transport of one device

The device claims a Run, appends events, flushes them and renews its lease; a flush
and a renewal may be under way at the same time, several flushes too. Requests and
replies travel on their own. Whatever other devices and users do is a call of the
Server; only this device presents its own leases of the Run with events.
-/

namespace AgentMate

open Option

variable {Hash : Type}

structure Network (Hash : Type) where
  server : Server Hash
  transport : Transport Hash
  /-- Replies of `lease_run` that were not recorded yet. -/
  grants : List LeaseGrant
  /-- Lease rows that a `flush_wal` has read. -/
  opened : List LocalLease
  flushes : Mailbox (Flight Hash) (Reply SubmitReply)
  renewals : Mailbox LocalLease (Reply LeaseRenewal)

/-- `otherBytes` is what the other Runs of the device hold in the WAL at the step. -/
inductive Network.Action (Hash : Type) where
  | serve (action : Server.Action Hash)
  | claim (now : Time) (principal : DevicePrincipal) (leaseSeconds : Int) (leaseId : String)
  | record (index : Nat)
  | append (clock : Time) (otherBytes : Nat) (eventType : String) (payload : Json)
  | openFlush
  | postFlush (index : Nat)
  | serveFlush (index : Nat) (now : Time) (principal : DevicePrincipal)
  | loseFlush (index : Nat) (unauthorized : Bool)
  | settleFlush (index : Nat)
  | postRenewal
  | serveRenewal (index : Nat) (now : Time) (principal : DevicePrincipal)
  | loseRenewal (index : Nat) (unauthorized : Bool)
  | settleRenewal (index : Nat) (clock : Time)
  | restart

def Call.SubmitsFor (deviceId runId : String) : Call Hash → Prop
  | .submitEvents principal run _ _ _ => principal.deviceId = deviceId ∧ run = runId
  | _ => False

instance (deviceId runId : String) (call : Call Hash) :
    Decidable (call.SubmitsFor deviceId runId) := by
  cases call <;> unfold Call.SubmitsFor <;> infer_instance

def lostReply (Value : Type) (unauthorized : Bool) : Reply Value :=
  if unauthorized then .unauthorized else .unreachable

def Transport.activeLease (transport : Transport Hash) : Option LocalLease :=
  transport.lease.filter fun lease => lease.status = .active

theorem active_lease_some {transport : Transport Hash} {lease : LocalLease}
    (found : transport.activeLease = some lease) :
    transport.lease = some lease ∧ lease.status = .active := by
  simpa [Transport.activeLease, filter_eq_some_iff] using found

section

variable [DecidableEq Hash] (agent : LocalAgent Hash)

def Server.exchange {Value : Type} (server : Server Hash) (now : Time)
    (transaction : Transaction (Store Hash × Value)) : Server Hash × Transaction Value :=
  match transaction with
  | .ok (store, value) => (⟨now, store⟩, .ok value)
  | .error error => (⟨now, server.store⟩, .error error)

def Network.flushReply (network : Network Hash) (now : Time) (principal : DevicePrincipal)
    (flight : Flight Hash) : Server Hash × Transaction SubmitReply :=
  network.server.exchange now (submitEvents agent.host network.server.store principal agent.runId
    flight.lease.leaseId flight.lease.leaseEpoch flight.events now)

def Network.renewalReply (network : Network Hash) (now : Time) (principal : DevicePrincipal)
    (lease : LocalLease) : Server Hash × Transaction LeaseRenewal :=
  network.server.exchange now (renewLease network.server.store principal agent.runId
    lease.leaseId lease.leaseEpoch 30 now)

/-- The state after an action, or `none` when the action is not possible. -/
def Network.step (network : Network Hash) : Network.Action Hash → Option (Network Hash)
  | .serve action =>
    if network.server.now ≤ action.now ∧ ¬action.call.SubmitsFor agent.deviceId agent.runId then
      some { network with server := network.server.serve agent.host action }
    else none
  | .claim now principal leaseSeconds leaseId =>
    if network.server.now ≤ now ∧ principal.deviceId = agent.deviceId then
      match leaseRun agent.host.toPyText network.server.store principal leaseSeconds leaseId
          now with
      | .ok (store, some grant) =>
        if grant.run.id = agent.runId then
          some { network with
            server := ⟨now, store⟩, grants := network.grants ++ [grant] }
        else none
      | _ => none
    else none
  | .record index =>
    match network.grants[index]? with
    | some grant => some { network with
        transport := (network.transport.recordLease grant).toOption.getD network.transport
        grants := network.grants.eraseIdx index }
    | none => none
  | .append clock otherBytes eventType payload =>
    match appendEvent agent clock { network.transport with otherBytes := otherBytes } eventType
        payload with
    | .ok transport => some { network with transport := transport }
    | .error _ => none
  | .openFlush =>
    match network.transport.activeLease with
    | some lease => some { network with opened := network.opened ++ [lease] }
    | none => none
  -- an empty batch is not posted
  | .postFlush index =>
    match network.opened[index]? with
    | some lease =>
      let batch := network.transport.batch lease
      some { network with
        opened := network.opened.eraseIdx index
        flushes := if batch.isEmpty then network.flushes
          else network.flushes.post ⟨lease, batch⟩ }
    | none => none
  | .serveFlush index now principal =>
    match network.flushes.posted[index]? with
    | some item =>
      if network.server.now ≤ now ∧ principal.deviceId = agent.deviceId then
        let (server, result) := network.flushReply agent now principal item.request
        some { network with
          server := server, flushes := network.flushes.serve index (.answered result) }
      else none
    | none => none
  | .loseFlush index unauthorized =>
    some { network with
      flushes := network.flushes.giveUp index (lostReply SubmitReply unauthorized) }
  | .settleFlush index =>
    match network.flushes.replies[index]? with
    | some (flight, reply) => some { network with
        transport := network.transport.settleFlush flight reply
        flushes := network.flushes.read index }
    | none => none
  | .postRenewal =>
    match network.transport.activeLease with
    | some lease => some { network with renewals := network.renewals.post lease }
    | none => none
  | .serveRenewal index now principal =>
    match network.renewals.posted[index]? with
    | some item =>
      if network.server.now ≤ now ∧ principal.deviceId = agent.deviceId then
        let (server, result) := network.renewalReply agent now principal item.request
        some { network with
          server := server, renewals := network.renewals.serve index (.answered result) }
      else none
    | none => none
  | .loseRenewal index unauthorized =>
    some { network with
      renewals := network.renewals.giveUp index (lostReply LeaseRenewal unauthorized) }
  | .settleRenewal index clock =>
    match network.renewals.replies[index]? with
    | some (lease, reply) => some { network with
        transport := (network.transport.settleRenewal lease clock reply).1
        renewals := network.renewals.read index }
    | none => none
  -- the process ends and starts again
  | .restart => some { network with
      transport := network.transport.restart, grants := [], opened := []
      flushes := network.flushes.abandon, renewals := network.renewals.abandon }

structure Network.Initial (network : Network Hash) : Prop where
  fresh : network.server.store.Fresh
  lease : network.transport.lease = none
  wal : network.transport.wal = []
  retired : network.transport.retired = []
  written : network.transport.written = []
  grants : network.grants = []
  opened : network.opened = []
  flushes : network.flushes = Mailbox.empty
  renewals : network.renewals = Mailbox.empty

def networkMachine : TransitionSystem.Machine (Network Hash) (Network.Action Hash) where
  Initial := Network.Initial
  Step network action next := network.step agent action = some next

inductive Network.Move (network : Network Hash) : Network.Action Hash → Network Hash → Prop
  | serve (action : Server.Action Hash) : network.server.now ≤ action.now →
      ¬action.call.SubmitsFor agent.deviceId agent.runId →
      network.Move (.serve action)
        { network with server := network.server.serve agent.host action }
  | claim (now : Time) (principal : DevicePrincipal) (leaseSeconds : Int) (leaseId : String)
      (store : Store Hash) (grant : LeaseGrant) : network.server.now ≤ now →
      principal.deviceId = agent.deviceId →
      leaseRun agent.host.toPyText network.server.store principal leaseSeconds leaseId now =
        .ok (store, some grant) → grant.run.id = agent.runId →
      network.Move (.claim now principal leaseSeconds leaseId)
        { network with server := ⟨now, store⟩, grants := network.grants ++ [grant] }
  | record (index : Nat) (grant : LeaseGrant) : network.grants[index]? = some grant →
      network.Move (.record index) { network with
        transport := (network.transport.recordLease grant).toOption.getD network.transport
        grants := network.grants.eraseIdx index }
  | append (clock : Time) (otherBytes : Nat) (eventType : String) (payload : Json)
      (lease : LocalLease) : network.transport.lease = some lease → lease.status = .active →
      (agent.host.dumps payload).utf8ByteSize ≤ maxEventBytes →
      containsSecretKey payload = false →
      network.Move (.append clock otherBytes eventType payload) { network with
        transport := { network.transport with otherBytes := otherBytes }.push
          (network.transport.newRow agent clock lease eventType payload) }
  | openFlush (lease : LocalLease) : network.transport.lease = some lease → lease.status = .active →
      network.Move .openFlush { network with opened := network.opened ++ [lease] }
  | postFlush (index : Nat) (lease : LocalLease) (flushes : Mailbox (Flight Hash)
      (Reply SubmitReply)) : network.opened[index]? = some lease →
      (flushes = network.flushes ∨
        flushes = network.flushes.post ⟨lease, network.transport.batch lease⟩) →
      network.Move (.postFlush index) { network with
        opened := network.opened.eraseIdx index, flushes := flushes }
  | serveFlush (index : Nat) (now : Time) (principal : DevicePrincipal)
      (item : Posted (Flight Hash)) : network.flushes.posted[index]? = some item →
      network.server.now ≤ now → principal.deviceId = agent.deviceId →
      network.Move (.serveFlush index now principal) { network with
        server := (network.flushReply agent now principal item.request).1
        flushes := network.flushes.serve index
          (.answered (network.flushReply agent now principal item.request).2) }
  | loseFlush (index : Nat) (unauthorized : Bool) :
      network.Move (.loseFlush index unauthorized) { network with
        flushes := network.flushes.giveUp index (lostReply SubmitReply unauthorized) }
  | settleFlush (index : Nat) (flight : Flight Hash) (reply : Reply SubmitReply) :
      network.flushes.replies[index]? = some (flight, reply) →
      network.Move (.settleFlush index) { network with
        transport := network.transport.settleFlush flight reply
        flushes := network.flushes.read index }
  | postRenewal (lease : LocalLease) : network.transport.lease = some lease →
      lease.status = .active →
      network.Move .postRenewal { network with renewals := network.renewals.post lease }
  | serveRenewal (index : Nat) (now : Time) (principal : DevicePrincipal)
      (item : Posted LocalLease) : network.renewals.posted[index]? = some item →
      network.server.now ≤ now → principal.deviceId = agent.deviceId →
      network.Move (.serveRenewal index now principal) { network with
        server := (network.renewalReply agent now principal item.request).1
        renewals := network.renewals.serve index
          (.answered (network.renewalReply agent now principal item.request).2) }
  | loseRenewal (index : Nat) (unauthorized : Bool) :
      network.Move (.loseRenewal index unauthorized) { network with
        renewals := network.renewals.giveUp index (lostReply LeaseRenewal unauthorized) }
  | settleRenewal (index : Nat) (clock : Time) (lease : LocalLease)
      (reply : Reply LeaseRenewal) : network.renewals.replies[index]? = some (lease, reply) →
      network.Move (.settleRenewal index clock) { network with
        transport := (network.transport.settleRenewal lease clock reply).1
        renewals := network.renewals.read index }
  | restart : network.Move .restart { network with
      transport := network.transport.restart, grants := [], opened := []
      flushes := network.flushes.abandon, renewals := network.renewals.abandon }

variable {agent}

variable {next network : Network Hash} {action : Network.Action Hash}

theorem network_step_move (step : (networkMachine agent).Step network action next) :
    network.Move agent action next := by
  change network.step agent action = some next at step
  cases action with
  | serve action =>
    simp only [Network.step, ite_none_right_eq_some] at step
    obtain ⟨⟨order, foreign⟩, same⟩ := step
    cases same
    exact .serve action order foreign
  | claim now principal leaseSeconds leaseId =>
    simp only [Network.step, ite_none_right_eq_some] at step
    obtain ⟨⟨order, own⟩, step⟩ := step
    split at step
    · next store grant claimed =>
      simp only [ite_none_right_eq_some] at step
      obtain ⟨ofRun, same⟩ := step
      cases same
      exact .claim now principal leaseSeconds leaseId store grant order own claimed ofRun
    · cases step
  | record index =>
    simp only [Network.step] at step
    split at step
    · next grant found =>
      cases step
      exact .record index grant found
    · cases step
  | append clock otherBytes eventType payload =>
    simp only [Network.step] at step
    split at step
    · next transport done =>
      cases step
      obtain ⟨small, clean, lease, found, active, rfl⟩ := append_event_ok done
      exact .append clock otherBytes eventType payload lease found active small clean
    · cases step
  | openFlush =>
    simp only [Network.step] at step
    split at step
    · next lease found =>
      cases step
      obtain ⟨row, active⟩ := active_lease_some found
      exact .openFlush lease row active
    · cases step
  | postFlush index =>
    simp only [Network.step] at step
    split at step
    · next lease found =>
      cases step
      apply Network.Move.postFlush index lease _ found
      split
      · exact Or.inl rfl
      · exact Or.inr rfl
    · cases step
  | serveFlush index now principal =>
    simp only [Network.step] at step
    split at step
    · next item found =>
      simp only [ite_none_right_eq_some] at step
      obtain ⟨⟨order, own⟩, same⟩ := step
      cases same
      exact .serveFlush index now principal item found order own
    · cases step
  | loseFlush index unauthorized =>
    cases step
    exact .loseFlush index unauthorized
  | settleFlush index =>
    simp only [Network.step] at step
    split at step
    · next flight reply found =>
      cases step
      exact .settleFlush index flight reply found
    · cases step
  | postRenewal =>
    simp only [Network.step] at step
    split at step
    · next lease found =>
      cases step
      obtain ⟨row, active⟩ := active_lease_some found
      exact .postRenewal lease row active
    · cases step
  | serveRenewal index now principal =>
    simp only [Network.step] at step
    split at step
    · next item found =>
      simp only [ite_none_right_eq_some] at step
      obtain ⟨⟨order, own⟩, same⟩ := step
      cases same
      exact .serveRenewal index now principal item found order own
    · cases step
  | loseRenewal index unauthorized =>
    cases step
    exact .loseRenewal index unauthorized
  | settleRenewal index clock =>
    simp only [Network.step] at step
    split at step
    · next lease reply found =>
      cases step
      exact .settleRenewal index clock lease reply found
    · cases step
  | restart =>
    cases step
    exact .restart

theorem exchange_submit (server : Server Hash) (now : Time) (principal : DevicePrincipal)
    (runId leaseId : String) (leaseEpoch : Nat) (events : List (RunEvent Hash)) :
    (server.exchange now (submitEvents agent.host server.store principal runId leaseId leaseEpoch
      events now)).1 =
      server.serve agent.host ⟨now, .submitEvents principal runId leaseId leaseEpoch events⟩ := by
  cases done : submitEvents agent.host server.store principal runId leaseId leaseEpoch events now
    <;> simp only [Server.exchange, Server.serve, perform, done] <;> rfl

theorem exchange_renew (server : Server Hash) (now : Time) (principal : DevicePrincipal)
    (runId leaseId : String) (leaseEpoch : Nat) (leaseSeconds : Int) :
    (server.exchange now (renewLease server.store principal runId leaseId leaseEpoch leaseSeconds
      now)).1 =
      server.serve agent.host ⟨now, .renewLease principal runId leaseId leaseEpoch leaseSeconds⟩ := by
  cases done : renewLease server.store principal runId leaseId leaseEpoch leaseSeconds now
    <;> simp only [Server.exchange, Server.serve, perform, done] <;> rfl

theorem move_server (move : network.Move agent action next) :
    next.server = network.server ∨
      ∃ request, (serverMachine agent.host).Step network.server request next.server ∧
        (request.call.SubmitsFor agent.deviceId agent.runId →
          ∃ index now principal item, action = .serveFlush index now principal ∧
            network.flushes.posted[index]? = some item ∧
            request.call = .submitEvents principal agent.runId item.request.lease.leaseId
              item.request.lease.leaseEpoch item.request.events) := by
  cases move with
  | serve request order foreign =>
    exact Or.inr ⟨request, ⟨order, rfl⟩, fun submits => (foreign submits).elim⟩
  | claim now principal leaseSeconds leaseId store grant order own claimed =>
    refine Or.inr ⟨⟨now, .leaseRun principal leaseSeconds leaseId⟩, ⟨order, ?_⟩,
      fun submits => submits.elim⟩
    simp only [Server.serve, perform, claimed]
    rfl
  | serveFlush index now principal item found order own =>
    refine Or.inr ⟨⟨now, .submitEvents principal agent.runId item.request.lease.leaseId
      item.request.lease.leaseEpoch item.request.events⟩, ⟨order, ?_⟩, fun _ => ?_⟩
    · exact exchange_submit network.server now principal _ _ _ _
    · exact ⟨index, now, principal, item, rfl, found, rfl⟩
  | serveRenewal index now principal item found order own =>
    refine Or.inr ⟨⟨now, .renewLease principal agent.runId item.request.leaseId
      item.request.leaseEpoch 30⟩, ⟨order, ?_⟩, fun submits => submits.elim⟩
    exact exchange_renew network.server now principal _ _ _ _
  | _ => exact Or.inl rfl

theorem network_server {Guard : Network Hash → Network.Action Hash → Prop}
    (reachable : (networkMachine agent).Reachable Guard network) :
    (serverMachine agent.host).Reachable TransitionSystem.Anything network.server := by
  refine TransitionSystem.reachable_invariant (fun network =>
    (serverMachine agent.host).Reachable TransitionSystem.Anything network.server) ?_ ?_ reachable
  · intro start initial
    exact ⟨start.server, initial.fresh, .refl _⟩
  · intro state action next reached _ step
    rcases move_server (network_step_move step) with same | ⟨request, step, -⟩
    · rw [same]
      exact reached
    · exact TransitionSystem.reachable_step reached trivial step

end

def laptopAgent : LocalAgent Envelope where
  host := plainHost
  deviceId := "device-laptop"
  runId := "run"
  uuid number := String.ofList (List.replicate (number + 8) 'e')
  uuid_injective := by
    intro left right same
    have lists := String.ofList_inj.mp same
    have lengths := congrArg List.length lists
    simpa using lengths
  walMaxBytes := 1048576

def emptyNetwork : Network Envelope :=
  ⟨emptyServer, ⟨none, [], [], [], 0⟩, [], [], Mailbox.empty, Mailbox.empty⟩

theorem empty_network_initial (agent : LocalAgent Envelope) :
    (networkMachine agent).Initial emptyNetwork :=
  ⟨⟨rfl, rfl, rfl, rfl, fun _ mem => by cases mem⟩, rfl, rfl, rfl, rfl, rfl, rfl, rfl, rfl⟩

/-- The network after actions that each meet a guard, or `none` when one is not possible. -/
def Network.runAll (agent : LocalAgent Envelope)
    (guard : Network Envelope → Network.Action Envelope → Bool)
    (actions : List (Network.Action Envelope)) : Option (Network Envelope) :=
  actions.foldlM (fun network action =>
    if guard network action then network.step agent action else none) emptyNetwork

theorem network_run_reachable {agent : LocalAgent Envelope}
    (guard : Network Envelope → Network.Action Envelope → Bool)
    {actions : List (Network.Action Envelope)} {finish : Network Envelope}
    (ran : Network.runAll agent guard actions = some finish) :
    (networkMachine agent).Reachable (fun network action => guard network action = true) finish :=
  ⟨emptyNetwork, empty_network_initial agent,
    TransitionSystem.path_of_run guard (Network.step agent) (fun _ _ _ taken => taken) ran⟩

end AgentMate
