import AgentMate.Rollback
import AgentMate.RunProtocolStore
import AgentMate.TransitionSystem

/-!
# The Server as a transition system

A step is one transaction of the run protocol store at a clock reading that does
not lie before the last one; an error leaves the store as it was. `now` in a
state is the reading of the last step.
-/

namespace AgentMate

variable {Hash : Type}

inductive Call (Hash : Type) where
  | createRun (draft : RunDraft)
  | leaseRun (principal : DevicePrincipal) (leaseSeconds : Int) (leaseId : String)
  | renewLease (principal : DevicePrincipal) (runId leaseId : String) (leaseEpoch : Nat)
      (leaseSeconds : Int)
  | submitEvents (principal : DevicePrincipal) (runId leaseId : String) (leaseEpoch : Nat)
      (events : List (RunEvent Hash))
  | requestCancel (runId ownerId commandId : String)
  | requestPause (runId ownerId commandId : String)
  | requestResume (runId ownerId commandId : String)
  | answerUser (runId ownerId questionEventId : String) (answers : List String) (commandId : String)
  | revokeDevice (ownerId deviceId : String)
  | expireLeases (ownerId : Option String)

def perform [DecidableEq Hash] (host : Host Hash) (store : Store Hash) (now : Time) :
    Call Hash → Transaction (Store Hash)
  | .createRun draft => AgentMate.createRun store draft now
  | .leaseRun principal leaseSeconds leaseId => do
      let (leased, _) ← AgentMate.leaseRun host.toPyText store principal leaseSeconds leaseId now
      return leased
  | .renewLease principal runId leaseId leaseEpoch leaseSeconds => do
      let (renewed, _) ←
        AgentMate.renewLease store principal runId leaseId leaseEpoch leaseSeconds now
      return renewed
  | .submitEvents principal runId leaseId leaseEpoch events => do
      let (submitted, _) ←
        AgentMate.submitEvents host store principal runId leaseId leaseEpoch events now
      return submitted
  | .requestCancel runId ownerId commandId =>
    AgentMate.requestCancel host.toPyText store runId ownerId commandId now
  | .requestPause runId ownerId commandId =>
    AgentMate.requestPause store runId ownerId commandId now
  | .requestResume runId ownerId commandId =>
    AgentMate.requestResume host.toPyText store runId ownerId commandId now
  | .answerUser runId ownerId questionEventId answers commandId =>
    AgentMate.answerUser store runId ownerId questionEventId answers commandId now
  | .revokeDevice ownerId deviceId => do
      let (revoked, _) ← AgentMate.revokeDevice host.toPyText store ownerId deviceId now
      return revoked
  | .expireLeases ownerId => AgentMate.expireLeases host.toPyText store ownerId now

structure Server (Hash : Type) where
  now : Time
  store : Store Hash

structure Store.Fresh (store : Store Hash) : Prop where
  runs : store.runs = []
  leases : store.leases = []
  events : store.events = []
  commands : store.commands = []
  messages : ∀ message ∈ store.business.messages, message.role ≠ .assistant

structure Server.Action (Hash : Type) where
  now : Time
  call : Call Hash

section

variable [DecidableEq Hash] (host : Host Hash)

def Server.serve (server : Server Hash) (action : Server.Action Hash) : Server Hash :=
  ⟨action.now, Rollback.commit server.store (perform host server.store action.now action.call)⟩

def serverMachine : TransitionSystem.Machine (Server Hash) (Server.Action Hash) where
  Initial server := server.store.Fresh
  Step server action next := server.now ≤ action.now ∧ next = server.serve host action

def Server.serveAll (server : Server Hash) (actions : List (Server.Action Hash)) : Server Hash :=
  actions.foldl (Server.serve host) server

theorem serve_of_ok {server : Server Hash} {action : Server.Action Hash} {next : Store Hash}
    (done : perform host server.store action.now action.call = .ok next) :
    server.serve host action = ⟨action.now, next⟩ := by
  rw [Server.serve, done, Rollback.commit_ok]

theorem serve_all_append (server : Server Hash) (first second : List (Server.Action Hash)) :
    server.serveAll host (first ++ second) = (server.serveAll host first).serveAll host second :=
  List.foldl_append

theorem serve_all_path {server : Server Hash} {actions : List (Server.Action Hash)}
    (ordered : (server.now :: actions.map Server.Action.now).Pairwise (· ≤ ·)) :
    (serverMachine host).Path TransitionSystem.Anything server (server.serveAll host actions) := by
  induction actions generalizing server with
  | nil => exact .refl server
  | cons action rest ih =>
    rw [List.map_cons, List.pairwise_cons] at ordered
    have first : (serverMachine host).Path TransitionSystem.Anything server
        (server.serve host action) :=
      .step (.refl server) trivial ⟨ordered.1 _ List.mem_cons_self, rfl⟩
    exact TransitionSystem.path_trans first (ih ordered.2)

end

/-! ## A small deployment

One account, two devices, a Run without a project. The digest is the envelope
itself and the texts are those of `json.dumps` on the payloads used with it. -/

mutual

def compactJson : Json → String
  | .null => "null"
  | .bool value => if value then "true" else "false"
  | .int value => toString value
  | .float _ => ""
  | .str value => "\"" ++ value ++ "\""
  | .arr items => "[" ++ compactItems items ++ "]"
  | .obj fields => "\x7b" ++ compactFields fields ++ "\x7d"

def compactItems : List Json → String
  | [] => ""
  | [item] => compactJson item
  | item :: rest => compactJson item ++ "," ++ compactItems rest

def compactFields : List (String × Json) → String
  | [] => ""
  | [(key, value)] => "\"" ++ key ++ "\":" ++ compactJson value
  | (key, value) :: rest =>
    "\"" ++ key ++ "\":" ++ compactJson value ++ "," ++ compactFields rest

end

def plainHost : Host Envelope where
  dumps := compactJson
  strOf := compactJson
  intOf := String.toInt?
  digest := fun envelope => envelope
  digest_injective := fun _ _ same => same

def laptop : DevicePrincipal := ⟨"device-laptop", "owner", .obj [], 1⟩

def desktop : DevicePrincipal := ⟨"device-desktop", "owner", .obj [], 1⟩

def plainDraft (runId : String) : RunDraft :=
  { id := runId, sessionId := "session", ownerId := "owner", projectId := none
    workItemId := none, mode := .exec, workspace := "default", targetDeviceId := ""
    requiredCapabilities := [], requestSnapshot := .obj [], maxRecoveries := 3 }

def emptyServer : Server Envelope :=
  ⟨0, ⟨[], [], [], [], [], [], ⟨[⟨"session", .running, 0, 1⟩], [], [], [], [], []⟩⟩⟩

theorem empty_server_initial : (serverMachine plainHost).Initial emptyServer :=
  ⟨rfl, rfl, rfl, rfl, fun _ mem => by cases mem⟩

def plainEvent (principal : DevicePrincipal) (runId : String) (leaseEpoch sequence : Nat)
    (eventId eventType : String) (payload : Json) : RunEvent Envelope :=
  { eventId := eventId, sequence := sequence, eventType := eventType, occurredAt := 1
    payload := payload
    hash := ⟨runId, principal.deviceId, leaseEpoch, sequence, eventType, 1, compactJson payload⟩ }

theorem small_run_reachable (actions : List (Server.Action Envelope))
    (ordered : (0 :: actions.map Server.Action.now).Pairwise (· ≤ ·)) :
    (serverMachine plainHost).Reachable TransitionSystem.Anything
      (emptyServer.serveAll plainHost actions) :=
  ⟨emptyServer, empty_server_initial, serve_all_path plainHost ordered⟩

end AgentMate
