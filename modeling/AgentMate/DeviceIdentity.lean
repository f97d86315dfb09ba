import AgentMate.ProtocolMachine
import Mathlib.Tactic.FinCases

/-!
# Device identity

Registration, the challenge that a device signs, and the token it then presents.
The columns of `agent_devices` that only identity checks read sit in a table of
their own.
-/

namespace AgentMate

open Table List

variable {Hash : Type}

/-- The remaining columns of a row of `agent_devices`. -/
structure DeviceKey where
  deviceId : String
  publicKey : String
  protocolVersion : Nat

/-- A row of `device_challenges`. -/
structure Challenge where
  id : String
  deviceId : String
  ownerId : String
  nonce : String
  expiresAt : Time
  usedAt : Time

/-- A row of `accounts`, as far as device authentication reads it. -/
structure Account where
  id : String
  suspendedAt : Time

structure Directory (Hash : Type) where
  store : Store Hash
  keys : List DeviceKey
  challenges : List Challenge
  accounts : List Account

/-- Ed25519, SHA-256 and `str.strip`. -/
structure Credentials where
  validKey : String → Bool
  verify : String → String → String → Bool
  tokenHash : String → String
  strip : String → String

inductive IdentityError where
  | conflict (message : String)
  | unauthorized (message : String)
  | integrity (constraint : String)

def protocolVersion : Nat := 1

def challengeTtlSeconds : Nat := 300

def deviceTokenTtlSeconds : Nat := 30 * 24 * 60 * 60

def challengeMessage (challengeId deviceId nonce : String) : String :=
  "agentmate-device-auth-v1:" ++ challengeId ++ ":" ++ deviceId ++ ":" ++ nonce

def Directory.device? (directory : Directory Hash) (deviceId : String) : Option Device :=
  lookup Device.id deviceId directory.store.devices

def Directory.key? (directory : Directory Hash) (deviceId : String) : Option DeviceKey :=
  lookup DeviceKey.deviceId deviceId directory.keys

def Directory.updateDevice (directory : Directory Hash) (deviceId : String)
    (assign : Device → Device) : Directory Hash :=
  { directory with store := { directory.store with
      devices := updateWhere (fun device => device.id = deviceId) assign directory.store.devices } }

def Device.isRevoked (device : Device) : Bool := device.status = .revoked || 0 < device.revokedAt

structure DeviceDraft where
  deviceId : String
  publicKey : String
  protocolVersion : Nat
  capabilities : Json

def Directory.enroll (directory : Directory Hash) (ownerId : String) (draft : DeviceDraft)
    (now : Time) : Except IdentityError (Directory Hash) :=
  match directory.device? draft.deviceId with
  | some existing =>
    if existing.ownerId ≠ ownerId then
      .error (.conflict "device id already belongs to another account")
    else if existing.isRevoked then
      .error (.conflict "device is revoked; register a new device identity")
    else if ((directory.key? draft.deviceId).map DeviceKey.publicKey).getD "" ≠ draft.publicKey then
      .error (.conflict "device public key does not match registered identity")
    else .ok { directory.updateDevice draft.deviceId (fun device => { device with
          capabilities := draft.capabilities, updatedAt := now }) with
        keys := updateWhere (fun key => key.deviceId = draft.deviceId)
          (fun key => { key with protocolVersion := draft.protocolVersion }) directory.keys }
  | none => .ok { directory with
      store := { directory.store with devices := directory.store.devices ++ [
        { id := draft.deviceId, ownerId := ownerId, capabilities := draft.capabilities
          status := .pending, lastSeenAt := 0, revokedAt := 0, updatedAt := now }] }
      keys := directory.keys ++ [⟨draft.deviceId, draft.publicKey, draft.protocolVersion⟩] }

def registerDevice (credentials : Credentials) (directory : Directory Hash) (ownerId : String)
    (draft : DeviceDraft) (challengeId nonce : String) (now : Time) :
    Except IdentityError (Directory Hash) :=
  if draft.protocolVersion ≠ protocolVersion then
    .error (.conflict "unsupported device protocol version")
  else if !credentials.validKey draft.publicKey then
    .error (.conflict "invalid Ed25519 public key")
  else do
    let enrolled ← directory.enroll ownerId draft now
    if enrolled.challenges.any fun challenge => challenge.id = challengeId then
      throw (.integrity "device_challenges.id")
    else return { enrolled with challenges := enrolled.challenges ++
      [⟨challengeId, draft.deviceId, ownerId, nonce, now + challengeTtlSeconds, 0⟩] }

/-- `verify_device`; `token` is the fresh token it returns. -/
def verifyDevice (credentials : Credentials) (directory : Directory Hash)
    (ownerId deviceId challengeId signature token : String) (now : Time) :
    Except IdentityError (Directory Hash) :=
  let found := directory.challenges.find? fun challenge => challenge.id = challengeId &&
    challenge.deviceId = deviceId && challenge.ownerId = ownerId
  match found, directory.device? deviceId, directory.key? deviceId with
  | some challenge, some device, some key =>
    if 0 < challenge.usedAt ∨ challenge.expiresAt ≤ now then
      .error (.unauthorized "device challenge is invalid or expired")
    else if device.isRevoked then .error (.unauthorized "device is revoked")
    else if !credentials.verify key.publicKey signature
        (challengeMessage challengeId deviceId challenge.nonce) then
      .error (.unauthorized "device signature verification failed")
    else if directory.store.tokens.any fun row =>
        row.tokenHash = credentials.tokenHash token then
      .error (.integrity "device_tokens.token_hash")
    else
      let active := directory.updateDevice deviceId fun device =>
        { device with status := .active, lastSeenAt := now, updatedAt := now }
      .ok { active with
        store := { active.store with tokens := active.store.tokens ++
          [⟨credentials.tokenHash token, deviceId, ownerId, now + deviceTokenTtlSeconds, now, 0⟩] }
        challenges := updateWhere (fun challenge => challenge.id = challengeId)
          (fun challenge => { challenge with usedAt := now }) directory.challenges }
  | _, _, _ => .error (.unauthorized "device challenge is invalid or expired")

/-- `authorization[7:].strip() if authorization[:7].lower() == "device " else ""`. -/
def presentedToken (credentials : Credentials) (authorization : String) : String :=
  if (authorization.toList.take 7).map Char.toLower = "device ".toList then
    credentials.strip (String.ofList (authorization.toList.drop 7))
  else ""

def authenticateDevice (credentials : Credentials) (directory : Directory Hash)
    (authorization : String) (now : Time) :
    Except IdentityError (Directory Hash × DevicePrincipal) :=
  let token := presentedToken credentials authorization
  if token = "" then .error (.unauthorized "device authentication required")
  else
    let found := directory.store.tokens.find? fun row =>
      row.tokenHash = credentials.tokenHash token
    match found with
    | none => .error (.unauthorized "device token is invalid, expired or revoked")
    | some row =>
      match directory.device? row.deviceId, directory.key? row.deviceId,
          lookup Account.id row.ownerId directory.accounts with
      | some device, some key, some account =>
        if row.expiresAt ≤ now ∨ 0 < row.revokedAt ∨ 0 < device.revokedAt ∨
            0 < account.suspendedAt ∨ device.status ≠ .active then
          .error (.unauthorized "device token is invalid, expired or revoked")
        else
          let seen := directory.updateDevice row.deviceId fun device =>
            { device with lastSeenAt := now, updatedAt := now }
          .ok ({ seen with store := { seen.store with
              tokens := updateWhere (fun other => other.tokenHash = row.tokenHash)
                (fun other => { other with lastUsedAt := now }) seen.store.tokens } },
            ⟨row.deviceId, row.ownerId, device.capabilities, key.protocolVersion⟩)
      | _, _, _ => .error (.unauthorized "device token is invalid, expired or revoked")

def heartbeat (directory : Directory Hash) (principal : DevicePrincipal) (capabilities : Json)
    (now : Time) : Directory Hash :=
  { directory with store := { directory.store with
      devices := updateWhere
        (fun device => device.id = principal.deviceId ∧ device.ownerId = principal.ownerId)
        (fun device => { device with
          capabilities := capabilities, lastSeenAt := now, updatedAt := now })
        directory.store.devices } }

def Call.principal? : Call Hash → Option DevicePrincipal
  | .leaseRun principal _ _ => some principal
  | .renewLease principal _ _ _ _ => some principal
  | .submitEvents principal _ _ _ _ => some principal
  | _ => none

/-- The Server with the device requests that are under way: a principal is admitted
once `authenticate_device` has returned it, and its operation follows at any later
time. -/
structure Gateway (Hash : Type) where
  now : Time
  directory : Directory Hash
  admitted : List DevicePrincipal

inductive Request (Hash : Type) where
  | register (ownerId : String) (draft : DeviceDraft) (challengeId nonce : String)
  | verify (ownerId deviceId challengeId signature token : String)
  | authenticate (authorization : String)
  | heartbeat (principal : DevicePrincipal) (capabilities : Json)
  | call (operation : Call Hash)

def Request.principal? : Request Hash → Option DevicePrincipal
  | .heartbeat principal _ => some principal
  | .call operation => operation.principal?
  | _ => none

structure Gateway.Action (Hash : Type) where
  now : Time
  request : Request Hash

section

variable [DecidableEq Hash] (host : Host Hash) (credentials : Credentials)

def Gateway.commit (gateway : Gateway Hash) (now : Time)
    (done : Except IdentityError (Directory Hash)) : Gateway Hash :=
  { gateway with now := now, directory := done.toOption.getD gateway.directory }

def Gateway.serve (gateway : Gateway Hash) (action : Gateway.Action Hash) : Gateway Hash :=
  let directory := gateway.directory
  match action.request with
  | .register ownerId draft challengeId nonce =>
    gateway.commit action.now
      (registerDevice credentials directory ownerId draft challengeId nonce action.now)
  | .verify ownerId deviceId challengeId signature token =>
    gateway.commit action.now
      (verifyDevice credentials directory ownerId deviceId challengeId signature token action.now)
  | .authenticate authorization =>
    match authenticateDevice credentials directory authorization action.now with
    | .ok (seen, principal) => ⟨action.now, seen, principal :: gateway.admitted⟩
    | .error _ => { gateway with now := action.now }
  | .heartbeat principal capabilities =>
    { gateway with
      now := action.now
      directory := AgentMate.heartbeat directory principal capabilities action.now }
  | .call operation =>
    { gateway with
      now := action.now
      directory := { directory with
        store := Rollback.commit directory.store
          (perform host directory.store action.now operation) } }

def gatewayMachine : TransitionSystem.Machine (Gateway Hash) (Gateway.Action Hash) where
  Initial gateway := gateway.directory.store.Fresh ∧ gateway.directory.store.devices = [] ∧
    gateway.directory.store.tokens = [] ∧ gateway.directory.keys = [] ∧
    gateway.directory.challenges = [] ∧ gateway.admitted = []
  Step gateway action next := gateway.now ≤ action.now ∧
    (∀ principal, action.request.principal? = some principal → principal ∈ gateway.admitted) ∧
    next = gateway.serve host credentials action

theorem gateway_serve_now (gateway : Gateway Hash) (action : Gateway.Action Hash) :
    (gateway.serve host credentials action).now = action.now := by
  unfold Gateway.serve
  cases action.request with
  | authenticate authorization =>
    simp only
    split <;> rfl
  | _ => rfl

theorem gateway_admitted_kept (gateway : Gateway Hash) (action : Gateway.Action Hash) :
    gateway.admitted ⊆ (gateway.serve host credentials action).admitted := by
  unfold Gateway.serve
  cases action.request with
  | authenticate authorization =>
    simp only
    split
    · exact subset_cons_self _ _
    · exact List.Subset.refl _
  | _ => exact List.Subset.refl _

end

/-! ## A small gateway

The account and the Server of the small deployment, with one registered device. -/

/-- Signatures are the key followed by the message; digests name what they digest. -/
def plainCredentials : Credentials where
  validKey key := key ≠ ""
  verify key signature message := signature = key ++ message
  tokenHash token := "sha256:" ++ token
  strip token := token

def emptyGateway : Gateway Envelope :=
  ⟨0, ⟨emptyServer.store, [], [], [⟨"owner", 0⟩]⟩, []⟩

def plainGateway : TransitionSystem.Machine (Gateway Envelope) (Gateway.Action Envelope) :=
  gatewayMachine plainHost plainCredentials

theorem empty_gateway_initial : plainGateway.Initial emptyGateway := by
  refine ⟨⟨rfl, rfl, rfl, rfl, fun _ mem => ?_⟩, rfl, rfl, rfl, rfl, rfl⟩
  cases mem

def Gateway.serveAll (gateway : Gateway Envelope) (actions : List (Gateway.Action Envelope)) :
    Gateway Envelope :=
  actions.foldl (Gateway.serve plainHost plainCredentials) gateway

theorem gateway_serve_all_path {Guard : Gateway Envelope → Gateway.Action Envelope → Prop}
    {gateway : Gateway Envelope} {actions : List (Gateway.Action Envelope)}
    (guarded : ∀ state, ∀ action ∈ actions, Guard state action)
    (ordered : (gateway.now :: actions.map Gateway.Action.now).Pairwise (· ≤ ·))
    (admitted : ∀ action ∈ actions, ∀ principal, action.request.principal? = some principal →
      principal ∈ gateway.admitted) :
    plainGateway.Path Guard gateway (gateway.serveAll actions) := by
  induction actions generalizing gateway with
  | nil => exact .refl gateway
  | cons action rest ih =>
    rw [map_cons, pairwise_cons] at ordered
    have first : plainGateway.Path Guard gateway
        (gateway.serve plainHost plainCredentials action) := by
      apply TransitionSystem.Machine.Path.step (.refl gateway)
        (guarded gateway action mem_cons_self)
      exact ⟨ordered.1 _ mem_cons_self, admitted action mem_cons_self, rfl⟩
    have later : ((gateway.serve plainHost plainCredentials action).now ::
        rest.map Gateway.Action.now).Pairwise (· ≤ ·) := by
      rw [gateway_serve_now plainHost plainCredentials]
      exact ordered.2
    apply TransitionSystem.path_trans first
    apply ih (fun state other mem => guarded state other (mem_cons_of_mem action mem)) later
    intro other mem principal named
    apply gateway_admitted_kept plainHost plainCredentials gateway action
    exact admitted other (mem_cons_of_mem action mem) principal named

def signIn (capabilities : Json) : List (Gateway.Action Envelope) :=
  [⟨1, .register "owner" ⟨"device-laptop", "key", 1, capabilities⟩ "challenge" "nonce"⟩,
    ⟨2, .verify "owner" "device-laptop" "challenge"
      ("key" ++ challengeMessage "challenge" "device-laptop" "nonce") "token"⟩,
    ⟨3, .authenticate "Device token"⟩]

theorem sign_in_path {Guard : Gateway Envelope → Gateway.Action Envelope → Prop}
    (capabilities : Json) (guarded : ∀ state, ∀ action ∈ signIn capabilities, Guard state action) :
    plainGateway.Reachable Guard (emptyGateway.serveAll (signIn capabilities)) := by
  refine ⟨emptyGateway, empty_gateway_initial, gateway_serve_all_path guarded ?_ ?_⟩
  · change ([0, 1, 2, 3] : List Time).Pairwise (· ≤ ·)
    decide +kernel
  · intro action mem principal named
    fin_cases mem <;> cases named

end AgentMate
