import AgentMate.Interleaving
import AgentMate.Rollback
import AgentMate.RunStore

/-!
# Accounts, linked identities and SSO attempts of the Server

Every change of an account is one transaction or one statement. The SSO callback consumes
its state, asks the provider, resolves the identity and records the outcome in separate
steps; `poll_attempt` checks the attempt in one step and issues the token in a later one.
-/

namespace AgentMate

open Interleaving Table

structure AccountRow where
  id : String
  name : String
  email : String
  plan : String
  passwordHash : String
  createdAt : Time
  isPlatformAdmin : Bool
  passwordLoginEnabled : Bool
  suspendedAt : Time

/-- `suspended_at<=0`. -/
def AccountRow.Active (account : AccountRow) : Prop := account.suspendedAt ≤ 0

instance : DecidablePred AccountRow.Active :=
  fun account => inferInstanceAs (Decidable (account.suspendedAt ≤ 0))

/-- `is_platform_admin=1 AND suspended_at<=0`. -/
def AccountRow.ActiveAdmin (account : AccountRow) : Prop :=
  account.isPlatformAdmin = true ∧ account.Active

instance : DecidablePred AccountRow.ActiveAdmin :=
  fun account => inferInstanceAs (Decidable (account.isPlatformAdmin = true ∧ account.Active))

/-- A row of `external_identities`. -/
structure IdentityRow where
  id : String
  accountId : String
  provider : String
  subject : String
  email : String
  displayName : String
  createdAt : Time
  lastLoginAt : Time

inductive AttemptStatus where
  | pending | processing | completed | error
  deriving DecidableEq

structure SsoAttempt where
  id : String
  stateHash : String
  attemptTokenHash : String
  provider : String
  mode : String
  accountId : Option String
  inviteCodeHash : Option String
  codeVerifier : String
  nonce : String
  status : AttemptStatus
  resultAccountId : Option String
  errorCode : Option String
  createdAt : Time
  expiresAt : Time
  completedAt : Option Time
  consumedAt : Option Time

/-- A row of `sso_signup_invites`. -/
structure SignupInvite where
  id : String
  codeHash : String
  createdBy : String
  createdAt : Time
  expiresAt : Time
  consumedBy : Option String
  consumedAt : Option Time

structure ServerToken where
  token : String
  accountId : String
  createdAt : Time
  expiresAt : Time

/-- A session token issued for an attempt, with the row as the transaction found it. -/
structure SsoIssue where
  attempt : SsoAttempt
  accountId : String
  token : String
  issuedAt : Time

/-- `projectOwners` and `orgOwners` have the owner of every project and organisation; `drawn`
every attempt identifier and state hash that was drawn; `consumed` the state hash of every
attempt that a callback consumed; `issued` the tokens of attempts. -/
structure AuthStore where
  accounts : List AccountRow
  identities : List IdentityRow
  attempts : List SsoAttempt
  invites : List SignupInvite
  tokens : List ServerToken
  projectOwners : List String
  orgOwners : List String
  drawn : List (String × String)
  consumed : List String
  issued : List SsoIssue

inductive AuthError where
  | value (message : String)
  | integrity (constraint : String)

/-- Settings of the Server, and the functions of Python that it uses. -/
structure AuthHost where
  sha256 : String → String
  strip : String → String
  lower : String → String
  registrationPolicy : String
  tokenTtl : Time
  stateTtl : Time

def AuthStore.account? (store : AuthStore) (accountId : String) : Option AccountRow :=
  lookup AccountRow.id accountId store.accounts

def AuthStore.accountNamed (store : AuthStore) (name : String) : Option AccountRow :=
  lookup AccountRow.name name store.accounts

def AuthStore.attempt? (store : AuthStore) (attemptId : String) : Option SsoAttempt :=
  lookup SsoAttempt.id attemptId store.attempts

def AuthStore.identity? (store : AuthStore) (provider subject : String) : Option IdentityRow :=
  store.identities.find? fun row => row.provider = provider ∧ row.subject = subject

def AuthStore.identitiesOf (store : AuthStore) (accountId : String) : List IdentityRow :=
  store.identities.filter fun row => row.accountId = accountId

def AuthStore.updateAccounts (store : AuthStore) (accountId : String)
    (assign : AccountRow → AccountRow) : AuthStore :=
  { store with
    accounts := updateWhere (fun row => row.id = accountId) assign store.accounts }

def AuthStore.updateAttempts (store : AuthStore) (chosen : SsoAttempt → Prop)
    [DecidablePred chosen] (assign : SsoAttempt → SsoAttempt) : AuthStore :=
  { store with attempts := updateWhere chosen assign store.attempts }

section

variable (store : AuthStore)

/-- `INSERT INTO accounts`: the id and the name are unique. -/
def insertAccount (account : AccountRow) : Except AuthError AuthStore :=
  if store.accounts.any fun row => decide (row.id = account.id ∨ row.name = account.name) then
    .error (.integrity "accounts")
  else .ok { store with accounts := store.accounts ++ [account] }

/-- `create_token`, with the key of the new token. -/
def createToken (host : AuthHost) (accountId token : String) (now : Time) :
    Except AuthError AuthStore :=
  match store.account? accountId with
  | none => .error (.value "account_suspended_or_missing")
  | some account =>
    if 0 < account.suspendedAt then .error (.value "account_suspended_or_missing")
    else
      .ok { store with
        tokens := store.tokens ++ [⟨token, accountId, now, now + host.tokenTtl⟩] }

/-- `DELETE FROM server_tokens WHERE account_id=?`. -/
def revokeAccountSessions (accountId : String) : AuthStore :=
  { store with tokens := store.tokens.filter fun row => row.accountId ≠ accountId }

structure NewAccount where
  id : String
  name : String
  email : String
  plan : String
  passwordHash : String
  token : String
  now : Time

/-- `create_account`, as the administrator's endpoint calls it. -/
def createAccount (new : NewAccount) (isPlatformAdmin : Bool) : Except AuthError AuthStore :=
  insertAccount store
    { id := new.id, name := clip 60 new.name, email := clip 120 new.email, plan := new.plan
      passwordHash := new.passwordHash, createdAt := new.now
      isPlatformAdmin := isPlatformAdmin, passwordLoginEnabled := true, suspendedAt := 0 }

def registerPasswordAccount (host : AuthHost) (new : NewAccount) : Except AuthError AuthStore :=
  if (store.accountNamed new.name).isSome then .error (.value "name already taken")
  else do
    let firstAccount := store.accounts.isEmpty
    let inserted ← insertAccount store
      { id := new.id, name := clip 60 new.name, email := clip 120 new.email, plan := "体验版"
        passwordHash := new.passwordHash, createdAt := new.now
        isPlatformAdmin := firstAccount, passwordLoginEnabled := true, suspendedAt := 0 }
    createToken inserted host new.id new.token new.now

def bootstrapAdmin (new : NewAccount) : Except AuthError AuthStore :=
  if store.accounts.isEmpty then
    insertAccount store
      { id := new.id, name := clip 60 new.name, email := clip 120 new.email, plan := "体验版"
        passwordHash := new.passwordHash, createdAt := new.now
        isPlatformAdmin := true, passwordLoginEnabled := true, suspendedAt := 0 }
  else .error (.value "bootstrap_already_completed")

def guardActivePlatformAdminRemoval (accountId : String) : Except AuthError (Option AccountRow) :=
  let row := store.account? accountId
  if (∃ account ∈ row, account.ActiveAdmin) ∧
      (store.accounts.filter fun account => account.ActiveAdmin).length ≤ 1 then
    .error (.value "last_platform_admin")
  else .ok row

structure AccountChanges where
  name : Option String
  email : Option String
  plan : Option String
  isPlatformAdmin : Option Bool

def AccountChanges.apply (changes : AccountChanges) (row : AccountRow) : AccountRow :=
  { row with
    name := (changes.name.map (clip 60)).getD row.name
    email := (changes.email.map (clip 120)).getD row.email
    plan := (changes.plan.map (clip 40)).getD row.plan
    isPlatformAdmin := changes.isPlatformAdmin.getD row.isPlatformAdmin }

/-- `update_account`. The UPDATE fails when another account has the new name. -/
def updateAccount (accountId : String) (changes : AccountChanges) : Except AuthError AuthStore := do
  if changes.isPlatformAdmin = some false then
    let _ ← guardActivePlatformAdminRemoval store accountId
  if (∃ name ∈ changes.name, ∃ row ∈ store.accounts, row.id ≠ accountId ∧
      row.name = clip 60 name) ∧ (store.account? accountId).isSome then
    .error (.integrity "accounts.name")
  else .ok (store.updateAccounts accountId changes.apply)

theorem update_account_ok {store next : AuthStore} {accountId : String}
    {changes : AccountChanges} (done : updateAccount store accountId changes = .ok next) :
    next = store.updateAccounts accountId changes.apply ∧ (changes.isPlatformAdmin = some false →
        ∃ row, guardActivePlatformAdminRemoval store accountId = .ok row) := by
  unfold updateAccount at done
  by_cases demoted : changes.isPlatformAdmin = some false
  · rw [if_pos demoted] at done
    obtain ⟨row, guarded, written⟩ := Rollback.bind_ok done
    split at written
    · cases written
    · cases written
      exact ⟨rfl, fun _ => ⟨row, guarded⟩⟩
  · rw [if_neg demoted] at done
    split at done
    · cases done
    · cases done
      exact ⟨rfl, fun still => absurd still demoted⟩

/-- `upgrade_password_hash` and the UPDATE of `set_account_password`. -/
def writePassword (accountId passwordHash : String) : AuthStore :=
  store.updateAccounts accountId fun row =>
    { row with passwordHash := passwordHash, passwordLoginEnabled := true }

def setAccountPassword (accountId passwordHash : String) : AuthStore :=
  revokeAccountSessions (writePassword store accountId passwordHash) accountId

def setPasswordLoginEnabled (accountId : String) (enabled : Bool) : Except AuthError AuthStore :=
  if (store.account? accountId).isNone then .error (.value "account_not_found")
  else if enabled = false ∧ (store.identitiesOf accountId).length < 1 then
    .error (.value "last_login_method")
  else
    .ok (revokeAccountSessions
      (store.updateAccounts accountId fun row => { row with passwordLoginEnabled := enabled })
      accountId)

def setAccountSuspended (accountId actorId : String) (suspended : Bool) (now : Time) :
    Except AuthError AuthStore :=
  if actorId ≠ "" ∧ accountId = actorId ∧ suspended = true then
    .error (.value "cannot_suspend_self")
  else if suspended = true then do
    let _ ← guardActivePlatformAdminRemoval store accountId
    return revokeAccountSessions
      (store.updateAccounts accountId fun row => { row with suspendedAt := now }) accountId
  else .ok (store.updateAccounts accountId fun row => { row with suspendedAt := 0 })

def deleteAccount (accountId actorId : String) : Except AuthError AuthStore :=
  if actorId ≠ "" ∧ accountId = actorId then .error (.value "cannot_delete_self")
  else do
    let target ← guardActivePlatformAdminRemoval store accountId
    if target.isNone then .error (.value "account_not_found")
    else if accountId ∈ store.projectOwners then
      .error (.value ("account_owns_projects:" ++ toString (store.projectOwners.count accountId)))
    else if accountId ∈ store.orgOwners then
      .error (.value ("account_owns_orgs:" ++ toString (store.orgOwners.count accountId)))
    else
      .ok { store with
        identities := store.identities.filter fun row => row.accountId ≠ accountId
        attempts := store.attempts.filter fun row =>
          ¬(row.accountId = some accountId ∨ row.resultAccountId = some accountId)
        invites := (store.invites.filter fun row => row.createdBy ≠ accountId).map fun row =>
          if row.consumedBy = some accountId then { row with consumedBy := none } else row
        tokens := store.tokens.filter fun row => row.accountId ≠ accountId
        accounts := store.accounts.filter fun row => row.id ≠ accountId }

def unlinkIdentity (accountId provider : String) : Except AuthError AuthStore :=
  match store.account? accountId with
  | none => .error (.value "account_not_found")
  | some account =>
    if (store.identitiesOf accountId).any fun row => decide (row.provider = provider) then
      if account.passwordLoginEnabled = false ∧ (store.identitiesOf accountId).length ≤ 1 then
        .error (.value "last_login_method")
      else
        .ok (revokeAccountSessions
          { store with
            identities := store.identities.filter fun row =>
              ¬(row.accountId = accountId ∧ row.provider = provider) } accountId)
    else .ok store

end

structure ProviderProfile where
  subject : String
  email : String
  name : String

section

variable (store : AuthStore) (host : AuthHost)

/-- What `create_attempt` draws and was given. -/
structure NewSsoAttempt where
  id : String
  provider : String
  mode : String
  accountId : Option String
  inviteCode : String
  state : String
  attemptToken : String
  codeVerifier : String
  nonce : String

/-- `create_attempt`: attempts that expired a day ago are deleted. -/
def createAttempt (new : NewSsoAttempt) (now : Time) : AuthStore :=
  { store with
    attempts := (store.attempts.filter fun row => ¬row.expiresAt < now - 86400) ++
      [{ id := new.id, stateHash := host.sha256 new.state
         attemptTokenHash := host.sha256 new.attemptToken, provider := new.provider
         mode := new.mode, accountId := new.accountId
         inviteCodeHash :=
          if new.inviteCode = "" then none else some (host.sha256 new.inviteCode)
         codeVerifier := new.codeVerifier, nonce := new.nonce, status := .pending
         resultAccountId := none, errorCode := none, createdAt := now
         expiresAt := now + host.stateTtl, completedAt := none, consumedAt := none }]
    drawn := store.drawn ++ [(new.id, host.sha256 new.state)] }

/-- The SELECT of `consume_state`. -/
def readState (provider state : String) (now : Time) : Option SsoAttempt :=
  store.attempts.find? fun row => row.provider = provider ∧ row.stateHash = host.sha256 state ∧
    row.status = .pending ∧ now < row.expiresAt

/-- `WHERE id=? AND status='pending'`. -/
def SsoAttempt.PendingAs (attemptId : String) (row : SsoAttempt) : Prop :=
  row.id = attemptId ∧ row.status = .pending

instance (attemptId : String) : DecidablePred (SsoAttempt.PendingAs attemptId) :=
  fun row => inferInstanceAs (Decidable (row.id = attemptId ∧ row.status = .pending))

/-- The UPDATE of `consume_state`. -/
def consumeState (attempt : SsoAttempt) : AuthStore :=
  { store.updateAttempts (SsoAttempt.PendingAs attempt.id)
      (fun row => { row with status := .processing }) with
    consumed := store.consumed ++ [attempt.stateHash] }

def failAttempt (attemptId code : String) (now : Time) : AuthStore :=
  store.updateAttempts (fun row => row.id = attemptId) fun row =>
    { row with
      status := .error, errorCode := some (clip 80 code), completedAt := some now }

def completeAttempt (attemptId accountId : String) (now : Time) : AuthStore :=
  store.updateAttempts (fun row => row.id = attemptId) fun row =>
    { row with
      status := .completed, resultAccountId := some accountId, completedAt := some now }

/-- `_unique_name`; one of the suffixes is free, as there are more of them than accounts. -/
def uniqueName (displayName email provider : String) : String :=
  let chosen := if displayName ≠ "" then displayName
    else if (email.splitOn "@").headD "" ≠ "" then (email.splitOn "@").headD "" else provider
  let printable := String.ofList ((host.strip chosen).toList.filter fun char => 32 ≤ char.toNat)
  let base := if clip 50 printable = "" then provider else clip 50 printable
  let candidates := base :: (List.range (store.accounts.length + 1)).map fun suffix =>
    clip 50 base ++ "-" ++ toString (suffix + 2)
  (candidates.find? fun name => (store.accountNamed name).isNone).getD base

/-- `INSERT INTO external_identities`, with its two unique constraints. -/
def insertIdentity (row : IdentityRow) : Except AuthError AuthStore :=
  if store.identities.any fun other => decide (other.id = row.id ∨
      (other.provider = row.provider ∧ other.subject = row.subject) ∨
      (other.accountId = row.accountId ∧ other.provider = row.provider)) then
    .error (.integrity "external_identities")
  else .ok { store with identities := store.identities ++ [row] }

/-- `lower(email)=?`: SQLite folds ASCII letters only. -/
def emailTaken (email : String) : Bool :=
  store.accounts.any fun row => decide (row.email.map Char.toLower = email)

/-- The transaction of `resolve_identity` that links an identity. -/
def linkIdentity (attempt : SsoAttempt) (profile : ProviderProfile) (identityId : String)
    (now : Time) : Except AuthError AuthStore :=
  insertIdentity store
    { id := identityId, accountId := attempt.accountId.getD "", provider := attempt.provider
      subject := profile.subject, email := profile.email, displayName := profile.name
      createdAt := now, lastLoginAt := now }

/-- The transaction of `resolve_identity` for an identity that is linked. -/
def verifyIdentity (profile : ProviderProfile) (existing : IdentityRow) (now : Time) :
    AuthStore :=
  { store with
    identities := updateWhere (fun row => row.id = existing.id) (fun row =>
        { row with lastLoginAt := now, email := profile.email, displayName := profile.name })
      store.identities }

/-- The identifiers and the unusable password that a registration draws. -/
structure Registration where
  accountId : String
  identityId : String
  passwordHash : String
  now : Time

/-- `UPDATE sso_signup_invites .. WHERE id=? AND consumed_at IS NULL`. -/
def claimInvite (invite : SignupInvite) (new : Registration) : Except AuthError AuthStore :=
  if store.invites.any fun row => decide (row.id = invite.id ∧ row.consumedAt = none) then
    .ok { store with
      invites := updateWhere (fun row => row.id = invite.id ∧ row.consumedAt = none)
        (fun row => { row with consumedBy := some new.accountId, consumedAt := some new.now })
        store.invites }
  else .error (.value "invalid_signup_invite")

/-- `if invite`: the invite of the attempt is claimed in the same transaction. -/
def claimSignup (invite : Option SignupInvite) (new : Registration) : Except AuthError AuthStore :=
  match invite with
  | some invite => claimInvite store invite new
  | none => .ok store

/-- The transaction of `resolve_identity` that registers an account. -/
def registerIdentity (attempt : SsoAttempt) (profile : ProviderProfile)
    (invite : Option SignupInvite) (new : Registration) : Except AuthError AuthStore :=
  if (store.identity? attempt.provider profile.subject).isSome then
    .error (.value "identity_already_linked")
  else if profile.email ≠ "" ∧ emailTaken store profile.email = true then
    .error (.value "explicit_link_required")
  else do
    let claimed ← claimSignup store invite new
    let registered ← insertAccount claimed
      { id := new.accountId
        name := uniqueName store host profile.name profile.email attempt.provider
        email := profile.email, plan := "体验版", passwordHash := new.passwordHash
        createdAt := new.now, isPlatformAdmin := store.accounts.isEmpty
        passwordLoginEnabled := false, suspendedAt := 0 }
    insertIdentity registered
      { id := new.identityId, accountId := new.accountId, provider := attempt.provider
        subject := profile.subject, email := profile.email, displayName := profile.name
        createdAt := new.now, lastLoginAt := new.now }

/-- The checks of `poll_attempt` before its transaction: a row that may get its token. -/
def checkPoll (attemptId attemptToken : String) (now : Time) : Option SsoAttempt :=
  (store.attempt? attemptId).filter fun row =>
    row.attemptTokenHash = host.sha256 attemptToken ∧ ¬row.expiresAt ≤ now ∧ row.status = .completed

/-- The transaction of `poll_attempt`; `none` is the answer "consumed". -/
def issueToken (attempt : SsoAttempt) (token : String) (now : Time) :
    Option (Except AuthError AuthStore) :=
  ((store.attempt? attempt.id).filter fun row => row.consumedAt = none).map fun row => do
    let accountId := attempt.resultAccountId.getD ""
    let claimed := store.updateAttempts
      (fun other => other.id = attempt.id ∧ other.consumedAt = none)
      fun other => { other with consumedAt := some now }
    let created ← createToken claimed host accountId token now
    return { created with issued := created.issued ++ [⟨row, accountId, token, now⟩] }

end

inductive AuthRequest where
  | createAccount (new : NewAccount) (isPlatformAdmin : Bool)
  | registerPassword (new : NewAccount)
  | bootstrapAdmin (new : NewAccount)
  | updateAccount (accountId : String) (changes : AccountChanges)
  | upgradePasswordHash (accountId passwordHash : String)
  | setPassword (accountId passwordHash : String)
  | setPasswordLogin (accountId : String) (enabled : Bool)
  | setSuspended (accountId actorId : String) (suspended : Bool) (now : Time)
  | deleteAccount (accountId actorId : String)
  | unlinkIdentity (accountId provider : String)
  | createToken (accountId token : String) (now : Time)
  | deleteToken (token : String)
  | revokeSessions (accountId : String)
  | createInvite (invite : SignupInvite)
  | createAttempt (new : NewSsoAttempt) (now : Time)
  | callback (provider state : String) (denied : Bool) (now : Time)
  | poll (attemptId attemptToken : String) (now : Time)
  | changeOwners (projectOwners orgOwners : List String)

inductive AuthTicket where
  | consume (attempt : SsoAttempt) (denied : Bool)
  | exchange (attempt : SsoAttempt) (denied : Bool)
  | resolve (attempt : SsoAttempt) (profile : ProviderProfile)
  | readLinked (attempt : SsoAttempt) (profile : ProviderProfile) (existing : Option IdentityRow)
  | link (attempt : SsoAttempt) (profile : ProviderProfile)
  | readAccount (attempt : SsoAttempt) (profile : ProviderProfile) (existing : IdentityRow)
  | verify (attempt : SsoAttempt) (profile : ProviderProfile) (existing : IdentityRow)
  | readEmail (attempt : SsoAttempt) (profile : ProviderProfile)
  | readInvite (attempt : SsoAttempt) (profile : ProviderProfile)
  | register (attempt : SsoAttempt) (profile : ProviderProfile) (invite : Option SignupInvite)
  | complete (attempt : SsoAttempt) (accountId : String)
  | fail (attempt : SsoAttempt) (code : String)
  | issue (attempt : SsoAttempt)

/-- The attempt of a ticket inside the `try` of the callback. -/
def AuthTicket.trying : AuthTicket → Option SsoAttempt
  | .exchange attempt _ | .resolve attempt _ | .readLinked attempt _ _ | .link attempt _
  | .readAccount attempt _ _ | .verify attempt _ _ | .readEmail attempt _
  | .readInvite attempt _ | .register attempt _ _ | .complete attempt _ => some attempt
  | .consume _ _ | .fail _ _ | .issue _ => none

/-- The clock, what a step draws, the answer of the provider or the code of its error, and
whether the step raises another exception instead. -/
structure AuthInput where
  now : Time
  raises : Bool
  accountId : String
  identityId : String
  secret : String
  profile : Except String ProviderProfile

/-- `str(exc) if isinstance(exc, ValueError) else "provider_exchange_failed"`. -/
def AuthError.code : AuthError → String
  | .value message => message
  | .integrity _ => "provider_exchange_failed"

def settleAuth (store : AuthStore) (result : Except AuthError AuthStore) :
    AuthStore × Option AuthTicket :=
  (Rollback.commit store result, none)

def callAuth (host : AuthHost) (store : AuthStore) :
    AuthRequest → Option (AuthStore × Option AuthTicket)
  | .createAccount new isPlatformAdmin =>
    some (settleAuth store (createAccount store new isPlatformAdmin))
  | .registerPassword new => some (settleAuth store (registerPasswordAccount store host new))
  | .bootstrapAdmin new => some (settleAuth store (bootstrapAdmin store new))
  | .updateAccount accountId changes =>
    some (settleAuth store (updateAccount store accountId changes))
  | .upgradePasswordHash accountId passwordHash =>
    some (writePassword store accountId passwordHash, none)
  | .setPassword accountId passwordHash =>
    some (setAccountPassword store accountId passwordHash, none)
  | .setPasswordLogin accountId enabled =>
    some (settleAuth store (setPasswordLoginEnabled store accountId enabled))
  | .setSuspended accountId actorId suspended now =>
    some (settleAuth store (setAccountSuspended store accountId actorId suspended now))
  | .deleteAccount accountId actorId =>
    some (settleAuth store (deleteAccount store accountId actorId))
  | .unlinkIdentity accountId provider =>
    some (settleAuth store (unlinkIdentity store accountId provider))
  | .createToken accountId token now =>
    some (settleAuth store (createToken store host accountId token now))
  | .deleteToken token =>
    some ({ store with tokens := store.tokens.filter fun row => row.token ≠ token }, none)
  | .revokeSessions accountId => some (revokeAccountSessions store accountId, none)
  | .createInvite invite => some ({ store with invites := store.invites ++ [invite] }, none)
  | .createAttempt new now =>
    if store.drawn.any fun pair =>
        decide (pair.1 = new.id ∨ pair.2 = host.sha256 new.state) then none
    else some (createAttempt store host new now, none)
  | .callback provider state denied now =>
    some (store, (readState store host provider state now).map fun row =>
      .consume row denied)
  | .poll attemptId attemptToken now =>
    some (store, (checkPoll store host attemptId attemptToken now).map .issue)
  | .changeOwners projectOwners orgOwners =>
    some ({ store with projectOwners := projectOwners, orgOwners := orgOwners }, none)

/-- After a transaction of the callback: complete the attempt, or fail it with the error. -/
def concludeAuth (store : AuthStore) (attempt : SsoAttempt) (accountId : String)
    (result : Except AuthError AuthStore) : AuthStore × Option AuthTicket :=
  match result with
  | .ok next => (next, some (.complete attempt accountId))
  | .error error => (store, some (.fail attempt error.code))

/-- `resolve_identity` up to its first query. -/
def startResolve (host : AuthHost) (attempt : SsoAttempt) (answer : ProviderProfile) :
    AuthTicket :=
  let profile : ProviderProfile :=
    { subject := host.strip answer.subject, email := host.lower (host.strip answer.email)
      name := host.strip answer.name }
  if profile.subject = "" then .fail attempt "missing_subject" else .resolve attempt profile

def routeIdentity (attempt : SsoAttempt) (profile : ProviderProfile)
    (existing : Option IdentityRow) : AuthTicket :=
  if attempt.mode = "link" then .readLinked attempt profile existing
  else match existing with
    | some existing => .readAccount attempt profile existing
    | none =>
      if profile.email = "" then .readInvite attempt profile else .readEmail attempt profile

def routeLink (store : AuthStore) (attempt : SsoAttempt) (profile : ProviderProfile)
    (existing : Option IdentityRow) : AuthTicket :=
  let accountId := attempt.accountId.getD ""
  if accountId = "" ∨ (store.account? accountId).isNone then
    .fail attempt "link_account_missing"
  else if ∃ row ∈ existing, row.accountId ≠ accountId then
    .fail attempt "identity_already_linked"
  else .link attempt profile

def routeInvite (host : AuthHost) (store : AuthStore) (attempt : SsoAttempt)
    (profile : ProviderProfile) (now : Time) : AuthTicket :=
  if host.registrationPolicy = "disabled" ∨ host.registrationPolicy = "existing_only" then
    .fail attempt "registration_disabled"
  else if host.registrationPolicy = "invite_only" then
    match attempt.inviteCodeHash with
    | none => .fail attempt "signup_invite_required"
    | some codeHash =>
      match store.invites.find? fun row =>
          row.codeHash = codeHash ∧ row.consumedAt = none ∧ now < row.expiresAt with
      | none => .fail attempt "invalid_signup_invite"
      | some invite => .register attempt profile (some invite)
  else .register attempt profile none

def advanceAuth (host : AuthHost) (store : AuthStore) (ticket : AuthTicket) (input : AuthInput) :
    Option (AuthStore × Option AuthTicket) :=
  match ticket with
  | .consume attempt denied =>
    if store.attempts.any fun row => decide (row.PendingAs attempt.id) then
      some (consumeState store attempt, some (.exchange attempt denied))
    else some (store, none)
  | .exchange attempt denied =>
    if denied then some (store, some (.fail attempt "provider_denied"))
    else match input.profile with
      | .error code => some (store, some (.fail attempt code))
      | .ok answer => some (store, some (startResolve host attempt answer))
  | .resolve attempt profile =>
    some (store, some (routeIdentity attempt profile
      (store.identity? attempt.provider profile.subject)))
  | .readLinked attempt profile existing =>
    some (store, some (routeLink store attempt profile existing))
  | .link attempt profile =>
    match linkIdentity store attempt profile input.identityId input.now with
    | .ok next => some (next, some (.complete attempt (attempt.accountId.getD "")))
    | .error _ => some (store, some (.fail attempt "provider_already_linked"))
  | .readAccount attempt profile existing =>
    match store.account? existing.accountId with
    | none => some (store, some (.fail attempt "account_suspended"))
    | some account =>
      if 0 < account.suspendedAt then
        some (store, some (.fail attempt "account_suspended"))
      else some (store, some (.verify attempt profile existing))
  | .verify attempt profile existing =>
    some (verifyIdentity store profile existing input.now,
      some (.complete attempt existing.accountId))
  | .readEmail attempt profile =>
    if emailTaken store profile.email then
      some (store, some (.fail attempt "explicit_link_required"))
    else some (store, some (.readInvite attempt profile))
  | .readInvite attempt profile =>
    some (store, some (routeInvite host store attempt profile input.now))
  | .register attempt profile invite =>
    let new : Registration := ⟨input.accountId, input.identityId, input.secret, input.now⟩
    some (concludeAuth store attempt new.accountId
      (registerIdentity store host attempt profile invite new))
  | .complete attempt accountId =>
    some (completeAttempt store attempt.id accountId input.now, none)
  | .fail attempt code => some (failAttempt store attempt.id code input.now, none)
  | .issue attempt =>
    match issueToken store host attempt input.secret input.now with
    | some result => some (settleAuth store result)
    | none => some (store, none)

/-- An unexpected exception inside the `try` of the callback fails the attempt. -/
def resumeAuth (host : AuthHost) (store : AuthStore) (ticket : AuthTicket) (input : AuthInput) :
    Option (AuthStore × Option AuthTicket) :=
  if input.raises then
    ticket.trying.map fun attempt => (store, some (.fail attempt "provider_exchange_failed"))
  else advanceAuth host store ticket input

def authRoutine (host : AuthHost) : Routine AuthStore AuthRequest AuthInput AuthTicket where
  call := callAuth host
  resume := resumeAuth host

def AuthStore.Empty (store : AuthStore) : Prop :=
  store.accounts = [] ∧ store.identities = [] ∧ store.attempts = [] ∧ store.drawn = [] ∧
    store.consumed = [] ∧ store.issued = []

def sampleAuthHost : AuthHost where
  sha256 text :=
    if text = "state" then "4ba69735ca53765ed6a709edb56c6ea236b7193a3b29a6b390c346f0f4340e4e"
    else if text = "attempt-token" then
      "0daa474d98ee9e02fbf3b871fe9d73de076a04c7fcd59bde083f4edbe37fa684"
    else ""
  strip := id
  lower text := text.map Char.toLower
  registrationPolicy := "open"
  tokenTtl := 2592000
  stateTtl := 600

def noAccounts : AuthStore := ⟨[], [], [], [], [], [], [], [], [], []⟩

theorem no_accounts_empty : noAccounts.Empty := ⟨rfl, rfl, rfl, rfl, rfl, rfl⟩

def rootAccount : NewAccount := ⟨"root", "root", "", "体验版", "scrypt", "token", 1⟩

end AgentMate
