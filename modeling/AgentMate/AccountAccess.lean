import AgentMate.AccountStore

/-! # Every account keeps a login method -/

namespace AgentMate

open Interleaving TransitionSystem Rollback Table List

def AuthStore.LoginMethod (store : AuthStore) (account : AccountRow) : Prop :=
  account.passwordLoginEnabled = true ∨ ∃ row ∈ store.identities, row.accountId = account.id

def AuthStore.HasAdmin (store : AuthStore) : Prop :=
  ∃ account ∈ store.accounts, account.ActiveAdmin

def IdentityRow.slot (row : IdentityRow) : String × String := (row.accountId, row.provider)

structure AccessInv (store : AuthStore) : Prop where
  ids : UniqueKey AccountRow.id store.accounts
  slots : UniqueKey IdentityRow.slot store.identities
  login : ∀ account ∈ store.accounts, store.LoginMethod account

structure AccessKept (store next : AuthStore) : Prop where
  inv : AccessInv next
  admin : store.HasAdmin → next.HasAdmin

variable {store next middle : AuthStore} {host : AuthHost}

theorem kept_same (inv : AccessInv store) (accounts : next.accounts = store.accounts)
    (identities : next.identities = store.identities) : AccessKept store next := by
  constructor
  · constructor
    · rw [accounts]
      exact inv.ids
    · rw [identities]
      exact inv.slots
    · intro account mem
      rw [accounts] at mem
      simpa only [AuthStore.LoginMethod, identities] using inv.login account mem
  · rintro ⟨account, mem, admin⟩
    exact ⟨account, accounts ▸ mem, admin⟩

theorem kept_revoked (accountId : String) (kept : AccessKept store middle) :
    AccessKept store (revokeAccountSessions middle accountId) := by
  have same : AccessKept middle (revokeAccountSessions middle accountId) :=
    kept_same kept.inv rfl rfl
  exact ⟨same.inv, fun admin => same.admin (kept.admin admin)⟩

theorem kept_trans (first : AccessKept store middle)
    (second : AccessInv middle → AccessKept middle next) : AccessKept store next := by
  have later := second first.inv
  exact ⟨later.inv, fun admin => later.admin (first.admin admin)⟩

theorem other_admin {accounts : List AccountRow} (ids : UniqueKey AccountRow.id accounts)
    (many : ¬(accounts.filter fun account => account.ActiveAdmin).length ≤ 1)
    (accountId : String) :
    ∃ account ∈ accounts, account.ActiveAdmin ∧ account.id ≠ accountId := by
  by_contra none
  push Not at none
  apply many
  let admins := accounts.filter fun account => account.ActiveAdmin
  have same : admins.map AccountRow.id = List.replicate admins.length accountId := by
    rw [← length_map (f := AccountRow.id)]
    apply eq_replicate_of_mem
    intro id mem
    obtain ⟨account, listed, rfl⟩ := mem_map.mp mem
    obtain ⟨accountMember, admin⟩ := mem_filter.mp listed
    exact none account accountMember (by simpa using admin)
  have unique : (admins.map AccountRow.id).Nodup := ids.sublist (filter_sublist.map _)
  rw [same, nodup_replicate] at unique
  exact unique

variable {accountId : String} {now : Time} {account : AccountRow} {invite : Option SignupInvite}
  {attempt : SsoAttempt} {result : Except AuthError AuthStore}

theorem guard_other_admin (ids : UniqueKey AccountRow.id store.accounts)
    {row : Option AccountRow}
    (guarded : guardActivePlatformAdminRemoval store accountId = .ok row) :
    row = store.account? accountId ∧
      ((∀ account ∈ store.accounts, account.id = accountId → ¬account.ActiveAdmin) ∨
        ∃ account ∈ store.accounts, account.ActiveAdmin ∧ account.id ≠ accountId) := by
  unfold guardActivePlatformAdminRemoval at guarded
  dsimp only at guarded
  split at guarded
  · cases guarded
  · next open_ =>
    cases guarded
    refine ⟨rfl, ?_⟩
    by_cases few : (store.accounts.filter fun account => account.ActiveAdmin).length ≤ 1
    · left
      intro account mem same admin
      apply open_
      refine ⟨⟨account, ?_, admin⟩, few⟩
      rw [← same]
      exact lookup_of_mem ids mem
    · right
      exact other_admin ids few accountId

theorem kept_update (inv : AccessInv store)
    {assign : AccountRow → AccountRow} (same : ∀ row, (assign row).id = row.id)
    (login : ∀ row ∈ store.accounts, row.id = accountId → store.LoginMethod (assign row))
    (admin : (∀ row ∈ store.accounts, row.id = accountId → row.ActiveAdmin →
        (assign row).ActiveAdmin) ∨
      ∃ row ∈ store.accounts, row.ActiveAdmin ∧ row.id ≠ accountId) :
    AccessKept store (store.updateAccounts accountId assign) := by
  constructor
  · constructor
    · exact unique_key_update same inv.ids
    · exact inv.slots
    · intro account mem
      obtain ⟨row, rowMem, changed⟩ := mem_update_where.mp mem
      split at changed
      · next chosen =>
        rw [← changed]
        exact login row rowMem chosen
      · rw [← changed]
        exact inv.login row rowMem
  · rintro ⟨account, mem, active⟩
    rcases admin with keeps | ⟨other, otherMem, otherActive, different⟩
    · by_cases chosen : account.id = accountId
      · exact ⟨assign account, mem_update_of_chosen mem chosen, keeps account mem chosen active⟩
      · exact ⟨account, mem_update_of_not_chosen mem chosen, active⟩
    · exact ⟨other, mem_update_of_not_chosen otherMem different, otherActive⟩

theorem kept_write_password (inv : AccessInv store) (accountId passwordHash : String) :
    AccessKept store (writePassword store accountId passwordHash) :=
  kept_update inv (fun _ => rfl) (fun _ _ _ => .inl rfl) (.inl fun _ _ _ active => active)

theorem kept_update_account (inv : AccessInv store) {changes : AccountChanges}
    (done : updateAccount store accountId changes = .ok next) :
    AccessKept store next := by
  obtain ⟨rfl, guarded⟩ := update_account_ok done
  refine kept_update inv (fun _ => rfl) ?_ ?_
  · intro row mem _
    exact inv.login row mem
  · by_cases demoted : changes.isPlatformAdmin = some false
    · obtain ⟨row, passed⟩ := guarded demoted
      rcases (guard_other_admin inv.ids passed).2 with none | other
      · left
        intro account mem chosen active
        exact absurd active (none account mem chosen)
      · exact .inr other
    · left
      rintro row - - ⟨admin, active⟩
      refine ⟨?_, active⟩
      cases changed : changes.isPlatformAdmin with
      | none => simpa [AccountChanges.apply, changed] using admin
      | some value =>
        cases value
        · exact absurd changed demoted
        · simp [AccountChanges.apply, changed]

theorem kept_set_password_login (inv : AccessInv store) {enabled : Bool}
    (done : setPasswordLoginEnabled store accountId enabled = .ok next) :
    AccessKept store next := by
  unfold setPasswordLoginEnabled at done
  split at done
  · cases done
  · split at done
    · cases done
    · next found linked =>
      cases done
      apply kept_revoked
      refine kept_update inv (fun _ => rfl) ?_ (.inl fun _ _ _ active => active)
      rintro row - rfl
      cases enabled with
      | true => exact .inl rfl
      | false =>
        right
        have some : (store.identitiesOf row.id) ≠ [] := by
          intro none
          exact linked ⟨rfl, by simp [none]⟩
        obtain ⟨identity, listed⟩ := exists_mem_of_ne_nil _ some
        obtain ⟨mem, own⟩ := mem_filter.mp listed
        exact ⟨identity, mem, by simpa using own⟩

theorem kept_set_suspended (inv : AccessInv store) {actorId : String} {suspended : Bool}
    (done : setAccountSuspended store accountId actorId suspended now = .ok next) :
    AccessKept store next := by
  unfold setAccountSuspended at done
  split at done
  · cases done
  · split at done
    · obtain ⟨row, guarded, written⟩ := bind_ok done
      cases written
      apply kept_revoked
      refine kept_update inv (fun _ => rfl) ?_ ?_
      · intro account mem _
        exact inv.login account mem
      · rcases (guard_other_admin inv.ids guarded).2 with none | other
        · left
          intro account mem chosen active
          exact absurd active (none account mem chosen)
        · exact .inr other
    · cases done
      refine kept_update inv (fun _ => rfl) ?_ ?_
      · intro account mem _
        exact inv.login account mem
      · left
        rintro account - - ⟨admin, -⟩
        exact ⟨admin, le_refl (0 : Time)⟩

theorem kept_insert_identity (inv : AccessInv store) {row : IdentityRow}
    (done : insertIdentity store row = .ok next) :
    AccessKept store next ∧ row ∈ next.identities := by
  unfold insertIdentity at done
  split at done
  · cases done
  · next fresh =>
    cases done
    refine ⟨⟨⟨inv.ids, ?_, ?_⟩, fun admin => admin⟩, by simp⟩
    · apply unique_key_append inv.slots
      intro other mem same
      apply fresh
      obtain ⟨sameAccount, sameProvider⟩ := Prod.mk.inj same
      exact any_eq_true.mpr ⟨other, mem, by simp [sameAccount, sameProvider]⟩
    · intro account mem
      rcases inv.login account mem with password | ⟨identity, listed, own⟩
      · exact .inl password
      · exact .inr ⟨identity, mem_append_left _ listed, own⟩

theorem insert_account_ok (done : insertAccount store account = .ok next) :
    next = { store with accounts := store.accounts ++ [account] } ∧
      ∀ row ∈ store.accounts, row.id ≠ account.id := by
  unfold insertAccount at done
  split at done
  · cases done
  · next fresh =>
    cases done
    refine ⟨rfl, ?_⟩
    intro row mem same
    apply fresh
    exact any_eq_true.mpr ⟨row, mem, by simp [same]⟩

theorem kept_insert_account (inv : AccessInv store) (password : account.passwordLoginEnabled = true)
    (done : insertAccount store account = .ok next) : AccessKept store next := by
  obtain ⟨rfl, fresh⟩ := insert_account_ok done
  constructor
  · constructor
    · exact unique_key_append inv.ids fresh
    · exact inv.slots
    · intro row mem
      rcases mem_append.mp mem with old | new
      · exact inv.login row old
      · rw [mem_singleton.mp new]
        exact .inl password
  · rintro ⟨row, mem, admin⟩
    exact ⟨row, mem_append_left _ mem, admin⟩

theorem kept_create_token (inv : AccessInv store) {token : String}
    (done : createToken store host accountId token now = .ok next) : AccessKept store next := by
  unfold createToken at done
  split at done
  · cases done
  · split at done
    · cases done
    · cases done
      exact kept_same inv rfl rfl

theorem kept_register_password (inv : AccessInv store) {new : NewAccount}
    (done : registerPasswordAccount store host new = .ok next) : AccessKept store next := by
  unfold registerPasswordAccount at done
  split at done
  · cases done
  · obtain ⟨inserted, written, created⟩ := bind_ok done
    have first := kept_insert_account inv rfl written
    exact kept_trans first fun later => kept_create_token later created

theorem kept_bootstrap (inv : AccessInv store) {new : NewAccount}
    (done : bootstrapAdmin store new = .ok next) : AccessKept store next := by
  unfold bootstrapAdmin at done
  split at done
  · exact kept_insert_account inv rfl done
  · cases done

theorem claim_signup_ok {new : Registration} (done : claimSignup store invite new = .ok next) :
    next.accounts = store.accounts ∧ next.identities = store.identities := by
  cases invite with
  | none =>
    cases done
    exact ⟨rfl, rfl⟩
  | some invite =>
    simp only [claimSignup, claimInvite] at done
    split at done
    · cases done
      exact ⟨rfl, rfl⟩
    · cases done

theorem kept_register_identity (inv : AccessInv store) {profile : ProviderProfile}
    {new : Registration}
    (done : registerIdentity store host attempt profile invite new = .ok next) :
    AccessKept store next := by
  unfold registerIdentity at done
  split at done
  · cases done
  · split at done
    · cases done
    · obtain ⟨claimed, invited, rest⟩ := bind_ok done
      obtain ⟨registered, inserted, linked⟩ := bind_ok rest
      have same := claim_signup_ok invited
      obtain ⟨rfl, fresh⟩ := insert_account_ok inserted
      unfold insertIdentity at linked
      split at linked
      · cases linked
      · next freshSlot =>
        cases linked
        rw [same.2] at freshSlot
        constructor
        · constructor
          · show UniqueKey AccountRow.id (claimed.accounts ++ _)
            rw [same.1] at fresh ⊢
            exact unique_key_append inv.ids fresh
          · show UniqueKey IdentityRow.slot (claimed.identities ++ _)
            rw [same.2]
            apply unique_key_append inv.slots
            intro other mem slot
            apply freshSlot
            obtain ⟨sameAccount, sameProvider⟩ := Prod.mk.inj slot
            exact any_eq_true.mpr ⟨other, mem, by simp [sameAccount, sameProvider]⟩
          · intro account mem
            rcases mem_append.mp mem with old | created
            · rcases inv.login account (same.1 ▸ old) with password | ⟨identity, listed, own⟩
              · exact .inl password
              · exact .inr ⟨identity, mem_append_left _ (same.2 ▸ listed), own⟩
            · rw [mem_singleton.mp created]
              exact .inr ⟨_, mem_append_right _ (mem_singleton_self _), rfl⟩
        · rintro ⟨account, mem, admin⟩
          exact ⟨account, mem_append_left _ (same.1 ▸ mem), admin⟩

theorem kept_delete_account (inv : AccessInv store) {actorId : String}
    (done : deleteAccount store accountId actorId = .ok next) : AccessKept store next := by
  unfold deleteAccount at done
  split at done
  · cases done
  · obtain ⟨row, guarded, rest⟩ := bind_ok done
    split at rest
    · cases rest
    · split at rest
      · cases rest
      · split at rest
        · cases rest
        · cases rest
          constructor
          · constructor
            · exact inv.ids.sublist (filter_sublist.map _)
            · exact inv.slots.sublist (filter_sublist.map _)
            · intro account mem
              obtain ⟨old, kept⟩ := mem_filter.mp mem
              rcases inv.login account old with password | ⟨identity, listed, own⟩
              · exact .inl password
              · refine .inr ⟨identity, mem_filter.mpr ⟨listed, ?_⟩, own⟩
                simpa [own] using kept
          · rintro ⟨account, mem, admin⟩
            rcases (guard_other_admin inv.ids guarded).2 with none | ⟨other, otherMem, active,
              different⟩
            · refine ⟨account, mem_filter.mpr ⟨mem, ?_⟩, admin⟩
              have different : account.id ≠ accountId := fun same => none account mem same admin
              simpa using different
            · exact ⟨other, mem_filter.mpr ⟨otherMem, by simpa using different⟩, active⟩

theorem other_identity (inv : AccessInv store) (provider : String)
    (many : ¬(store.identitiesOf accountId).length ≤ 1) :
    ∃ row ∈ store.identities, row.accountId = accountId ∧ row.provider ≠ provider := by
  by_contra none
  push Not at none
  apply many
  let own := store.identitiesOf accountId
  have same : own.map IdentityRow.slot = List.replicate own.length (accountId, provider) := by
    rw [← length_map (f := IdentityRow.slot)]
    apply eq_replicate_of_mem
    intro slot mem
    obtain ⟨row, listed, rfl⟩ := mem_map.mp mem
    obtain ⟨rowMem, owned⟩ := mem_filter.mp listed
    have owner : row.accountId = accountId := by simpa using owned
    rw [IdentityRow.slot, owner, none row rowMem owner]
  have unique : (own.map IdentityRow.slot).Nodup := inv.slots.sublist (filter_sublist.map _)
  rw [same, nodup_replicate] at unique
  exact unique

theorem kept_unlink (inv : AccessInv store) {provider : String}
    (done : unlinkIdentity store accountId provider = .ok next) : AccessKept store next := by
  unfold unlinkIdentity at done
  split at done
  · cases done
  · next account found =>
    split at done
    · split at done
      · cases done
      · next left =>
        cases done
        apply kept_revoked
        refine ⟨⟨inv.ids, inv.slots.sublist (filter_sublist.map _), ?_⟩, fun admin => admin⟩
        intro row mem
        rcases inv.login row mem with password | ⟨identity, listed, own⟩
        · exact .inl password
        · by_cases target : row.id = accountId
          · have one : row = account := unique_key_eq inv.ids mem
              (lookup_mem found) (target.trans (lookup_key found).symm)
            by_cases enabled : row.passwordLoginEnabled = true
            · exact .inl enabled
            · have many : ¬(store.identitiesOf accountId).length ≤ 1 := by
                intro few
                apply left
                exact ⟨one ▸ Bool.eq_false_iff.mpr enabled, few⟩
              obtain ⟨other, otherMem, owner, different⟩ :=
                other_identity inv provider many
              refine .inr ⟨other, mem_filter.mpr ⟨otherMem, ?_⟩, owner.trans target.symm⟩
              simp [different]
          · refine .inr ⟨identity, mem_filter.mpr ⟨listed, ?_⟩, own⟩
            simp [own, target]
    · cases done
      exact kept_same inv rfl rfl

theorem kept_commit (inv : AccessInv store)
    (kept : ∀ next, result = .ok next → AccessKept store next) :
    AccessKept store (commit store result) := by
  cases result with
  | ok next => exact kept next rfl
  | error error => exact kept_same inv rfl rfl

theorem call_auth_kept (inv : AccessInv store) {request : AuthRequest}
    {ticket : Option AuthTicket} (taken : callAuth host store request = some (next, ticket)) :
    AccessKept store next := by
  cases request with
  | createAccount new isPlatformAdmin =>
    cases taken
    exact kept_commit inv fun _ done => kept_insert_account inv rfl done
  | registerPassword new =>
    cases taken
    exact kept_commit inv fun _ done => kept_register_password inv done
  | bootstrapAdmin new =>
    cases taken
    exact kept_commit inv fun _ done => kept_bootstrap inv done
  | updateAccount accountId changes =>
    cases taken
    exact kept_commit inv fun _ done => kept_update_account inv done
  | upgradePasswordHash accountId passwordHash =>
    cases taken
    exact kept_write_password inv accountId passwordHash
  | setPassword accountId passwordHash =>
    cases taken
    exact kept_revoked accountId (kept_write_password inv accountId passwordHash)
  | setPasswordLogin accountId enabled =>
    cases taken
    exact kept_commit inv fun _ done => kept_set_password_login inv done
  | setSuspended accountId actorId suspended now =>
    cases taken
    exact kept_commit inv fun _ done => kept_set_suspended inv done
  | deleteAccount accountId actorId =>
    cases taken
    exact kept_commit inv fun _ done => kept_delete_account inv done
  | unlinkIdentity accountId provider =>
    cases taken
    exact kept_commit inv fun _ done => kept_unlink inv done
  | createToken accountId token now =>
    cases taken
    exact kept_commit inv fun _ done => kept_create_token inv done
  | createAttempt new now =>
    simp only [callAuth] at taken
    split at taken
    · cases taken
    · cases taken
      exact kept_same inv rfl rfl
  | deleteToken | revokeSessions | createInvite | callback | poll | changeOwners =>
    cases taken
    exact kept_same inv rfl rfl

theorem kept_issue_token (inv : AccessInv store) {token : String}
    (issued : issueToken store host attempt token now = some result) :
    AccessKept store (commit store result) := by
  apply kept_commit inv
  rintro after rfl
  obtain ⟨row, -, claimed⟩ := Option.map_eq_some_iff.mp issued
  obtain ⟨created, written, done⟩ := bind_ok claimed
  cases done
  have consumed : AccessKept store (store.updateAttempts
      (fun row => row.id = attempt.id ∧ row.consumedAt = none)
      fun row => { row with consumedAt := some now }) := kept_same inv rfl rfl
  have kept := kept_trans consumed fun later => kept_create_token later written
  exact kept_trans kept fun later => kept_same later rfl rfl

theorem kept_conclude (inv : AccessInv store)
    (kept : ∀ next, result = .ok next → AccessKept store next) :
    AccessKept store (concludeAuth store attempt accountId result).1 := by
  cases result with
  | ok next => exact kept next rfl
  | error error => exact kept_same inv rfl rfl

theorem kept_verify (inv : AccessInv store) (profile : ProviderProfile) (existing : IdentityRow)
    (now : Time) : AccessKept store (verifyIdentity store profile existing now) := by
  constructor
  · constructor
    · exact inv.ids
    · exact unique_key_update (fun _ => rfl) inv.slots
    · intro account mem
      rcases inv.login account mem with password | ⟨identity, listed, own⟩
      · exact .inl password
      · by_cases chosen : identity.id = existing.id
        · exact .inr ⟨_, mem_update_of_chosen listed chosen, own⟩
        · exact .inr ⟨identity, mem_update_of_not_chosen listed chosen, own⟩
  · exact id

theorem resume_auth_kept (inv : AccessInv store) {ticket : AuthTicket} {input : AuthInput}
    {later : Option AuthTicket} (taken : resumeAuth host store ticket input = some (next, later)) :
    AccessKept store next := by
  unfold resumeAuth at taken
  split at taken
  · obtain ⟨attempt, -, ⟨⟩⟩ := Option.map_eq_some_iff.mp taken
    exact kept_same inv rfl rfl
  · cases ticket with
    | consume attempt denied =>
      simp only [advanceAuth] at taken
      split at taken <;> cases taken <;> exact kept_same inv rfl rfl
    | exchange attempt denied =>
      simp only [advanceAuth] at taken
      split at taken
      · cases taken
        exact kept_same inv rfl rfl
      · split at taken <;> cases taken <;> exact kept_same inv rfl rfl
    | link attempt profile =>
      simp only [advanceAuth] at taken
      split at taken
      · next linked =>
        cases taken
        exact (kept_insert_identity inv linked).1
      · cases taken
        exact kept_same inv rfl rfl
    | readAccount attempt profile existing =>
      simp only [advanceAuth] at taken
      split at taken
      · cases taken
        exact kept_same inv rfl rfl
      · split at taken <;> cases taken <;> exact kept_same inv rfl rfl
    | verify attempt profile existing =>
      cases taken
      exact kept_verify inv profile existing input.now
    | readEmail attempt profile =>
      simp only [advanceAuth] at taken
      split at taken <;> cases taken <;> exact kept_same inv rfl rfl
    | register attempt profile invite =>
      have kept : AccessKept store (concludeAuth store attempt input.accountId
          (registerIdentity store host attempt profile invite
            ⟨input.accountId, input.identityId, input.secret, input.now⟩)).1 :=
        kept_conclude inv fun _ done => kept_register_identity inv done
      simp only [advanceAuth, Option.some.injEq] at taken
      rw [taken] at kept
      exact kept
    | issue attempt =>
      simp only [advanceAuth] at taken
      split at taken
      · next result issued =>
        cases taken
        exact kept_issue_token inv issued
      · cases taken
        exact kept_same inv rfl rfl
    | resolve | readLinked | readInvite | complete | fail =>
      cases taken
      exact kept_same inv rfl rfl

theorem access_keeps : Keeps (authRoutine host) Anything AccessInv (fun _ _ => True) := by
  constructor
  · intro system request data ticket inv _ taken
    exact ⟨(call_auth_kept inv taken).inv, fun _ _ => trivial, fun _ _ _ => trivial⟩
  · intro system index input ticket data later inv _ _ _ taken
    exact ⟨(resume_auth_kept inv taken).inv, fun _ _ => trivial, fun _ _ _ => trivial⟩

theorem empty_access (store : AuthStore) (empty : store.Empty) : AccessInv store := by
  obtain ⟨accounts, identities, -⟩ := empty
  constructor
  · simp [accounts, UniqueKey]
  · simp [identities, UniqueKey]
  · simp [accounts]

theorem move_admin {system after : System AuthStore AuthTicket}
    {event : Event AuthRequest AuthInput} (inv : AccessInv system.data)
    (move : Move (authRoutine host) system event after) (admin : system.data.HasAdmin) :
    after.data.HasAdmin := by
  cases move with
  | call request data ticket taken => exact (call_auth_kept inv taken).admin admin
  | resume index input ticket data later found taken =>
    exact (resume_auth_kept inv taken).admin admin
  | crash index => exact admin

/-- Every active account has a login method, and once there is an active platform
administrator there is one in every later state. -/
theorem accounts_keep_access {system : System AuthStore AuthTicket}
    (reachable : ((authRoutine host).machine AuthStore.Empty).Reachable Anything system) :
    (∀ account ∈ system.data.accounts, account.Active → account.passwordLoginEnabled = true ∨
        ∃ row ∈ system.data.identities, row.accountId = account.id) ∧
    ∀ finish, ((authRoutine host).machine AuthStore.Empty).Path Anything system finish →
      (∃ account ∈ system.data.accounts, account.ActiveAdmin) →
        ∃ account ∈ finish.data.accounts, account.ActiveAdmin := by
  have holds := reachable_holds access_keeps empty_access reachable
  refine ⟨fun account mem _ => holds.data.login account mem, ?_⟩
  intro finish path admin
  exact (path_keeps AuthStore.HasAdmin access_keeps
    (fun _ _ _ held _ move fact => move_admin held.data move fact) holds admin path).2

def lastAdminEvents : List (Event AuthRequest AuthInput) :=
  [.call (.bootstrapAdmin rootAccount),
    .call (.updateAccount "root" ⟨none, none, none, some false⟩),
    .call (.setSuspended "root" "other" true 2),
    .call (.deleteAccount "root" "other"),
    .call (.setPasswordLogin "root" false)]

theorem last_admin_keeps_access : ∃ system,
    (authRoutine sampleAuthHost).run (fun _ _ => true) noAccounts lastAdminEvents = some system ∧
    ∀ finish, ((authRoutine sampleAuthHost).machine AuthStore.Empty).Path Anything system finish →
      ∃ account ∈ finish.data.accounts, account.ActiveAdmin := by
  have ran : ((authRoutine sampleAuthHost).run (fun _ _ => true) noAccounts lastAdminEvents).map
      (fun system => decide (∃ account ∈ system.data.accounts, account.ActiveAdmin)) =
      some true := by decide +kernel
  obtain ⟨system, done, computed⟩ := Option.map_eq_some_iff.mp ran
  have reachable : ((authRoutine sampleAuthHost).machine AuthStore.Empty).Reachable Anything
      system :=
    reachable_weaken (fun _ _ _ => trivial) (run_reachable _ no_accounts_empty done)
  refine ⟨system, done, ?_⟩
  intro finish path
  exact (accounts_keep_access reachable).2 finish path (of_decide_eq_true computed)

end AgentMate
