import AgentMate.AccountStore

/-! # An SSO attempt is used once -/

namespace AgentMate

open Interleaving TransitionSystem Rollback Table List Option

inductive AttemptStage where
  | found | held | due

def AuthTicket.stage : AuthTicket → AttemptStage
  | .consume _ _ => .found
  | .issue _ => .due
  | _ => .held

def AuthTicket.attempt : AuthTicket → SsoAttempt
  | .consume attempt _ | .exchange attempt _ | .resolve attempt _ | .readLinked attempt _ _
  | .link attempt _ | .readAccount attempt _ _ | .verify attempt _ _ | .readEmail attempt _
  | .readInvite attempt _ | .register attempt _ _ | .complete attempt _ | .fail attempt _
  | .issue attempt => attempt

def AuthTicket.holds (ticket : AuthTicket) : Option String :=
  match ticket.stage with
  | .held => some ticket.attempt.id
  | _ => none

/-- `held` and `due` say what the row of the attempt is, while there is one. -/
structure AuthTicket.Ready (store : AuthStore) (ticket : AuthTicket) : Prop where
  drawn : (ticket.attempt.id, ticket.attempt.stateHash) ∈ store.drawn
  held : ticket.stage = .held → ∀ row ∈ store.attempts, row.id = ticket.attempt.id →
    row.status = .processing
  due : ticket.stage = .due → ∀ row ∈ store.attempts, row.id = ticket.attempt.id →
    row.status = .completed ∧ row.expiresAt = ticket.attempt.expiresAt

structure SsoInv (store : AuthStore) : Prop where
  ids : UniqueKey SsoAttempt.id store.attempts
  drawnIds : UniqueKey Prod.fst store.drawn
  drawnHashes : UniqueKey Prod.snd store.drawn
  listed : ∀ row ∈ store.attempts, (row.id, row.stateHash) ∈ store.drawn
  once : store.consumed.Nodup
  spent : ∀ hash ∈ store.consumed, ∃ pair ∈ store.drawn, pair.2 = hash
  pending : ∀ row ∈ store.attempts, row.status = .pending → row.stateHash ∉ store.consumed
  single : (store.issued.map fun issue => issue.attempt.id).Nodup
  known : ∀ issue ∈ store.issued, ∃ pair ∈ store.drawn, pair.1 = issue.attempt.id
  settled : ∀ issue ∈ store.issued, ∀ row ∈ store.attempts, row.id = issue.attempt.id →
    row.status = .completed ∧ row.consumedAt ≠ none
  sound : ∀ issue ∈ store.issued,
    issue.attempt.status = .completed ∧ issue.attempt.consumedAt = none

structure AttemptsKept (store next : AuthStore) : Prop where
  attempts : next.attempts.Sublist store.attempts
  drawn : next.drawn = store.drawn
  consumed : next.consumed = store.consumed
  issued : next.issued = store.issued

variable {host : AuthHost} {store next middle : AuthStore}

theorem attempts_kept_refl (store : AuthStore) : AttemptsKept store store :=
  ⟨List.Sublist.refl _, rfl, rfl, rfl⟩

theorem attempts_kept_trans (first : AttemptsKept store middle)
    (second : AttemptsKept middle next) : AttemptsKept store next :=
  ⟨second.attempts.trans first.attempts, second.drawn.trans first.drawn,
    second.consumed.trans first.consumed, second.issued.trans first.issued⟩

theorem kept_sso_inv (kept : AttemptsKept store next) (inv : SsoInv store) : SsoInv next where
  ids := inv.ids.sublist (kept.attempts.map _)
  drawnIds := by
    rw [kept.drawn]
    exact inv.drawnIds
  drawnHashes := by
    rw [kept.drawn]
    exact inv.drawnHashes
  listed row mem := by
    rw [kept.drawn]
    exact inv.listed row (kept.attempts.subset mem)
  once := by
    rw [kept.consumed]
    exact inv.once
  spent := by
    rw [kept.consumed, kept.drawn]
    exact inv.spent
  pending row mem := by
    rw [kept.consumed]
    exact inv.pending row (kept.attempts.subset mem)
  single := by
    rw [kept.issued]
    exact inv.single
  known := by
    rw [kept.issued, kept.drawn]
    exact inv.known
  settled issue := by
    rw [kept.issued]
    intro mem row rowMem
    exact inv.settled issue mem row (kept.attempts.subset rowMem)
  sound := by
    rw [kept.issued]
    exact inv.sound

variable {ticket : AuthTicket}

theorem kept_ready (kept : AttemptsKept store next)
    (ready : ticket.Ready store) : ticket.Ready next := by
  constructor
  · rw [kept.drawn]
    exact ready.drawn
  · intro stage row mem
    exact ready.held stage row (kept.attempts.subset mem)
  · intro stage row mem
    exact ready.due stage row (kept.attempts.subset mem)

theorem commit_attempts {result : Except AuthError AuthStore}
    (kept : ∀ next, result = .ok next → AttemptsKept store next) :
    AttemptsKept store (commit store result) := by
  cases result with
  | ok next => exact kept next rfl
  | error error => exact attempts_kept_refl store

theorem insert_account_attempts {account : AccountRow}
    (done : insertAccount store account = .ok next) : AttemptsKept store next := by
  unfold insertAccount at done
  split at done
  · cases done
  · cases done
    exact ⟨List.Sublist.refl _, rfl, rfl, rfl⟩

variable {now : Time} {accountId : String}

theorem create_token_attempts {token : String}
    (done : createToken store host accountId token now = .ok next) : AttemptsKept store next := by
  unfold createToken at done
  split at done
  · cases done
  · split at done
    · cases done
    · cases done
      exact ⟨List.Sublist.refl _, rfl, rfl, rfl⟩

theorem register_password_attempts {new : NewAccount}
    (done : registerPasswordAccount store host new = .ok next) : AttemptsKept store next := by
  unfold registerPasswordAccount at done
  split at done
  · cases done
  · obtain ⟨inserted, written, created⟩ := bind_ok done
    exact attempts_kept_trans (insert_account_attempts written) (create_token_attempts created)

theorem bootstrap_attempts {new : NewAccount} (done : bootstrapAdmin store new = .ok next) :
    AttemptsKept store next := by
  unfold bootstrapAdmin at done
  split at done
  · exact insert_account_attempts done
  · cases done

theorem update_account_attempts {changes : AccountChanges}
    (done : updateAccount store accountId changes = .ok next) : AttemptsKept store next := by
  obtain ⟨rfl, -⟩ := update_account_ok done
  exact ⟨List.Sublist.refl _, rfl, rfl, rfl⟩

theorem set_password_login_attempts {enabled : Bool}
    (done : setPasswordLoginEnabled store accountId enabled = .ok next) :
    AttemptsKept store next := by
  unfold setPasswordLoginEnabled at done
  split at done
  · cases done
  · split at done
    · cases done
    · cases done
      exact ⟨List.Sublist.refl _, rfl, rfl, rfl⟩

theorem set_suspended_attempts {actorId : String} {suspended : Bool}
    (done : setAccountSuspended store accountId actorId suspended now = .ok next) :
    AttemptsKept store next := by
  unfold setAccountSuspended at done
  split at done
  · cases done
  · split at done
    · obtain ⟨row, -, written⟩ := bind_ok done
      cases written
      exact ⟨List.Sublist.refl _, rfl, rfl, rfl⟩
    · cases done
      exact ⟨List.Sublist.refl _, rfl, rfl, rfl⟩

theorem delete_account_attempts {actorId : String}
    (done : deleteAccount store accountId actorId = .ok next) : AttemptsKept store next := by
  unfold deleteAccount at done
  split at done
  · cases done
  · obtain ⟨row, -, rest⟩ := bind_ok done
    split at rest
    · cases rest
    · split at rest
      · cases rest
      · split at rest
        · cases rest
        · cases rest
          exact ⟨filter_sublist, rfl, rfl, rfl⟩

theorem unlink_attempts {provider : String}
    (done : unlinkIdentity store accountId provider = .ok next) : AttemptsKept store next := by
  unfold unlinkIdentity at done
  split at done
  · cases done
  · split at done
    · split at done
      · cases done
      · cases done
        exact ⟨List.Sublist.refl _, rfl, rfl, rfl⟩
    · cases done
      exact attempts_kept_refl store

theorem insert_identity_attempts {row : IdentityRow}
    (done : insertIdentity store row = .ok next) : AttemptsKept store next := by
  unfold insertIdentity at done
  split at done
  · cases done
  · cases done
    exact ⟨List.Sublist.refl _, rfl, rfl, rfl⟩

theorem claim_signup_attempts {invite : Option SignupInvite} {new : Registration}
    (done : claimSignup store invite new = .ok next) : AttemptsKept store next := by
  cases invite with
  | none =>
    cases done
    exact attempts_kept_refl store
  | some invite =>
    simp only [claimSignup, claimInvite] at done
    split at done
    · cases done
      exact ⟨List.Sublist.refl _, rfl, rfl, rfl⟩
    · cases done

variable {attempt : SsoAttempt}

theorem register_identity_attempts {profile : ProviderProfile}
    {invite : Option SignupInvite} {new : Registration}
    (done : registerIdentity store host attempt profile invite new = .ok next) :
    AttemptsKept store next := by
  unfold registerIdentity at done
  split at done
  · cases done
  · split at done
    · cases done
    · obtain ⟨claimed, invited, rest⟩ := bind_ok done
      obtain ⟨registered, inserted, linked⟩ := bind_ok rest
      exact attempts_kept_trans (claim_signup_attempts invited)
        (attempts_kept_trans (insert_account_attempts inserted) (insert_identity_attempts linked))

/-- A request other than `create_attempt` keeps the attempts and takes a ticket without a
hold, for a row that is stored. -/
theorem call_auth_attempts (inv : SsoInv store) {request : AuthRequest}
    {ticket : Option AuthTicket} (taken : callAuth host store request = some (next, ticket)) :
    (AttemptsKept store next ∧ ∀ own ∈ ticket, own.Ready next ∧ own.holds = none) ∨
    ∃ new now, request = .createAttempt new now ∧ next = createAttempt store host new now ∧
      ticket = none ∧ ∀ pair ∈ store.drawn, pair.1 ≠ new.id ∧ pair.2 ≠ host.sha256 new.state := by
  have settled : ∀ {result : Except AuthError AuthStore},
      (∀ after, result = .ok after → AttemptsKept store after) →
      some (settleAuth store result) = some (next, ticket) →
      (AttemptsKept store next ∧ ∀ own ∈ ticket, own.Ready next ∧ own.holds = none) := by
    intro result kept same
    cases same
    exact ⟨commit_attempts kept, by simp⟩
  cases request with
  | createAccount new isPlatformAdmin =>
    exact .inl (settled (fun _ done => insert_account_attempts done) taken)
  | registerPassword new =>
    exact .inl (settled (fun _ done => register_password_attempts done) taken)
  | bootstrapAdmin new => exact .inl (settled (fun _ done => bootstrap_attempts done) taken)
  | updateAccount accountId changes =>
    exact .inl (settled (fun _ done => update_account_attempts done) taken)
  | setPasswordLogin accountId enabled =>
    exact .inl (settled (fun _ done => set_password_login_attempts done) taken)
  | setSuspended accountId actorId suspended now =>
    exact .inl (settled (fun _ done => set_suspended_attempts done) taken)
  | deleteAccount accountId actorId =>
    exact .inl (settled (fun _ done => delete_account_attempts done) taken)
  | unlinkIdentity accountId provider =>
    exact .inl (settled (fun _ done => unlink_attempts done) taken)
  | createToken accountId token now =>
    exact .inl (settled (fun _ done => create_token_attempts done) taken)
  | createAttempt new now =>
    simp only [callAuth] at taken
    split at taken
    · cases taken
    · next fresh =>
      cases taken
      refine .inr ⟨new, now, rfl, rfl, rfl, ?_⟩
      intro pair mem
      constructor
      · intro same
        exact fresh (List.any_eq_true.mpr ⟨pair, mem, by simp [same]⟩)
      · intro same
        exact fresh (List.any_eq_true.mpr ⟨pair, mem, by simp [same]⟩)
  | callback provider state denied now =>
    cases taken
    refine .inl ⟨attempts_kept_refl store, ?_⟩
    intro own mem
    obtain ⟨row, read, rfl⟩ := map_eq_some_iff.mp mem
    refine ⟨⟨inv.listed row (mem_of_find?_eq_some read), ?_, ?_⟩, rfl⟩
    · intro stage
      cases stage
    · intro stage
      cases stage
  | poll attemptId attemptToken now =>
    cases taken
    refine .inl ⟨attempts_kept_refl store, ?_⟩
    intro own mem
    obtain ⟨row, checked, rfl⟩ := map_eq_some_iff.mp mem
    obtain ⟨found, allowed⟩ := filter_eq_some_iff.mp checked
    have completed : row.status = .completed := by
      simp only [decide_eq_true_eq] at allowed
      exact allowed.2.2
    refine ⟨⟨inv.listed row (lookup_mem found), ?_, ?_⟩, rfl⟩
    · intro stage
      cases stage
    · intro _ other otherMem same
      rw [unique_key_eq inv.ids otherMem (lookup_mem found) same]
      exact ⟨completed, rfl⟩
  | upgradePasswordHash | setPassword | deleteToken | revokeSessions | createInvite
  | changeOwners =>
    cases taken
    exact .inl ⟨⟨List.Sublist.refl _, rfl, rfl, rfl⟩, by simp⟩

theorem create_attempt_inv (inv : SsoInv store) {new : NewSsoAttempt}
    (fresh : ∀ pair ∈ store.drawn, pair.1 ≠ new.id ∧ pair.2 ≠ host.sha256 new.state) :
    SsoInv (createAttempt store host new now) := by
  have kept : ∀ row ∈ store.attempts.filter fun row => ¬row.expiresAt < now - 86400,
      row ∈ store.attempts := fun row mem => mem_of_mem_filter mem
  constructor
  · apply unique_key_append (inv.ids.sublist (filter_sublist.map _))
    intro row mem
    exact (fresh _ (inv.listed row (kept row mem))).1
  · exact unique_key_append inv.drawnIds fun pair mem => (fresh pair mem).1
  · exact unique_key_append inv.drawnHashes fun pair mem => (fresh pair mem).2
  · intro row mem
    rcases mem_append.mp mem with old | created
    · exact mem_append_left _ (inv.listed row (kept row old))
    · rw [mem_singleton.mp created]
      exact mem_append_right _ (mem_singleton_self _)
  · exact inv.once
  · intro hash mem
    obtain ⟨pair, listed, same⟩ := inv.spent hash mem
    exact ⟨pair, mem_append_left _ listed, same⟩
  · intro row mem pending
    rcases mem_append.mp mem with old | created
    · exact inv.pending row (kept row old) pending
    · rw [mem_singleton.mp created]
      intro spent
      obtain ⟨pair, listed, same⟩ := inv.spent _ spent
      exact (fresh pair listed).2 same
  · exact inv.single
  · intro issue mem
    obtain ⟨pair, listed, same⟩ := inv.known issue mem
    exact ⟨pair, mem_append_left _ listed, same⟩
  · intro issue mem row rowMem same
    rcases mem_append.mp rowMem with old | created
    · exact inv.settled issue mem row (kept row old) same
    · rw [mem_singleton.mp created] at same
      obtain ⟨pair, listed, known⟩ := inv.known issue mem
      exact absurd (known.trans same.symm) (fresh pair listed).1
  · exact inv.sound

theorem create_attempt_ready {new : NewSsoAttempt}
    (fresh : ∀ pair ∈ store.drawn, pair.1 ≠ new.id ∧ pair.2 ≠ host.sha256 new.state)
    (ready : ticket.Ready store) : ticket.Ready (createAttempt store host new now) := by
  have old : ∀ row ∈ (createAttempt store host new now).attempts,
      row.id = ticket.attempt.id → row ∈ store.attempts := by
    intro row mem same
    rcases mem_append.mp mem with kept | created
    · exact mem_of_mem_filter kept
    · rw [mem_singleton.mp created] at same
      exact absurd same.symm (fresh _ ready.drawn).1
  constructor
  · exact mem_append_left _ ready.drawn
  · intro stage row mem same
    exact ready.held stage row (old row mem same) same
  · intro stage row mem same
    exact ready.due stage row (old row mem same) same

section

variable {chosen : SsoAttempt → Prop} [DecidablePred chosen] {assign : SsoAttempt → SsoAttempt}

theorem update_sso_inv (inv : SsoInv store)
    (same : ∀ row, (assign row).id = row.id ∧ (assign row).stateHash = row.stateHash)
    (moved : ∀ row ∈ store.attempts, chosen row → (assign row).status ≠ .pending)
    (settled : ∀ row ∈ store.attempts, chosen row → ∀ issue ∈ store.issued,
      row.id = issue.attempt.id →
        (assign row).status = .completed ∧ (assign row).consumedAt ≠ none) :
    SsoInv (store.updateAttempts chosen assign) where
  ids := unique_key_update (fun row => (same row).1) inv.ids
  drawnIds := inv.drawnIds
  drawnHashes := inv.drawnHashes
  listed row mem := by
    obtain ⟨old, oldMem, rfl⟩ := mem_update_where.mp mem
    split
    · rw [(same old).1, (same old).2]
      exact inv.listed old oldMem
    · exact inv.listed old oldMem
  once := inv.once
  spent := inv.spent
  pending row mem := by
    obtain ⟨old, oldMem, rfl⟩ := mem_update_where.mp mem
    split
    · next choice =>
      intro pending
      exact absurd pending (moved old oldMem choice)
    · exact inv.pending old oldMem
  single := inv.single
  known := inv.known
  settled issue mem row rowMem := by
    obtain ⟨old, oldMem, rfl⟩ := mem_update_where.mp rowMem
    split
    · next choice =>
      intro own
      exact settled old oldMem choice issue mem ((same old).1.symm.trans own)
    · exact inv.settled issue mem old oldMem
  sound := inv.sound

theorem update_ready {ticket : AuthTicket} (ready : ticket.Ready store)
    (same : ∀ row, (assign row).id = row.id)
    (held : ticket.stage = .held → ∀ row ∈ store.attempts, chosen row →
      row.id = ticket.attempt.id → (assign row).status = .processing)
    (due : ticket.stage = .due → ∀ row ∈ store.attempts, chosen row →
      row.id = ticket.attempt.id → (assign row).status = .completed ∧
        (assign row).expiresAt = ticket.attempt.expiresAt) :
    ticket.Ready (store.updateAttempts chosen assign) := by
  constructor
  · exact ready.drawn
  · intro stage row mem own
    obtain ⟨old, oldMem, rfl⟩ := mem_update_where.mp mem
    split at own
    · next choice =>
      rw [if_pos choice]
      exact held stage old oldMem choice ((same old).symm.trans own)
    · next other =>
      rw [if_neg other]
      exact ready.held stage old oldMem own
  · intro stage row mem own
    obtain ⟨old, oldMem, rfl⟩ := mem_update_where.mp mem
    split at own
    · next choice =>
      rw [if_pos choice]
      exact due stage old oldMem choice ((same old).symm.trans own)
    · next other =>
      rw [if_neg other]
      exact ready.due stage old oldMem own

end

theorem pending_row (inv : SsoInv store) (drawn : (attempt.id, attempt.stateHash) ∈ store.drawn)
    (there : (store.attempts.any fun row => decide (row.PendingAs attempt.id)) = true) :
    ∃ row ∈ store.attempts, row.id = attempt.id ∧ row.status = .pending ∧
      row.stateHash = attempt.stateHash := by
  obtain ⟨row, mem, matched⟩ := List.any_eq_true.mp there
  obtain ⟨same, pending⟩ := of_decide_eq_true matched
  have one : (row.id, row.stateHash) = (attempt.id, attempt.stateHash) :=
    unique_key_eq inv.drawnIds (inv.listed row mem) drawn same
  exact ⟨row, mem, same, pending, (Prod.mk.inj one).2⟩

theorem consume_state_inv (inv : SsoInv store)
    (drawn : (attempt.id, attempt.stateHash) ∈ store.drawn)
    (there : (store.attempts.any fun row => decide (row.PendingAs attempt.id)) = true) :
    SsoInv (consumeState store attempt) := by
  obtain ⟨row, mem, own, pending, hash⟩ := pending_row inv drawn there
  have unspent : attempt.stateHash ∉ store.consumed := hash ▸ inv.pending row mem pending
  have updated : SsoInv (store.updateAttempts (SsoAttempt.PendingAs attempt.id)
      fun row => { row with status := .processing }) := by
    refine update_sso_inv inv (fun _ => ⟨rfl, rfl⟩) ?_ ?_
    · intro other _ _
      simp
    · rintro other otherMem ⟨-, still⟩ issue listed same
      rw [(inv.settled issue listed other otherMem same).1] at still
      cases still
  exact {
    updated with
    once := by
      show (store.consumed ++ [attempt.stateHash]).Nodup
      rw [← concat_eq_append]
      exact List.Nodup.concat unspent inv.once
    spent := by
      intro other spent
      rcases mem_append.mp spent with old | new
      · exact inv.spent other old
      · rw [mem_singleton.mp new]
        exact ⟨_, drawn, rfl⟩
    pending := by
      intro other otherMem waiting spent
      rcases mem_append.mp spent with old | new
      · exact updated.pending other otherMem waiting old
      · have one : (other.id, other.stateHash) = (attempt.id, attempt.stateHash) :=
          unique_key_eq inv.drawnHashes (updated.listed other otherMem) drawn (mem_singleton.mp new)
        obtain ⟨old, oldMem, rfl⟩ := mem_update_where.mp otherMem
        split at waiting
        · cases waiting
        · next others =>
          rw [if_neg others] at one
          exact others ⟨(Prod.mk.inj one).1, waiting⟩ }

theorem consume_state_ready
    (ready : ticket.Ready store) : ticket.Ready (consumeState store attempt) := by
  have updated : ticket.Ready (store.updateAttempts (SsoAttempt.PendingAs attempt.id)
      fun row => { row with status := .processing }) := by
    refine update_ready ready (fun _ => rfl) ?_ ?_
    · intro _ _ _ _ _
      rfl
    · rintro stage row mem ⟨-, pending⟩ own
      rw [(ready.due stage row mem own).1] at pending
      cases pending
  exact ⟨updated.drawn, updated.held, updated.due⟩

theorem consume_state_holder (inv : SsoInv store) {denied : Bool}
    (drawn : (attempt.id, attempt.stateHash) ∈ store.drawn)
    (there : (store.attempts.any fun row => decide (row.PendingAs attempt.id)) = true) :
    (AuthTicket.exchange attempt denied).Ready (consumeState store attempt) := by
  obtain ⟨row, mem, own, pending, -⟩ := pending_row inv drawn there
  constructor
  · exact drawn
  · intro _ other otherMem same
    obtain ⟨old, oldMem, rfl⟩ := mem_update_where.mp otherMem
    split
    · rfl
    · next others =>
      rw [if_neg others] at same
      have one := unique_key_eq inv.ids oldMem mem (same.trans own.symm)
      exact absurd ⟨same, one ▸ pending⟩ others
  · intro stage
    cases stage

theorem outcome_inv (inv : SsoInv store) {assign : SsoAttempt → SsoAttempt}
    (held : ∀ row ∈ store.attempts, row.id = attempt.id → row.status = .processing)
    (same : ∀ row, (assign row).id = row.id ∧ (assign row).stateHash = row.stateHash)
    (moved : ∀ row, (assign row).status ≠ .pending) :
    SsoInv (store.updateAttempts (fun row => row.id = attempt.id) assign) := by
  apply update_sso_inv inv same
  · intro row _ _
    exact moved row
  · intro row mem own issue listed known
    have processing := held row mem own
    rw [(inv.settled issue listed row mem known).1] at processing
    cases processing

theorem outcome_ready {assign : SsoAttempt → SsoAttempt} (ready : ticket.Ready store)
    (held : ∀ row ∈ store.attempts, row.id = attempt.id → row.status = .processing)
    (same : ∀ row, (assign row).id = row.id) (other : ticket.holds ≠ some attempt.id) :
    ticket.Ready (store.updateAttempts (fun row => row.id = attempt.id) assign) := by
  apply update_ready ready same
  · intro stage row _ chosen own
    apply (other _).elim
    rw [AuthTicket.holds, stage, ← own, chosen]
  · intro stage row mem chosen own
    have processing := held row mem chosen
    rw [(ready.due stage row mem own).1] at processing
    cases processing

theorem issue_token_ok (inv : SsoInv store) {token : String}
    (ready : (AuthTicket.issue attempt).Ready store)
    (issued : issueToken store host attempt token now = some (.ok next)) :
    SsoInv next ∧ (∀ ticket : AuthTicket, ticket.Ready store → ticket.Ready next) ∧
      ∃ issue, next.issued = store.issued ++ [issue] ∧
        issue.attempt.expiresAt = attempt.expiresAt ∧ issue.issuedAt = now := by
  obtain ⟨row, found, claimed⟩ := map_eq_some_iff.mp issued
  obtain ⟨read, unconsumed⟩ := filter_eq_some_iff.mp found
  rw [decide_eq_true_eq] at unconsumed
  have mem := lookup_mem read
  have own : row.id = attempt.id := lookup_key read
  obtain ⟨completed, expiry⟩ := ready.due rfl row mem own
  have one : ∀ other ∈ store.attempts, other.id = attempt.id → other = row := fun other listed same =>
    unique_key_eq inv.ids listed mem (same.trans own.symm)
  obtain ⟨created, written, done⟩ := bind_ok claimed
  cases done
  have updated : SsoInv (store.updateAttempts
      (fun other => other.id = attempt.id ∧ other.consumedAt = none)
      fun other => { other with consumedAt := some now }) := by
    refine update_sso_inv inv (fun _ => ⟨rfl, rfl⟩) ?_ ?_
    · rintro other listed ⟨same, -⟩
      show other.status ≠ .pending
      rw [one other listed same, completed]
      simp
    · rintro other listed ⟨same, -⟩ issue _ _
      refine ⟨?_, by simp⟩
      show other.status = .completed
      rw [one other listed same, completed]
  have kept := create_token_attempts written
  have later := kept_sso_inv kept updated
  have fresh : ∀ issue ∈ store.issued, issue.attempt.id ≠ row.id := fun issue listed same =>
    (inv.settled issue listed row mem same.symm).2 unconsumed
  refine ⟨?_, ?_, _, congrArg (· ++ _) kept.issued, expiry, rfl⟩
  · exact {
      later with
      single := by
        show ((created.issued ++ _).map fun issue => issue.attempt.id).Nodup
        rw [kept.issued]
        exact unique_key_append inv.single fresh
      known := by
        intro issue listed
        rcases mem_append.mp listed with old | new
        · exact later.known issue old
        · rw [mem_singleton.mp new]
          refine ⟨(attempt.id, attempt.stateHash), ?_, own.symm⟩
          rw [kept.drawn]
          exact ready.drawn
      settled := by
        intro issue listed other otherMem same
        rcases mem_append.mp listed with old | new
        · exact later.settled issue old other otherMem same
        · rw [mem_singleton.mp new] at same
          obtain ⟨source, sourceMem, rfl⟩ :=
            mem_update_where.mp (kept.attempts.subset otherMem)
          split at same
          · next choice =>
            rw [if_pos choice]
            refine ⟨?_, by simp⟩
            show source.status = .completed
            rw [one source sourceMem choice.1, completed]
          · next others =>
            have chosen := one source sourceMem (same.trans own)
            exact absurd ⟨same.trans own, chosen ▸ unconsumed⟩ others
      sound := by
        intro issue listed
        rcases mem_append.mp listed with old | new
        · exact later.sound issue old
        · rw [mem_singleton.mp new]
          exact ⟨completed, unconsumed⟩ }
  · intro ticket waiting
    have moved : ticket.Ready (store.updateAttempts
        (fun other => other.id = attempt.id ∧ other.consumedAt = none)
        fun other => { other with consumedAt := some now }) := by
      refine update_ready waiting (fun _ => rfl) ?_ ?_
      · rintro stage other listed - same
        exact waiting.held stage other listed same
      · rintro stage other listed - same
        exact waiting.due stage other listed same
    have settled := kept_ready kept moved
    exact ⟨settled.drawn, settled.held, settled.due⟩

structure AuthStep (store next : AuthStore) (ticket : AuthTicket) (later : Option AuthTicket)
    (now : Time) : Prop where
  inv : SsoInv next
  own : ∀ own ∈ later, own.Ready next
  holds : ∀ own ∈ later, ∀ key ∈ own.holds, key ∈ ticket.holds ∨
    ∀ other : AuthTicket, other.Ready store → other.holds ≠ some key
  others : ∀ other : AuthTicket, other.Ready store →
    (∀ key ∈ ticket.holds, other.holds ≠ some key) → other.Ready next
  issued : ∀ issue ∈ next.issued, issue ∈ store.issued ∨
    ∃ attempt, ticket = .issue attempt ∧ issue.attempt.expiresAt = attempt.expiresAt ∧
      issue.issuedAt = now

theorem held_step (inv : SsoInv store) {own : AuthTicket}
    (ready : ticket.Ready store) (held : ticket.stage = .held) (kept : AttemptsKept store next)
    (same : own.attempt = ticket.attempt) (still : own.stage = .held) :
    AuthStep store next ticket (some own) now where
  inv := kept_sso_inv kept inv
  own := by
    rintro _ ⟨⟩
    have later := kept_ready kept ready
    refine ⟨same ▸ later.drawn, fun _ => same ▸ later.held held, ?_⟩
    intro stage
    rw [still] at stage
    cases stage
  holds := by
    rintro _ ⟨⟩ key mem
    left
    simpa only [AuthTicket.holds, held, still, same] using mem
  others _ waiting _ := kept_ready kept waiting
  issued issue mem := .inl (kept.issued ▸ mem)

theorem route_identity_held (attempt : SsoAttempt) (profile : ProviderProfile)
    (existing : Option IdentityRow) :
    (routeIdentity attempt profile existing).attempt = attempt ∧
      (routeIdentity attempt profile existing).stage = .held := by
  unfold routeIdentity
  split
  · exact ⟨rfl, rfl⟩
  · split
    · exact ⟨rfl, rfl⟩
    · split <;> exact ⟨rfl, rfl⟩

theorem route_link_held (store : AuthStore) (attempt : SsoAttempt) (profile : ProviderProfile)
    (existing : Option IdentityRow) :
    (routeLink store attempt profile existing).attempt = attempt ∧
      (routeLink store attempt profile existing).stage = .held := by
  unfold routeLink
  dsimp only
  split
  · exact ⟨rfl, rfl⟩
  · split <;> exact ⟨rfl, rfl⟩

theorem route_invite_held (host : AuthHost) (store : AuthStore) (attempt : SsoAttempt)
    (profile : ProviderProfile) (now : Time) :
    (routeInvite host store attempt profile now).attempt = attempt ∧
      (routeInvite host store attempt profile now).stage = .held := by
  unfold routeInvite
  split
  · exact ⟨rfl, rfl⟩
  · split
    · split
      · exact ⟨rfl, rfl⟩
      · split <;> exact ⟨rfl, rfl⟩
    · exact ⟨rfl, rfl⟩

theorem start_resolve_held (host : AuthHost) (attempt : SsoAttempt) (answer : ProviderProfile) :
    (startResolve host attempt answer).attempt = attempt ∧
      (startResolve host attempt answer).stage = .held := by
  unfold startResolve
  dsimp only
  split <;> exact ⟨rfl, rfl⟩

theorem conclude_held (attempt : SsoAttempt) (accountId : String)
    {result : Except AuthError AuthStore}
    (kept : ∀ after, result = .ok after → AttemptsKept store after) :
    AttemptsKept store (concludeAuth store attempt accountId result).1 ∧
      ∃ own, (concludeAuth store attempt accountId result).2 = some own ∧
        own.attempt = attempt ∧ own.stage = .held := by
  cases result with
  | ok after => exact ⟨kept after rfl, _, rfl, rfl, rfl⟩
  | error error => exact ⟨attempts_kept_refl store, _, rfl, rfl, rfl⟩

theorem outcome_step (inv : SsoInv store)
    {assign : SsoAttempt → SsoAttempt} (ready : ticket.Ready store) (held : ticket.stage = .held)
    (same : ∀ row, (assign row).id = row.id ∧ (assign row).stateHash = row.stateHash)
    (moved : ∀ row, (assign row).status ≠ .pending) :
    AuthStep store (store.updateAttempts (fun row => row.id = ticket.attempt.id) assign) ticket
      none now where
  inv := outcome_inv inv (ready.held held) same moved
  own := by simp
  holds := by simp
  others other waiting free := by
    apply outcome_ready waiting (ready.held held) (fun row => (same row).1)
    apply free
    simp [AuthTicket.holds, held]
  issued _ mem := .inl mem

theorem advance_auth_step (inv : SsoInv store) {input : AuthInput}
    {later : Option AuthTicket} (ready : ticket.Ready store)
    (taken : advanceAuth host store ticket input = some (next, later)) :
    AuthStep store next ticket later input.now := by
  have same : AttemptsKept store store := attempts_kept_refl store
  cases ticket with
  | consume attempt denied =>
    simp only [advanceAuth] at taken
    split at taken
    · next there =>
      cases taken
      constructor
      · exact consume_state_inv inv ready.drawn there
      · rintro _ ⟨⟩
        exact consume_state_holder inv ready.drawn there
      · rintro _ ⟨⟩ _ ⟨⟩
        right
        intro other waiting held
        obtain ⟨row, mem, own, pending, -⟩ := pending_row inv ready.drawn there
        have stage : other.stage = .held ∧ other.attempt.id = attempt.id := by
          unfold AuthTicket.holds at held
          split at held
          · next stage => exact ⟨stage, Option.some.inj held⟩
          · cases held
        rw [waiting.held stage.1 row mem (own.trans stage.2.symm)] at pending
        cases pending
      · intro other waiting _
        exact consume_state_ready waiting
      · intro issue mem
        exact .inl mem
    · cases taken
      exact ⟨inv, by simp, by simp, fun _ waiting _ => waiting, fun _ mem => .inl mem⟩
  | exchange attempt denied =>
    simp only [advanceAuth] at taken
    split at taken
    · cases taken
      exact held_step inv ready rfl same rfl rfl
    · split at taken
      · cases taken
        exact held_step inv ready rfl same rfl rfl
      · next answer _ =>
        cases taken
        have route := start_resolve_held host attempt answer
        exact held_step inv ready rfl same route.1 route.2
  | resolve attempt profile =>
    cases taken
    have route := route_identity_held attempt profile
      (store.identity? attempt.provider profile.subject)
    exact held_step inv ready rfl same route.1 route.2
  | readLinked attempt profile existing =>
    cases taken
    have route := route_link_held store attempt profile existing
    exact held_step inv ready rfl same route.1 route.2
  | link attempt profile =>
    simp only [advanceAuth] at taken
    split at taken
    · next linked =>
      cases taken
      exact held_step inv ready rfl (insert_identity_attempts linked) rfl rfl
    · cases taken
      exact held_step inv ready rfl same rfl rfl
  | readAccount attempt profile existing =>
    simp only [advanceAuth] at taken
    split at taken
    · cases taken
      exact held_step inv ready rfl same rfl rfl
    · split at taken <;> cases taken <;> exact held_step inv ready rfl same rfl rfl
  | verify attempt profile existing =>
    cases taken
    exact held_step inv ready rfl ⟨List.Sublist.refl _, rfl, rfl, rfl⟩ rfl rfl
  | readEmail attempt profile =>
    simp only [advanceAuth] at taken
    split at taken <;> cases taken <;> exact held_step inv ready rfl same rfl rfl
  | readInvite attempt profile =>
    cases taken
    have route := route_invite_held host store attempt profile input.now
    exact held_step inv ready rfl same route.1 route.2
  | register attempt profile invite =>
    have settled := conclude_held attempt input.accountId fun _ done =>
      @register_identity_attempts host store _ attempt profile invite
        ⟨input.accountId, input.identityId, input.secret, input.now⟩ done
    simp only [advanceAuth, Option.some.injEq] at taken
    rw [taken] at settled
    obtain ⟨kept, own, rfl, attempted, held⟩ := settled
    exact held_step inv ready rfl kept attempted held
  | complete attempt accountId =>
    cases taken
    exact outcome_step inv ready rfl (fun _ => ⟨rfl, rfl⟩) (by simp)
  | fail attempt code =>
    cases taken
    exact outcome_step inv ready rfl (fun _ => ⟨rfl, rfl⟩) (by simp)
  | issue attempt =>
    simp only [advanceAuth] at taken
    split at taken
    · next result issued =>
      cases taken
      cases result with
      | error error =>
        exact ⟨inv, by simp, by simp, fun _ waiting _ => waiting, fun _ mem => .inl mem⟩
      | ok after =>
        obtain ⟨later, ready', issue, added, expiry, at_⟩ := issue_token_ok inv ready issued
        refine ⟨later, by simp, by simp, fun other waiting _ => ready' other waiting, ?_⟩
        intro listed mem
        rw [commit_ok, added] at mem
        rcases mem_append.mp mem with old | new
        · exact .inl old
        · rw [mem_singleton.mp new]
          exact .inr ⟨attempt, rfl, expiry, at_⟩
    · cases taken
      exact ⟨inv, by simp, by simp, fun _ waiting _ => waiting, fun _ mem => .inl mem⟩

theorem trying_held (trying : ticket.trying = some attempt) :
    ticket.attempt = attempt ∧ ticket.stage = .held := by
  cases ticket <;> cases trying <;> exact ⟨rfl, rfl⟩

theorem resume_auth_step (inv : SsoInv store) {input : AuthInput}
    {later : Option AuthTicket} (ready : ticket.Ready store)
    (taken : resumeAuth host store ticket input = some (next, later)) :
    AuthStep store next ticket later input.now := by
  unfold resumeAuth at taken
  split at taken
  · obtain ⟨attempt, trying, ⟨⟩⟩ := map_eq_some_iff.mp taken
    obtain ⟨same, held⟩ := trying_held trying
    exact held_step inv ready held (attempts_kept_refl store) same.symm rfl
  · exact advance_auth_step inv ready taken

structure SsoHolds (system : System AuthStore AuthTicket) : Prop where
  data : SsoInv system.data
  ready : ∀ ticket ∈ system.pending, ticket.Ready system.data
  exclusive : Exclusive AuthTicket.holds system.pending

variable {system after : System AuthStore AuthTicket} {event : Event AuthRequest AuthInput}

theorem move_sso_holds (holds : SsoHolds system)
    (move : Move (authRoutine host) system event after) :
    SsoHolds after ∧ ∀ issue ∈ after.data.issued, issue ∈ system.data.issued ∨
      ∃ index input attempt, event = .resume index input ∧
        system.pending[index]? = some (.issue attempt) ∧
        issue.attempt.expiresAt = attempt.expiresAt ∧ issue.issuedAt = input.now := by
  cases move with
  | call request data ticket taken =>
    rcases call_auth_attempts holds.data taken with ⟨kept, own⟩ | ⟨new, now, -, rfl, rfl, fresh⟩
    · refine ⟨⟨kept_sso_inv kept holds.data, ?_, ?_⟩, fun issue mem =>
        .inl (kept.issued ▸ mem)⟩
      · intro other mem
        rcases mem_append.mp mem with old | created
        · exact kept_ready kept (holds.ready other old)
        · exact (own other (mem_toList.mp created)).1
      · apply exclusive_put holds.exclusive
        intro other mem key held
        rw [(own other mem).2] at held
        cases held
    · refine ⟨⟨create_attempt_inv holds.data fresh, ?_, ?_⟩, fun issue mem => .inl mem⟩
      · intro other mem
        rw [toList_none, append_nil] at mem
        exact create_attempt_ready fresh (holds.ready other mem)
      · simpa using holds.exclusive
  | resume index input ticket data later found taken =>
    have ready := holds.ready ticket (mem_of_getElem? found)
    have step := resume_auth_step holds.data ready taken
    obtain ⟨rest, free⟩ := exclusive_take holds.exclusive found
    refine ⟨⟨step.inv, ?_, ?_⟩, ?_⟩
    · intro other mem
      rcases mem_append.mp mem with old | created
      · exact step.others other (holds.ready other (mem_of_mem_eraseIdx old))
          fun key held => free key held other old
      · exact step.own other (mem_toList.mp created)
    · apply exclusive_put rest
      intro own mem key held other otherMem
      rcases step.holds own mem key held with before | none
      · exact free key before other otherMem
      · exact none other (holds.ready other (mem_of_mem_eraseIdx otherMem))
    · intro issue mem
      rcases step.issued issue mem with old | ⟨attempt, rfl, expiry, at_⟩
      · exact .inl old
      · exact .inr ⟨index, input, attempt, rfl, found, expiry, at_⟩
  | crash index =>
    refine ⟨⟨holds.data, ?_, ?_⟩, fun issue mem => .inl mem⟩
    · intro other mem
      exact holds.ready other (mem_of_mem_eraseIdx mem)
    · exact holds.exclusive.sublist ((eraseIdx_sublist _ _).filterMap _)

theorem empty_sso_holds (initial : system.data.Empty ∧ system.pending = []) : SsoHolds system := by
  obtain ⟨⟨-, -, attempts, drawn, consumed, issued⟩, none⟩ := initial
  constructor
  · constructor <;> simp [attempts, drawn, consumed, issued, UniqueKey]
  · simp [none]
  · simp [none, Exclusive]

/-- The token transaction of `poll_attempt` runs before the expiry that its check read. -/
def ExchangeInTime (system : System AuthStore AuthTicket) (event : Event AuthRequest AuthInput) :
    Prop :=
  ∀ index input attempt, event = .resume index input →
    system.pending[index]? = some (.issue attempt) → input.now < attempt.expiresAt

theorem reachable_sso_holds
    (reachable : ((authRoutine host).machine AuthStore.Empty).Reachable ExchangeInTime system) :
    SsoHolds system ∧ ∀ issue ∈ system.data.issued, issue.issuedAt < issue.attempt.expiresAt := by
  apply reachable_invariant (fun state : System AuthStore AuthTicket => SsoHolds state ∧
    ∀ issue ∈ state.data.issued, issue.issuedAt < issue.attempt.expiresAt) _ _ reachable
  · rintro start initial
    refine ⟨empty_sso_holds initial, ?_⟩
    simp [initial.1.2.2.2.2.2]
  · rintro state taken next ⟨holds, inTime⟩ guarded step
    obtain ⟨later, issues⟩ := move_sso_holds holds (next_move step)
    refine ⟨later, ?_⟩
    intro issue mem
    rcases issues issue mem with old | ⟨index, input, attempt, rfl, found, expiry, at_⟩
    · exact inTime issue old
    · rw [expiry, at_]
      exact guarded index input attempt rfl found

/-- A state is consumed at most once and an attempt issues at most one token, while it is
completed, not yet exchanged and not expired; a failed attempt has none. -/
theorem sso_attempts_single_use
    (reachable : ((authRoutine host).machine AuthStore.Empty).Reachable ExchangeInTime system) :
    system.data.consumed.Nodup ∧
    (system.data.issued.map fun issue => issue.attempt.id).Nodup ∧
    (∀ issue ∈ system.data.issued, issue.attempt.status = .completed ∧
      issue.attempt.consumedAt = none ∧ issue.issuedAt < issue.attempt.expiresAt) ∧
    ∀ issue ∈ system.data.issued, ∀ attempt ∈ system.data.attempts,
      attempt.id = issue.attempt.id → attempt.status = .completed ∧ attempt.consumedAt ≠ none := by
  obtain ⟨holds, inTime⟩ := reachable_sso_holds reachable
  refine ⟨holds.data.once, holds.data.single, ?_, holds.data.settled⟩
  intro issue mem
  exact ⟨(holds.data.sound issue mem).1, (holds.data.sound issue mem).2, inTime issue mem⟩

def exchangeInTime (system : System AuthStore AuthTicket) (event : Event AuthRequest AuthInput) :
    Bool :=
  match event with
  | .resume index input =>
    match system.pending[index]? with
    | some (.issue attempt) => decide (input.now < attempt.expiresAt)
    | _ => true
  | _ => true

theorem exchange_in_time_sound (system : System AuthStore AuthTicket)
    (event : Event AuthRequest AuthInput) (checked : exchangeInTime system event = true) :
    ExchangeInTime system event := by
  rintro index input attempt rfl found
  simpa only [exchangeInTime, found, decide_eq_true_eq] using checked

def sampleAttempt : NewSsoAttempt :=
  ⟨"attempt", "google", "login", none, "", "state", "attempt-token", "verifier", "nonce"⟩

def authInput (now : Time) : AuthInput :=
  ⟨now, false, "account", "identity", "secret", .ok ⟨"subject", "", "Ann"⟩⟩

def firstLogin (exchangedAt : Time) : List (Event AuthRequest AuthInput) :=
  [.call (.createAttempt sampleAttempt 0), .call (.callback "google" "state" false 1),
    .resume 0 (authInput 2), .resume 0 (authInput 3), .resume 0 (authInput 4),
    .resume 0 (authInput 5), .resume 0 (authInput 6), .resume 0 (authInput 7),
    .call (.poll "attempt" "attempt-token" 599),
    .resume 0 (authInput exchangedAt)]

theorem first_login_single_use : ∃ system,
    (authRoutine sampleAuthHost).run exchangeInTime noAccounts (firstLogin 599) = some system ∧
    system.data.issued.length = 1 ∧ system.data.consumed.Nodup ∧
    ∀ issue ∈ system.data.issued, issue.issuedAt < issue.attempt.expiresAt := by
  have ran : ((authRoutine sampleAuthHost).run exchangeInTime noAccounts (firstLogin 599)).map
      (fun system => system.data.issued.length) = some 1 := by decide +kernel
  obtain ⟨system, done, computed⟩ := map_eq_some_iff.mp ran
  have reachable : ((authRoutine sampleAuthHost).machine AuthStore.Empty).Reachable
      ExchangeInTime system :=
    reachable_weaken exchange_in_time_sound (run_reachable _ no_accounts_empty done)
  obtain ⟨once, -, sound, -⟩ := sso_attempts_single_use reachable
  exact ⟨system, done, computed, once, fun issue mem => (sound issue mem).2.2⟩

theorem expired_attempt_issues_token : ∃ system,
    ((authRoutine sampleAuthHost).machine AuthStore.Empty).Reachable Anything system ∧
    ∃ issue ∈ system.data.issued, issue.attempt.expiresAt ≤ issue.issuedAt := by
  have ran : ((authRoutine sampleAuthHost).run (fun _ _ => true) noAccounts
      (firstLogin 601)).map (fun system =>
        decide (∃ issue ∈ system.data.issued, issue.attempt.expiresAt ≤ issue.issuedAt)) =
      some true := by decide +kernel
  obtain ⟨system, done, computed⟩ := map_eq_some_iff.mp ran
  exact ⟨system, reachable_weaken (fun _ _ _ => trivial) (run_reachable _ no_accounts_empty done),
    of_decide_eq_true computed⟩

end AgentMate
