import AgentMate.Rollback
import AgentMate.SkillReleaseStore

/-! # Governance of skill releases -/

namespace AgentMate.SkillReleases

open SkillCatalog Interleaving TransitionSystem Rollback Table Option
open List hiding lookup_eq_none_iff

structure Release.Same (old new : Release) : Prop where
  id : new.id = old.id
  slug : new.slug = old.slug
  version : new.version = old.version
  data : new.data = old.data
  contentHash : new.contentHash = old.contentHash
  authorId : new.authorId = old.authorId
  written : new.written = old.written

theorem same_refl (row : Release) : row.Same row := ⟨rfl, rfl, rfl, rfl, rfl, rfl, rfl⟩

/-- The releases of a store go on in the next, the closed ones closed, and the audit is only
added to. -/
structure Grown (store next : ReleaseStore) : Prop where
  rows : ∀ row ∈ store.releases, ∃ new ∈ next.releases, row.Same new ∧
    (row.state.isClosed = true → new.state.isClosed = true)
  audit : ∀ entry ∈ store.audit, entry ∈ next.audit

variable {host : ReleaseHost} {store next : ReleaseStore}

theorem grown_refl (store : ReleaseStore) : Grown store store :=
  ⟨fun row mem => ⟨row, mem, same_refl row, id⟩, fun _ mem => mem⟩

theorem grown_trans {middle : ReleaseStore} (first : Grown store middle)
    (second : Grown middle next) : Grown store next := by
  constructor
  · intro row mem
    obtain ⟨between, betweenMem, before, closed⟩ := first.rows row mem
    obtain ⟨new, newMem, after, still⟩ := second.rows between betweenMem
    refine ⟨new, newMem, ?_, fun own => still (closed own)⟩
    exact ⟨after.id.trans before.id, after.slug.trans before.slug,
      after.version.trans before.version, after.data.trans before.data,
      after.contentHash.trans before.contentHash, after.authorId.trans before.authorId,
      after.written.trans before.written⟩
  · exact fun entry mem => second.audit entry (first.audit entry mem)

def ReleaseStore.Tested (store : ReleaseStore) (releaseId : String) : Prop :=
  ∃ entry ∈ store.audit, entry.releaseId = releaseId ∧ entry.action = .clientTestPassed

def ReleaseStore.Approved (store : ReleaseStore) (releaseId authorId : String) : Prop :=
  ∃ entry ∈ store.audit, entry.releaseId = releaseId ∧ entry.action = .approved ∧
    entry.actor.isPlatformAdmin = true ∧ entry.actor.id ≠ authorId

/-- The content was written in a release that passed a client test and that another admin
approved. -/
def ReleaseStore.Certified (store : ReleaseStore) (contentHash : String) : Prop :=
  ∃ row ∈ store.releases, row.written = true ∧ row.contentHash = contentHash ∧
    store.Tested row.id ∧ store.Approved row.id row.authorId

variable {releaseId : String} {assign : Release → Release} {action : ReleaseAction}
  {account : Account} {draft : ReleaseDraft} {ticket : ReleaseTicket} {body : SkillPublishBody}
  {input : ReleaseInput}

theorem tested_grown (grown : Grown store next) (tested : store.Tested releaseId) :
    next.Tested releaseId := by
  obtain ⟨entry, mem, own, action⟩ := tested
  exact ⟨entry, grown.audit entry mem, own, action⟩

theorem certified_grown (grown : Grown store next) {contentHash : String}
    (certified : store.Certified contentHash) : next.Certified contentHash := by
  obtain ⟨row, mem, written, hash, tested, entry, listed, own, action, admin, other⟩ := certified
  obtain ⟨new, newMem, same, -⟩ := grown.rows row mem
  refine ⟨new, newMem, same.written ▸ written, same.contentHash ▸ hash, ?_, entry,
    grown.audit entry listed, ?_, action, admin, ?_⟩
  · rw [same.id]
    exact tested_grown grown tested
  · rw [same.id]
    exact own
  · rw [same.authorId]
    exact other

def ReleaseState.isApproved (state : ReleaseState) : Bool := state = .approved || state.isLive

structure Release.Sound (host : ReleaseHost) (store : ReleaseStore) (row : Release) : Prop where
  hash : row.contentHash = host.sha256 (jsonDumps host.floats row.data)
  approved : row.state.isApproved = true → store.Certified row.contentHash
  reviewed : row.reviewerId ≠ "" → store.Certified row.contentHash
  copied : row.written = false → store.Certified row.contentHash
  tested : row.written = true → row.testStatus = "passed" → store.Tested row.id

structure ReleaseStore.Sound (host : ReleaseHost) (store : ReleaseStore) : Prop where
  ids : UniqueKey Release.id store.releases
  rows : ∀ row ∈ store.releases, row.Sound host store

theorem sound_grown (grown : Grown store next) {row : Release} (sound : row.Sound host store) :
    row.Sound host next := by
  constructor
  · exact sound.hash
  · exact fun approved => certified_grown grown (sound.approved approved)
  · exact fun reviewed => certified_grown grown (sound.reviewed reviewed)
  · exact fun copied => certified_grown grown (sound.copied copied)
  · exact fun written passed => tested_grown grown (sound.tested written passed)

theorem update_sound {chosen : Release → Prop} [DecidablePred chosen] (sound : store.Sound host)
    (rows : next.releases = updateWhere chosen assign store.releases)
    (audit : ∀ entry ∈ store.audit, entry ∈ next.audit)
    (same : ∀ row : Release, row.Same (assign row))
    (closed : ∀ row ∈ store.releases, chosen row → row.state.isClosed = true →
      (assign row).state.isClosed = true)
    (assigned : ∀ row ∈ store.releases, chosen row → Grown store next →
      assign row ∈ next.releases → (assign row).Sound host next) :
    next.Sound host ∧ Grown store next := by
  have grown : Grown store next := by
    constructor
    · intro row mem
      rw [rows]
      by_cases choice : chosen row
      · exact ⟨_, mem_update_of_chosen mem choice, same row, closed row mem choice⟩
      · exact ⟨row, mem_update_of_not_chosen mem choice, same_refl row, id⟩
    · exact audit
  refine ⟨⟨?_, ?_⟩, grown⟩
  · rw [rows]
    exact unique_key_update (fun row => (same row).id) sound.ids
  · intro row mem
    have listed := mem
    rw [rows] at listed
    obtain ⟨old, oldMem, choice⟩ := mem_update_where.mp listed
    by_cases chosenOld : chosen old
    · rw [if_pos chosenOld] at choice
      subst choice
      exact assigned old oldMem chosenOld grown mem
    · rw [if_neg chosenOld] at choice
      exact choice ▸ sound_grown grown (sound.rows old oldMem)

theorem set_state_sound (sound : store.Sound host) (same : ∀ row : Release, row.Same (assign row))
    (closed : ∀ row ∈ store.releases, row.id = releaseId → row.state.isClosed = true →
      (assign row).state.isClosed = true)
    (assigned : ∀ row ∈ store.releases, row.id = releaseId →
      Grown store (store.setState releaseId assign action account) →
      assign row ∈ (store.setState releaseId assign action account).releases →
      ⟨releaseId, action, account⟩ ∈ (store.setState releaseId assign action account).audit →
      (assign row).Sound host (store.setState releaseId assign action account)) :
    (store.setState releaseId assign action account).Sound host ∧
      Grown store (store.setState releaseId assign action account) := by
  by_cases missing : (store.release? releaseId).isNone = true
  · rw [ReleaseStore.setState, if_pos missing]
    exact ⟨sound, grown_refl store⟩
  · have rows : (store.setState releaseId assign action account).releases =
        updateWhere (fun row => row.id = releaseId) assign store.releases := by
      rw [ReleaseStore.setState, if_neg missing]
    have audit : (store.setState releaseId assign action account).audit =
        store.audit ++ [⟨releaseId, action, account⟩] := by
      rw [ReleaseStore.setState, if_neg missing]
    apply update_sound sound rows
    · intro entry mem
      rw [audit]
      exact mem_append_left _ mem
    · exact same
    · exact closed
    · intro row mem own grown listed
      apply assigned row mem own grown listed
      rw [audit]
      simp

theorem create_sound (sound : store.Sound host) (certified : draft.written = false →
      store.Certified (host.sha256 (jsonDumps host.floats draft.data)))
    (created : store.createRelease host draft releaseId account = some next) :
    next.Sound host ∧ Grown store next ∧
      ∃ row ∈ next.releases, row.id = releaseId ∧ row.written = draft.written := by
  obtain ⟨⟨_, free⟩, result⟩ := ite_none_right_eq_some.mp created
  cases result
  rw [isNone_iff_eq_none, ReleaseStore.release?, lookup_eq_none_iff] at free
  have grown : Grown store { store with
      releases := store.releases ++ [draft.row host releaseId
        (store.nextVersion (strippedField host.toCatalogHost "slug" draft.data))]
      audit := store.audit ++ [⟨releaseId, .draftCreated, account⟩] } := by
    constructor
    · intro row mem
      exact ⟨row, mem_append_left _ mem, same_refl row, id⟩
    · exact fun entry mem => mem_append_left _ mem
  refine ⟨⟨unique_key_append sound.ids free, ?_⟩, grown,
    _, mem_append_right _ (mem_singleton_self _), rfl, rfl⟩
  intro row mem
  rcases mem_append.mp mem with old | new
  · exact sound_grown grown (sound.rows row old)
  · rw [mem_singleton.mp new]
    constructor
    · rfl
    · intro approved
      cases approved
    · intro reviewed
      exact absurd rfl reviewed
    · exact fun copied => certified_grown grown (certified copied)
    · intro _ passed
      exact absurd (show "pending" = "passed" from passed) (by decide)

def ReleaseTicket.Ready (host : ReleaseHost) (store : ReleaseStore) : ReleaseTicket → Prop
  | .create draft _ => draft.written = true
  | .approve releaseId account => account.isPlatformAdmin = true ∧
      ∃ row ∈ store.releases, row.id = releaseId ∧ row.authorId ≠ account.id ∧
        (row.written = true → store.Tested row.id)
  | .publish seen _ _ _ => store.Certified seen.contentHash ∧
      ∃ row ∈ store.releases, row.id = seen.id ∧ row.contentHash = seen.contentHash
  | .pause releaseId _ =>
    ∃ row ∈ store.releases, row.id = releaseId ∧ store.Certified row.contentHash
  | .copy target _ => store.Certified target.contentHash ∧
      target.contentHash = host.sha256 (jsonDumps host.floats target.data)
  | .approveCopy releaseId _ =>
    ∃ row ∈ store.releases, row.id = releaseId ∧ row.written = false
  | .test _ _ _ | .withdrawItem _ _ _ | .withdraw _ _ => True

theorem ready_grown (grown : Grown store next) (ready : ticket.Ready host store) :
    ticket.Ready host next := by
  cases ticket with
  | create draft account => exact ready
  | approve releaseId account =>
    obtain ⟨admin, row, mem, own, other, tested⟩ := ready
    obtain ⟨new, newMem, same, -⟩ := grown.rows row mem
    refine ⟨admin, new, newMem, same.id.trans own, same.authorId ▸ other, ?_⟩
    intro written
    rw [same.id]
    exact tested_grown grown (tested (same.written ▸ written))
  | publish seen body account stage =>
    obtain ⟨certified, row, mem, own, hash⟩ := ready
    obtain ⟨new, newMem, same, -⟩ := grown.rows row mem
    exact ⟨certified_grown grown certified, new, newMem, same.id.trans own,
      same.contentHash.trans hash⟩
  | pause releaseId account =>
    obtain ⟨row, mem, own, certified⟩ := ready
    obtain ⟨new, newMem, same, -⟩ := grown.rows row mem
    exact ⟨new, newMem, same.id.trans own, same.contentHash ▸ certified_grown grown certified⟩
  | copy target account => exact ⟨certified_grown grown ready.1, ready.2⟩
  | approveCopy releaseId account =>
    obtain ⟨row, mem, own, written⟩ := ready
    obtain ⟨new, newMem, same, -⟩ := grown.rows row mem
    exact ⟨new, newMem, same.id.trans own, same.written.trans written⟩
  | test releaseId passed account => trivial
  | withdrawItem releaseId itemId account => trivial
  | withdraw releaseId account => trivial

/-- The release whose state the next statement sets to one that is not closed. -/
def ReleaseTicket.opens : ReleaseTicket → Option String
  | .test releaseId _ _ | .approve releaseId _ | .pause releaseId _ | .approveCopy releaseId _ =>
    some releaseId
  | .publish seen _ _ .state => some seen.id
  | _ => none

def ReleaseStore.Reviewed (store : ReleaseStore) (target : Release) : Prop :=
  ∃ row ∈ store.releases, row.contentHash = target.contentHash ∧ row.reviewerId ≠ ""

/-- No state is written over a closed one, and a rollback of an admin goes to reviewed content. -/
def Governed (system : System ReleaseStore ReleaseTicket) : Event ReleaseRequest ReleaseInput → Prop
  | .call (.rollback releaseId account) => account.isPlatformAdmin = true →
      ∀ target ∈ system.data.release? releaseId, system.data.Reviewed target
  | .resume index _ => ∀ ticket ∈ system.pending[index]?, ∀ releaseId ∈ ticket.opens,
      ∀ row ∈ system.data.releases, row.id = releaseId → row.state.isClosed = false
  | _ => True

theorem found_row {release : Release} (found : store.found releaseId = .ok release) :
    store.release? releaseId = some release ∧ release ∈ store.releases ∧ release.id = releaseId := by
  rw [ReleaseStore.found] at found
  split at found
  · next row listed =>
    cases found
    exact ⟨listed, lookup_mem listed, lookup_key listed⟩
  · cases found

theorem require_admin (allowed : requireAdmin account = .ok ()) :
    account.isPlatformAdmin = true := by
  rw [requireAdmin] at allowed
  split at allowed
  · next admin => exact admin
  · cases allowed

theorem check_create_written {body : SkillReleaseBody}
    (accepted : store.checkCreate host body account = .ok draft) : draft.written = true := by
  obtain ⟨_, _, rest⟩ := bind_ok accepted
  obtain ⟨_, _, rest⟩ := bind_ok rest
  obtain ⟨_, _, rest⟩ := bind_ok rest
  obtain ⟨_, _, same⟩ := bind_ok rest
  cases same
  rfl

theorem check_approve_ready (sound : store.Sound host)
    (checked : store.checkApprove releaseId account = .ok ticket) :
    ticket.Ready host store := by
  obtain ⟨_, allowed, rest⟩ := bind_ok checked
  obtain ⟨release, found, rest⟩ := bind_ok rest
  obtain ⟨_, testing, rest⟩ := bind_ok rest
  obtain ⟨_, other, same⟩ := bind_ok rest
  cases same
  obtain ⟨_, mem, own⟩ := found_row found
  have passed := refuse_if_ok testing
  have author := refuse_if_ok other
  simp only [Bool.or_eq_false_iff, decide_eq_false_iff_not, not_not] at passed author
  exact ⟨require_admin allowed, release, mem, own, author,
    fun written => (sound.rows release mem).tested written passed.2⟩

theorem check_publish_ready (sound : store.Sound host)
    (checked : store.checkPublish releaseId body account = .ok ticket) :
    ticket.Ready host store := by
  obtain ⟨_, _, rest⟩ := bind_ok checked
  obtain ⟨release, found, rest⟩ := bind_ok rest
  obtain ⟨_, approved, same⟩ := bind_ok rest
  cases same
  obtain ⟨_, mem, _⟩ := found_row found
  have reviewed := refuse_if_ok approved
  simp only [Bool.or_eq_false_iff, decide_eq_false_iff_not] at reviewed
  exact ⟨(sound.rows release mem).reviewed reviewed.2, release, mem, rfl, rfl⟩

theorem check_pause_ready (sound : store.Sound host)
    (checked : store.checkPause releaseId account = .ok ticket) :
    ticket.Ready host store := by
  obtain ⟨_, _, rest⟩ := bind_ok checked
  obtain ⟨_, rolling, same⟩ := bind_ok rest
  cases same
  have any := refuse_if_ok rolling
  rw [Bool.not_eq_false', Option.any_eq_true] at any
  obtain ⟨release, found, state⟩ := any
  have mem := lookup_mem found
  refine ⟨release, mem, lookup_key found, (sound.rows release mem).approved ?_⟩
  rw [of_decide_eq_true state]
  rfl

theorem check_ready {request : ReleaseRequest} {system : System ReleaseStore ReleaseTicket}
    (sound : system.data.Sound host) (governed : Governed system (.call request))
    (checked : system.data.check host request = .ok ticket) : ticket.Ready host system.data := by
  cases request with
  | create body account =>
    obtain ⟨draft, accepted, same⟩ := bind_ok checked
    cases same
    exact check_create_written accepted
  | test releaseId body account =>
    obtain ⟨_, _, rest⟩ := bind_ok checked
    obtain ⟨_, _, same⟩ := bind_ok rest
    cases same
    trivial
  | approve releaseId account => exact check_approve_ready sound checked
  | publish releaseId body account => exact check_publish_ready sound checked
  | pause releaseId account => exact check_pause_ready sound checked
  | withdraw releaseId account =>
    obtain ⟨_, _, rest⟩ := bind_ok checked
    obtain ⟨release, _, rest⟩ := bind_ok rest
    obtain ⟨_, _, same⟩ := bind_ok rest
    cases item : release.catalogItemId.filter (· ≠ "") with
    | none =>
      rw [item] at same
      cases same
      trivial
    | some itemId =>
      rw [item] at same
      cases same
      trivial
  | rollback releaseId account =>
    obtain ⟨_, allowed, rest⟩ := bind_ok checked
    obtain ⟨target, found, same⟩ := bind_ok rest
    cases same
    obtain ⟨listed, mem, _⟩ := found_row found
    obtain ⟨row, rowMem, hash, reviewed⟩ := governed (require_admin allowed) target listed
    have certified := (sound.rows row rowMem).reviewed reviewed
    rw [hash] at certified
    exact ⟨certified, (sound.rows target mem).hash⟩

variable {later : Option ReleaseTicket}

structure Advanced (host : ReleaseHost) (store next : ReleaseStore)
    (later : Option ReleaseTicket) : Prop where
  sound : next.Sound host
  grown : Grown store next
  own : ∀ ticket ∈ later, ticket.Ready host next

theorem catalog_advanced (sound : store.Sound host) (rows : next.releases = store.releases)
    (audit : next.audit = store.audit) (own : ∀ ticket ∈ later, ticket.Ready host store) :
    Advanced host store next later := by
  have grown : Grown store next := by
    constructor
    · intro row mem
      exact ⟨row, rows ▸ mem, same_refl row, id⟩
    · exact fun entry mem => audit ▸ mem
  refine ⟨⟨rows ▸ sound.ids, fun row mem => ?_⟩, grown,
    fun ticket listed => ready_grown grown (own ticket listed)⟩
  exact sound_grown grown (sound.rows row (rows ▸ mem))

def ReleaseStore.Open (store : ReleaseStore) (releaseId : String) : Prop :=
  ∀ row ∈ store.releases, row.id = releaseId → row.state.isClosed = false

theorem write_advanced (sound : store.Sound host) (same : ∀ row : Release, row.Same (assign row))
    (opened : store.Open releaseId)
    (assigned : ∀ row ∈ store.releases, row.id = releaseId →
      Grown store (store.setState releaseId assign action account) →
      assign row ∈ (store.setState releaseId assign action account).releases →
      ⟨releaseId, action, account⟩ ∈ (store.setState releaseId assign action account).audit →
      (assign row).Sound host (store.setState releaseId assign action account)) :
    Advanced host store (store.setState releaseId assign action account) none := by
  have written : (store.setState releaseId assign action account).Sound host ∧
      Grown store (store.setState releaseId assign action account) :=
    set_state_sound sound same
      (fun row mem own closed => absurd closed (by simp [opened row mem own])) assigned
  exact ⟨written.1, written.2, by simp⟩

theorem test_advanced {passed : Bool} (sound : store.Sound host) (opened : store.Open releaseId) :
    Advanced host store (store.setState releaseId (Release.tested passed)
      (if passed then .clientTestPassed else .clientTestFailed) account) none := by
  refine write_advanced sound (fun _ => ⟨rfl, rfl, rfl, rfl, rfl, rfl, rfl⟩) opened ?_
  intro row mem own grown _ entry
  have before := sound_grown grown (sound.rows row mem)
  constructor
  · exact before.hash
  · intro approved
    cases approved
  · exact before.reviewed
  · exact before.copied
  · intro _ status
    cases passed with
    | true => exact ⟨_, entry, own.symm, rfl⟩
    | false => exact absurd (show "failed" = "passed" from status) (by decide)

theorem certify_advanced (sound : store.Sound host)
    (opened : store.Open releaseId) (same : ∀ row : Release, row.Same (assign row))
    (passed : ∀ row ∈ store.releases, row.id = releaseId →
      (assign row).testStatus = row.testStatus ∨ row.written = false)
    (certified : ∀ row ∈ store.releases, row.id = releaseId →
      Grown store (store.setState releaseId assign action account) →
      assign row ∈ (store.setState releaseId assign action account).releases →
      ⟨releaseId, action, account⟩ ∈ (store.setState releaseId assign action account).audit →
      (store.setState releaseId assign action account).Certified row.contentHash) :
    Advanced host store (store.setState releaseId assign action account) none := by
  refine write_advanced sound same opened ?_
  intro row mem own grown listed entry
  have before := sound_grown grown (sound.rows row mem)
  have now := certified row mem own grown listed entry
  rw [← (same row).contentHash] at now
  constructor
  · rw [(same row).contentHash, (same row).data]
    exact before.hash
  · exact fun _ => now
  · exact fun _ => now
  · exact fun _ => now
  · intro written status
    rw [(same row).written] at written
    rcases passed row mem own with kept | copy
    · rw [(same row).id]
      exact before.tested written (kept ▸ status)
    · rw [copy] at written
      cases written

theorem approve_advanced (sound : store.Sound host)
    (ready : (ReleaseTicket.approve releaseId account).Ready host store)
    (opened : store.Open releaseId) :
    Advanced host store
      (store.setState releaseId (Release.approvedBy account) .approved account) none := by
  obtain ⟨admin, seen, seenMem, seenId, other, tested⟩ := ready
  refine certify_advanced sound opened (fun _ => ⟨rfl, rfl, rfl, rfl, rfl, rfl, rfl⟩)
    (fun _ _ _ => .inl rfl) ?_
  intro row mem own grown listed entry
  cases written : row.written with
  | false => exact certified_grown grown ((sound.rows row mem).copied written)
  | true =>
    obtain rfl := unique_key_eq sound.ids seenMem mem (seenId.trans own.symm)
    exact ⟨_, listed, written, rfl, tested_grown grown (tested written), _, entry, own.symm, rfl,
      admin, fun same => other same.symm⟩

theorem pause_advanced (sound : store.Sound host)
    (ready : (ReleaseTicket.pause releaseId account).Ready host store)
    (opened : store.Open releaseId) :
    Advanced host store (store.setState releaseId Release.paused .rolloutPaused account) none := by
  obtain ⟨seen, seenMem, seenId, certified⟩ := ready
  refine certify_advanced sound opened (fun _ => ⟨rfl, rfl, rfl, rfl, rfl, rfl, rfl⟩)
    (fun _ _ _ => .inl rfl) ?_
  intro row mem own grown _ _
  obtain rfl := unique_key_eq sound.ids seenMem mem (seenId.trans own.symm)
  exact certified_grown grown certified

theorem publish_state_advanced {seen : Release} {now : Time} (sound : store.Sound host)
    (ready : (ReleaseTicket.publish seen body account .state).Ready host store)
    (opened : store.Open seen.id) :
    Advanced host store (store.setState seen.id (Release.publishedBy body now) (body.action now)
      account) none := by
  obtain ⟨certified, kept, keptMem, keptId, hash⟩ := ready
  refine certify_advanced sound opened (fun _ => ⟨rfl, rfl, rfl, rfl, rfl, rfl, rfl⟩)
    (fun _ _ _ => .inl rfl) ?_
  intro row mem own grown _ _
  obtain rfl := unique_key_eq sound.ids keptMem mem (keptId.trans own.symm)
  rw [hash]
  exact certified_grown grown certified

theorem approve_copy_advanced (sound : store.Sound host)
    (ready : (ReleaseTicket.approveCopy releaseId account).Ready host store)
    (opened : store.Open releaseId) :
    Advanced host store
      (store.setState releaseId (Release.copyApproved account) .rollbackApproved account) none := by
  obtain ⟨copy, copyMem, copyId, written⟩ := ready
  have only : ∀ row ∈ store.releases, row.id = releaseId → row = copy := fun row mem own =>
    unique_key_eq sound.ids mem copyMem (own.trans copyId.symm)
  refine certify_advanced sound opened (fun _ => ⟨rfl, rfl, rfl, rfl, rfl, rfl, rfl⟩) ?_ ?_
  · intro row mem own
    rw [only row mem own]
    exact .inr written
  · intro row mem own grown _ _
    rw [only row mem own]
    exact certified_grown grown ((sound.rows copy copyMem).copied written)

theorem withdraw_advanced (sound : store.Sound host) : Advanced host store
      (store.setState releaseId Release.withdrawnNow .withdrawn account) none := by
  have written : (store.setState releaseId Release.withdrawnNow .withdrawn account).Sound host ∧
      Grown store (store.setState releaseId Release.withdrawnNow .withdrawn account) := by
    refine set_state_sound sound (fun _ => ⟨rfl, rfl, rfl, rfl, rfl, rfl, rfl⟩)
      (fun _ _ _ _ => rfl) ?_
    intro row mem own grown _ _
    have before := sound_grown grown (sound.rows row mem)
    refine ⟨before.hash, ?_, before.reviewed, before.copied, before.tested⟩
    intro approved
    cases approved
  exact ⟨written.1, written.2, by simp⟩

theorem publish_advanced {seen : Release} {stage : PublishStage} (sound : store.Sound host)
    (ready : (ReleaseTicket.publish seen body account stage).Ready host store)
    (opened : ∀ releaseId ∈ (ReleaseTicket.publish seen body account stage).opens,
      store.Open releaseId)
    (resumed : publishResume host store seen body account stage input = some (next, later)) :
    Advanced host store next later := by
  cases stage with
  | item =>
    rw [publishResume] at resumed
    cases item : store.itemFor? seen with
    | some row =>
      rw [item] at resumed
      cases resumed
      exact catalog_advanced sound rfl rfl (by rintro _ ⟨⟩; exact ready)
    | none =>
      rw [item] at resumed
      obtain ⟨_, result⟩ := ite_none_right_eq_some.mp resumed
      cases result
      exact catalog_advanced sound rfl rfl (by rintro _ ⟨⟩; exact ready)
  | update itemId =>
    cases resumed
    exact catalog_advanced sound rfl rfl (by rintro _ ⟨⟩; exact ready)
  | attach itemId =>
    cases resumed
    have attached : (store.attachItem seen.id itemId).Sound host ∧
        Grown store (store.attachItem seen.id itemId) := by
      refine update_sound sound rfl (fun _ mem => mem) ?_ ?_ ?_
      · exact fun _ => ⟨rfl, rfl, rfl, rfl, rfl, rfl, rfl⟩
      · exact fun _ _ _ closed => closed
      · intro row mem _ grown _
        have before := sound_grown grown (sound.rows row mem)
        exact ⟨before.hash, before.approved, before.reviewed, before.copied, before.tested⟩
    refine ⟨attached.1, attached.2, ?_⟩
    rintro _ ⟨⟩
    exact ready_grown attached.2 ready
  | supersede =>
    cases resumed
    have replaced : (store.supersedeOthers seen.slug seen.id).Sound host ∧
        Grown store (store.supersedeOthers seen.slug seen.id) := by
      refine update_sound sound rfl (fun _ mem => mem) ?_ ?_ ?_
      · exact fun _ => ⟨rfl, rfl, rfl, rfl, rfl, rfl, rfl⟩
      · exact fun _ _ _ _ => rfl
      · intro row mem _ grown _
        have before := sound_grown grown (sound.rows row mem)
        refine ⟨before.hash, ?_, before.reviewed, before.copied, before.tested⟩
        intro approved
        cases approved
    refine ⟨replaced.1, replaced.2, ?_⟩
    rintro _ ⟨⟩
    exact ready_grown replaced.2 ready
  | state =>
    cases resumed
    exact publish_state_advanced sound ready (opened seen.id rfl)

theorem resume_advanced (sound : store.Sound host) (ready : ticket.Ready host store)
    (opened : ∀ releaseId ∈ ticket.opens, store.Open releaseId)
    (resumed : releaseResume host store ticket input = some (next, later)) :
    Advanced host store next later := by
  cases ticket with
  | create draft account =>
    obtain ⟨made, created, same⟩ := map_eq_some_iff.mp resumed
    cases same
    have written : draft.written = true := ready
    have new := create_sound sound (fun copied => absurd written (by simp [copied])) created
    exact ⟨new.1, new.2.1, by simp⟩
  | test releaseId passed account =>
    cases resumed
    exact test_advanced sound (opened releaseId rfl)
  | approve releaseId account =>
    cases resumed
    exact approve_advanced sound ready (opened releaseId rfl)
  | publish seen body account stage => exact publish_advanced sound ready opened resumed
  | pause releaseId account =>
    cases resumed
    exact pause_advanced sound ready (opened releaseId rfl)
  | withdrawItem releaseId itemId account =>
    cases resumed
    exact catalog_advanced sound rfl rfl (by rintro _ ⟨⟩; trivial)
  | withdraw releaseId account =>
    cases resumed
    exact withdraw_advanced sound
  | copy target account =>
    obtain ⟨made, created, same⟩ := map_eq_some_iff.mp resumed
    cases same
    obtain ⟨certified, hash⟩ := ready
    obtain ⟨after, grown, row, mem, own, written⟩ :=
      create_sound sound (fun _ => hash ▸ certified) created
    refine ⟨after, grown, ?_⟩
    rintro _ ⟨⟩
    exact ⟨row, mem, own, written⟩
  | approveCopy releaseId account =>
    cases resumed
    have approved := approve_copy_advanced sound ready (opened releaseId rfl)
    refine ⟨approved.sound, approved.grown, ?_⟩
    intro own asked
    obtain ⟨restored, found, same⟩ := map_eq_some_iff.mp asked
    cases same
    have mem := lookup_mem found
    refine ⟨?_, restored, mem, rfl, rfl⟩
    obtain ⟨copy, copyMem, copyId, written⟩ := ready
    obtain ⟨new, newMem, kept, -⟩ := approved.grown.rows copy copyMem
    have one := unique_key_eq approved.sound.ids mem newMem
      ((lookup_key found).trans (copyId.symm.trans kept.id.symm))
    rw [one]
    exact (approved.sound.rows new newMem).copied (kept.written.trans written)

theorem release_routine_keeps (host : ReleaseHost) :
    Keeps (releaseRoutine host) Governed (ReleaseStore.Sound host)
      fun store ticket => ticket.Ready host store := by
  constructor
  · intro system request data ticket sound governed called
    cases called
    refine ⟨sound, ?_, fun _ _ ready => ready⟩
    intro own asked
    cases checked : system.data.check host request with
    | error error =>
      rw [checked] at asked
      cases asked
    | ok made =>
      rw [checked] at asked
      cases asked
      exact check_ready sound governed checked
  · intro system index input ticket data later sound ready governed found resumed
    have advanced := resume_advanced sound ready (governed ticket found) resumed
    exact ⟨advanced.sound, advanced.own, fun _ _ other => ready_grown advanced.grown other⟩

theorem step_grown {system after : System ReleaseStore ReleaseTicket}
    {event : Event ReleaseRequest ReleaseInput}
    (holds : Holds (ReleaseStore.Sound host) (fun store ticket => ticket.Ready host store) system)
    (governed : Governed system event) (move : Move (releaseRoutine host) system event after) :
    Grown system.data after.data := by
  cases move with
  | call request data ticket taken =>
    cases taken
    exact grown_refl system.data
  | resume index input ticket data later found taken =>
    have ready := holds.pending ticket (mem_of_getElem? found)
    exact (resume_advanced holds.data ready (governed ticket found) taken).grown
  | crash index => exact grown_refl system.data

def ReleaseStore.Fresh (store : ReleaseStore) : Prop := store.releases = [] ∧ store.audit = []

def releaseMachine (host : ReleaseHost) :
    Machine (System ReleaseStore ReleaseTicket) (Event ReleaseRequest ReleaseInput) :=
  (releaseRoutine host).machine ReleaseStore.Fresh

theorem fresh_sound (fresh : store.Fresh) : store.Sound host := by
  constructor
  · rw [fresh.1]
    exact nodup_nil
  · simp [fresh.1]

/-- A live release has content that passed a client test and that an admin other than its author
approved, a rollback copies such content only, and a closed release stays closed. -/
theorem release_governance {host : ReleaseHost} {system : System ReleaseStore ReleaseTicket}
    (reachable : (releaseMachine host).Reachable Governed system) :
    (∀ row ∈ system.data.releases, row.state.isLive = true →
        system.data.Certified row.contentHash) ∧
      (∀ target account, ReleaseTicket.copy target account ∈ system.pending →
        system.data.Certified target.contentHash) ∧
      ∀ after, (releaseMachine host).Path Governed system after →
        ∀ row ∈ system.data.releases, row.state.isClosed = true →
          ∃ new ∈ after.data.releases, new.id = row.id ∧ new.state.isClosed = true := by
  have holds : Holds (ReleaseStore.Sound host) (fun store ticket => ticket.Ready host store)
      system :=
    reachable_holds (release_routine_keeps host) (fun _ fresh => fresh_sound fresh) reachable
  refine ⟨?_, ?_, ?_⟩
  · intro row mem live
    exact (holds.data.rows row mem).approved (by simp [ReleaseState.isApproved, live])
  · intro target account pending
    exact (holds.pending _ pending).1
  · intro after path row mem closed
    have grown := (path_keeps (Grown system.data) (release_routine_keeps host)
      (fun state event next held governed move grown =>
        grown_trans grown (step_grown held governed move))
      holds (grown_refl system.data) path).2
    obtain ⟨new, newMem, same, still⟩ := grown.rows row mem
    exact ⟨new, newMem, same.id, still closed⟩

instance (store : ReleaseStore) (target : Release) : Decidable (store.Reviewed target) :=
  inferInstanceAs (Decidable (∃ row ∈ store.releases, _))

instance (system : System ReleaseStore ReleaseTicket) (event : Event ReleaseRequest ReleaseInput) :
    Decidable (Governed system event) := by
  unfold Governed
  split <;> infer_instance

def sampleHost : ReleaseHost where
  dumps _ := ""
  strOf _ := ""
  intOf _ := none
  lower text := text
  casefold text := text
  decimal char := if char.isDigit then some (char.toNat - 48) else none
  floats := ⟨fun _ => [], fun _ => none⟩
  sha256 text := text
  sha256Head text := text.length

def newServer : ReleaseStore where
  releases := []
  catalog := ⟨[⟨"c", "SKILL_CATEGORIES", "", .obj [("slug", .str "other"), ("name", .str "O")], 0, 1,
    true⟩], []⟩
  audit := []

def author : Account := ⟨"ann", true⟩

def reviewer : Account := ⟨"bob", true⟩

def skillBody : SkillReleaseBody where
  data := .obj [("slug", .str "s"), ("name", .str "S"), ("description", .str "d"),
    ("instructions", .str "i")]
  sort := 0
  catalogItemId := ""
  baseReleaseId := ""
  minAppVersion := ""

abbrev ReleaseEvent := Event ReleaseRequest ReleaseInput

def goOn (index : Nat) (newId : String) : ReleaseEvent := .resume index ⟨5, newId⟩

def draftOne : List ReleaseEvent := [.call (.create skillBody author), goOn 0 "r"]

def testOne : List ReleaseEvent := [.call (.test "r" ⟨true, "1", []⟩ author), goOn 0 ""]

def approveOne : List ReleaseEvent := [.call (.approve "r" reviewer), goOn 0 ""]

def publishSteps : List ReleaseEvent :=
  [goOn 0 "item", goOn 0 "", goOn 0 "", goOn 0 "", goOn 0 ""]

def publishOne : List ReleaseEvent := .call (.publish "r" .default reviewer) :: publishSteps

def rollbackTo (releaseId newId : String) : List ReleaseEvent :=
  [.call (.rollback releaseId author), goOn 0 newId, goOn 0 ""] ++ publishSteps

def releaseStates (system : System ReleaseStore ReleaseTicket) : List (String × ReleaseState) :=
  system.data.releases.map fun row => (row.id, row.state)

def governedRun : List ReleaseEvent :=
  draftOne ++ testOne ++ approveOne ++ publishOne ++ rollbackTo "r" "q"

theorem governed_run_kept : ∃ system,
    (releaseRoutine sampleHost).run (fun system event => decide (Governed system event)) newServer
        governedRun = some system ∧
      releaseStates system = [("r", .superseded), ("q", .published)] ∧
      ∀ row ∈ system.data.releases, row.state.isLive = true →
        system.data.Certified row.contentHash := by
  have ran : ((releaseRoutine sampleHost).run
      (fun system event => decide (Governed system event)) newServer governedRun).map
        releaseStates = some [("r", .superseded), ("q", .published)] := by decide +kernel
  obtain ⟨system, done, shown⟩ := map_eq_some_iff.mp ran
  have fresh : newServer.Fresh := ⟨rfl, rfl⟩
  have reachable := reachable_weaken (fun _ _ governed => of_decide_eq_true governed)
    (run_reachable (fun system event => decide (Governed system event)) fresh done)
  exact ⟨system, done, shown, (@release_governance sampleHost system reachable).1⟩

def anyRun (events : List ReleaseEvent) : Option (System ReleaseStore ReleaseTicket) :=
  (releaseRoutine sampleHost).run (fun _ _ => true) newServer events

def releaseActions (system : System ReleaseStore ReleaseTicket) : List ReleaseAction :=
  system.data.audit.map AuditEntry.action

def draftRolledBack : List ReleaseEvent := draftOne ++ rollbackTo "r" "q"

def withdrawnMeanwhile : List ReleaseEvent :=
  draftOne ++ testOne ++ approveOne ++
    [.call (.publish "r" .default reviewer), .call (.withdraw "r" author), goOn 1 ""]

theorem ungoverned_releases : ((anyRun draftRolledBack).map releaseStates =
        some [("r", .draft), ("q", .published)] ∧
      (anyRun draftRolledBack).map releaseActions =
        some [.draftCreated, .draftCreated, .rollbackApproved, .published]) ∧
    (anyRun withdrawnMeanwhile).map releaseStates = some [("r", .withdrawn)] ∧
      (anyRun (withdrawnMeanwhile ++ publishSteps)).map releaseStates =
        some [("r", .published)] := by
  refine ⟨⟨?_, ?_⟩, ?_, ?_⟩
  · decide +kernel
  · decide +kernel
  · decide +kernel
  · decide +kernel

end AgentMate.SkillReleases
