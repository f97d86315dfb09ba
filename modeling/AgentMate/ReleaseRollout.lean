import AgentMate.ReleaseGovernance
import Mathlib.Data.List.Find

/-!
# The rollout of skill releases

Sequences of whole requests on one slug, and what the projection gives an account while a
release is rolling out. `full` is history: the releases that were published to everyone, in the
order in which they came to be.
-/

namespace AgentMate.SkillReleases

open PlainText SkillCatalog Interleaving TransitionSystem Rollback Table Option
open List hiding lookup_eq_none_iff

def Release.isFull (now : Time) (row : Release) : Bool :=
  row.state = .published ||
    (row.state = .rollingOut && row.rolloutPercent = 100 && row.effectiveAt ≤ now)

structure Rollout where
  store : ReleaseStore
  clock : Time
  full : List String

def observe (full : List String) (store : ReleaseStore) (now : Time) : List String :=
  full ++ (store.releases.filter fun row => row.isFull now && row.id ∉ full).map Release.id

structure RolloutEvent where
  request : ReleaseRequest
  now : Time
  ids : List String

variable (host : ReleaseHost) (slug : String)

def RolloutEvent.onSlug (store : ReleaseStore) (event : RolloutEvent) : Bool :=
  match event.request with
  | .create body _ => strippedField host.toCatalogHost "slug"
      (store.catalog.normalizeAppSkill host.toCatalogHost body.data) = slug
  | _ => true

def Rollout.next (state : Rollout) (event : RolloutEvent) : Option Rollout :=
  if state.clock ≤ event.now ∧ event.onSlug host slug state.store = true then
    ((releaseRoutine host).serve state.store event.request
      (event.ids.map fun newId => ⟨event.now, newId⟩)).map fun store =>
        ⟨store, event.now, observe (observe state.full state.store event.now) store event.now⟩
  else none

def Rollout.Fresh (state : Rollout) : Prop := state.store.Fresh ∧ state.full = []

def rolloutMachine : Machine Rollout RolloutEvent where
  Initial := Rollout.Fresh
  Step state event after := state.next host slug event = some after

variable {host slug} {store next : ReleaseStore} {now : Time} {ids : List String}

theorem served_cases {request : ReleaseRequest} {inputs : List ReleaseInput}
    (served : (releaseRoutine host).serve store request inputs = some next) :
    next = store ∨ ∃ ticket, store.check host request = .ok ticket ∧
      (releaseRoutine host).alone (store, some ticket) inputs = some (next, none) := by
  obtain ⟨started, called, rest⟩ := bind_eq_some_iff.mp served
  obtain ⟨⟨ended, later⟩, ran, done⟩ := bind_eq_some_iff.mp rest
  obtain ⟨finished, same⟩ := ite_none_right_eq_some.mp done
  cases same
  cases called
  have last : later = none := isNone_iff_eq_none.mp finished
  subst last
  cases checked : store.check host request with
  | error error =>
    rw [checked] at ran
    exact .inl (congrArg Prod.fst (alone_ended ran))
  | ok ticket =>
    rw [checked] at ran
    exact .inr ⟨ticket, rfl, ran⟩

theorem set_state_releases (store : ReleaseStore) (releaseId : String)
    (assign : Release → Release) (action : ReleaseAction) (account : Account) :
    (store.setState releaseId assign action account).releases =
      updateWhere (fun row => row.id = releaseId) assign store.releases := by
  rw [ReleaseStore.setState]
  split
  · next missing =>
    rw [isNone_iff_eq_none, ReleaseStore.release?, lookup_eq_none_iff] at missing
    refine (update_where_eq_self fun row mem own => ?_).symm
    exact absurd own (missing row mem)
  · rfl

section

variable {inputs : List ReleaseInput}

theorem last_statement {ticket : ReleaseTicket} (timed : ∀ input ∈ inputs, input.now = now)
    (last : ∀ store input after, releaseResume host store ticket input = some after →
      after.2 = none)
    (ran : (releaseRoutine host).alone (store, some ticket) inputs = some (next, none)) :
    ∃ newId, releaseResume host store ticket ⟨now, newId⟩ = some (next, none) := by
  obtain ⟨input, rest, middle, later, rfl, taken, remaining⟩ := alone_taken ran
  have ended : later = none := last store input _ taken
  subst ended
  cases alone_ended remaining
  refine ⟨input.newId, ?_⟩
  rw [← timed input mem_cons_self]
  exact taken

/-- The store after the statements of `_publish_skill_release`, with the item that it found or
made. -/
def ReleaseStore.afterPublish (host : ReleaseHost) (store : ReleaseStore) (seen : Release)
    (body : SkillPublishBody) (account : Account) (now : Time) (itemId : String) : ReleaseStore :=
  (((store.updateItem itemId fun row => { row with
      data := store.publicData host seen, version := row.version + 1, sort := seen.sort
      enabled := true }).attachItem seen.id itemId).supersedeOthers seen.slug seen.id).setState
    seen.id (Release.publishedBy body now) (body.action now) account

inductive ItemFound (host : ReleaseHost) (store : ReleaseStore) (seen : Release) :
    ReleaseStore → String → Prop
  | old (item : CatalogItem) (found : store.itemFor? seen = some item) :
      ItemFound host store seen store item.id
  | new (newId : String) (missing : store.itemFor? seen = none)
      (free : store.catalog.items.all (fun row => row.id ≠ newId) = true) :
      ItemFound host store seen { store with catalog := { store.catalog with
        items := store.catalog.items ++
          [newItem newId (store.publicData host seen) seen.sort] } } newId

theorem published_alone {seen : Release} {body : SkillPublishBody} {account : Account}
    (timed : ∀ input ∈ inputs, input.now = now)
    (ran : (releaseRoutine host).alone (store, some (.publish seen body account .item)) inputs =
      some (next, none)) :
    ∃ base itemId, ItemFound host store seen base itemId ∧
      next = base.afterPublish host seen body account now itemId := by
  obtain ⟨first, inputs, base, later, rfl, taken, ran⟩ := alone_taken ran
  -- the four statements after the item are the same for a found and for a new one
  have rest : ∀ itemId, later = some (.publish seen body account (.update itemId)) →
      next = base.afterPublish host seen body account now itemId := by
    rintro itemId rfl
    obtain ⟨_, inputs, _, _, rfl, updated, ran⟩ := alone_taken ran
    cases updated
    obtain ⟨_, inputs, _, _, rfl, attached, ran⟩ := alone_taken ran
    cases attached
    obtain ⟨_, inputs, _, _, rfl, replaced, ran⟩ := alone_taken ran
    cases replaced
    obtain ⟨last, inputs, _, _, rfl, written, ran⟩ := alone_taken ran
    cases written
    cases alone_ended ran
    rw [timed last (by simp)]
    rfl
  change publishResume host store seen body account .item first = some (base, later) at taken
  rw [publishResume] at taken
  cases item : store.itemFor? seen with
  | some row =>
    rw [item] at taken
    cases taken
    exact ⟨store, row.id, .old row item, rest row.id rfl⟩
  | none =>
    rw [item] at taken
    obtain ⟨free, result⟩ := ite_none_right_eq_some.mp taken
    cases result
    exact ⟨_, first.newId, .new first.newId item free, rest first.newId rfl⟩

def approvedCopy (host : ReleaseHost) (store : ReleaseStore) (draft : ReleaseDraft)
    (newId : String) (account : Account) : Release :=
  Release.copyApproved account (draft.row host newId
    (store.nextVersion (strippedField host.toCatalogHost "slug" draft.data)))

theorem copied_restored {draft : ReleaseDraft} {newId : String} {account : Account}
    {copied : ReleaseStore} (created : store.createRelease host draft newId account = some copied) :
    (copied.setState newId (Release.copyApproved account) .rollbackApproved account).releases =
        store.releases ++ [approvedCopy host store draft newId account] ∧
      (copied.setState newId (Release.copyApproved account) .rollbackApproved account).release?
        newId = some (approvedCopy host store draft newId account) := by
  obtain ⟨⟨_, free⟩, result⟩ := ite_none_right_eq_some.mp created
  cases result
  rw [isNone_iff_eq_none, ReleaseStore.release?] at free
  have untouched : updateWhere (fun row : Release => row.id = newId)
      (Release.copyApproved account) store.releases = store.releases := by
    apply update_where_eq_self
    intro row mem own
    exact absurd own (lookup_eq_none_iff.mp free row mem)
  have rows : updateWhere (fun row : Release => row.id = newId)
      (Release.copyApproved account) (store.releases ++ [draft.row host newId
        (store.nextVersion (strippedField host.toCatalogHost "slug" draft.data))]) =
      store.releases ++ [approvedCopy host store draft newId account] := by
    rw [updateWhere, map_append, ← updateWhere, untouched]
    exact congrArg _ (congrArg (fun row => [row]) (if_pos rfl))
  rw [set_state_releases, ReleaseStore.release?, set_state_releases]
  refine ⟨rows, ?_⟩
  have missing : lookup Release.id (approvedCopy host store draft newId account).id
      store.releases = none := free
  rw [rows]
  exact lookup_append_self missing

def ReleaseStore.withoutItem (store : ReleaseStore) (release : Release) : ReleaseStore :=
  match release.catalogItemId.filter (· ≠ "") with
  | some itemId => store.updateItem itemId fun row => { row with enabled := false }
  | none => store

inductive Served (host : ReleaseHost) (store : ReleaseStore) (now : Time) :
    ReleaseRequest → ReleaseStore → Prop
  | create (body : SkillReleaseBody) (account : Account) (draft : ReleaseDraft) (newId : String)
      (next : ReleaseStore) (accepted : store.checkCreate host body account = .ok draft)
      (created : store.createRelease host draft newId account = some next) :
      Served host store now (.create body account) next
  | test (release : Release) (body : SkillReleaseTestBody) (account : Account) (passed : Bool)
      (mem : release ∈ store.releases)
      (open' : release.state = .draft ∨ release.state = .testing) :
      Served host store now (.test release.id body account)
        (store.setState release.id (Release.tested passed)
          (if passed then .clientTestPassed else .clientTestFailed) account)
  | approve (release : Release) (account : Account) (mem : release ∈ store.releases)
      (testing : release.state = .testing) :
      Served host store now (.approve release.id account)
        (store.setState release.id (Release.approvedBy account) .approved account)
  | publish (release : Release) (body : SkillPublishBody) (account : Account)
      (mem : release ∈ store.releases) (approved : release.state = .approved)
      (base : ReleaseStore) (itemId : String) (item : ItemFound host store release base itemId) :
      Served host store now (.publish release.id body account)
        (base.afterPublish host release body account now itemId)
  | pause (release : Release) (account : Account) (mem : release ∈ store.releases)
      (rolling : release.state = .rollingOut) :
      Served host store now (.pause release.id account)
        (store.setState release.id Release.paused .rolloutPaused account)
  | withdraw (release : Release) (account : Account) (mem : release ∈ store.releases)
      (active : release.state.isClosed = false) :
      Served host store now (.withdraw release.id account)
        ((store.withoutItem release).setState release.id Release.withdrawnNow .withdrawn account)
  | rollback (target : Release) (account : Account) (mem : target ∈ store.releases)
      (newId : String) (copied : ReleaseStore)
      (created : store.createRelease host ⟨target.data, target.sort, account.id,
        target.catalogItemId.getD "", target.id, target.minAppVersion, false⟩ newId account =
          some copied)
      (restored : Release)
      (found : (copied.setState newId (Release.copyApproved account) .rollbackApproved
        account).release? newId = some restored)
      (base : ReleaseStore) (itemId : String)
      (item : ItemFound host (copied.setState newId (Release.copyApproved account)
        .rollbackApproved account) restored base itemId) :
      Served host store now (.rollback target.id account)
        (base.afterPublish host restored .default account now itemId)

theorem served_request {request : ReleaseRequest} (timed : ∀ input ∈ inputs, input.now = now)
    (served : (releaseRoutine host).serve store request inputs = some next) :
    next = store ∨ Served host store now request next := by
  obtain same | ⟨ticket, checked, ran⟩ := served_cases served
  · exact .inl same
  · refine .inr ?_
    cases request with
    | create body account =>
      obtain ⟨draft, accepted, same⟩ := bind_ok checked
      cases same
      obtain ⟨newId, resumed⟩ := last_statement timed (fun store input after resumed => by
        obtain ⟨_, _, rfl⟩ := map_eq_some_iff.mp resumed
        rfl) ran
      obtain ⟨made, created, same⟩ := map_eq_some_iff.mp resumed
      cases same
      exact .create body account draft newId next accepted created
    | test releaseId body account =>
      obtain ⟨release, found, rest⟩ := bind_ok checked
      obtain ⟨_, state, same⟩ := bind_ok rest
      cases same
      obtain ⟨_, mem, rfl⟩ := found_row found
      obtain ⟨newId, resumed⟩ := last_statement timed (fun store input after resumed => by
        cases resumed
        rfl) ran
      cases resumed
      have free := refuse_if_ok state
      simp only [Bool.and_eq_false_iff, decide_eq_false_iff_not, not_not] at free
      exact .test release body account _ mem free
    | approve releaseId account =>
      obtain ⟨_, _, rest⟩ := bind_ok checked
      obtain ⟨release, found, rest⟩ := bind_ok rest
      obtain ⟨_, testing, rest⟩ := bind_ok rest
      obtain ⟨_, _, same⟩ := bind_ok rest
      cases same
      obtain ⟨_, mem, rfl⟩ := found_row found
      obtain ⟨newId, resumed⟩ := last_statement timed (fun store input after resumed => by
        cases resumed
        rfl) ran
      cases resumed
      have state := refuse_if_ok testing
      simp only [Bool.or_eq_false_iff, decide_eq_false_iff_not, not_not] at state
      exact .approve release account mem state.1
    | publish releaseId body account =>
      obtain ⟨_, _, rest⟩ := bind_ok checked
      obtain ⟨release, found, rest⟩ := bind_ok rest
      obtain ⟨_, approved, same⟩ := bind_ok rest
      cases same
      obtain ⟨_, mem, rfl⟩ := found_row found
      obtain ⟨base, itemId, item, rfl⟩ := published_alone timed ran
      have state := refuse_if_ok approved
      simp only [Bool.or_eq_false_iff, decide_eq_false_iff_not, not_not] at state
      exact .publish release body account mem state.1 base itemId item
    | pause releaseId account =>
      obtain ⟨_, _, rest⟩ := bind_ok checked
      obtain ⟨_, rolling, same⟩ := bind_ok rest
      cases same
      obtain ⟨newId, resumed⟩ := last_statement timed (fun store input after resumed => by
        cases resumed
        rfl) ran
      cases resumed
      have any := refuse_if_ok rolling
      rw [Bool.not_eq_false', Option.any_eq_true] at any
      obtain ⟨release, found, state⟩ := any
      have own := lookup_key found
      subst own
      exact .pause release account (lookup_mem found) (of_decide_eq_true state)
    | withdraw releaseId account =>
      obtain ⟨_, _, rest⟩ := bind_ok checked
      obtain ⟨release, found, rest⟩ := bind_ok rest
      obtain ⟨_, active, same⟩ := bind_ok rest
      obtain ⟨_, mem, rfl⟩ := found_row found
      have result : next = (store.withoutItem release).setState release.id Release.withdrawnNow
          .withdrawn account := by
        rw [ReleaseStore.withoutItem]
        cases item : release.catalogItemId.filter (· ≠ "") with
        | none =>
          rw [item] at same
          cases same
          obtain ⟨newId, resumed⟩ := last_statement timed (fun store input after resumed => by
            cases resumed
            rfl) ran
          cases resumed
          rfl
        | some itemId =>
          rw [item] at same
          cases same
          obtain ⟨_, inputs, _, _, rfl, hidden, ran⟩ := alone_taken ran
          cases hidden
          obtain ⟨_, inputs, _, _, rfl, written, ran⟩ := alone_taken ran
          cases written
          cases alone_ended ran
          rfl
      rw [result]
      exact .withdraw release account mem (refuse_if_ok active)
    | rollback releaseId account =>
      obtain ⟨_, _, rest⟩ := bind_ok checked
      obtain ⟨target, found, same⟩ := bind_ok rest
      cases same
      obtain ⟨_, mem, rfl⟩ := found_row found
      obtain ⟨first, inputs, copied, _, rfl, taken, ran⟩ := alone_taken ran
      obtain ⟨_, created, same⟩ := map_eq_some_iff.mp taken
      cases same
      obtain ⟨_, inputs, _, later, rfl, taken, ran⟩ := alone_taken ran
      cases taken
      cases listed : (copied.setState first.newId (Release.copyApproved account)
          .rollbackApproved account).release? first.newId with
      | none =>
        rw [(copied_restored created).2] at listed
        cases listed
      | some restored =>
        rw [listed] at ran
        obtain ⟨base, itemId, item, rfl⟩ := published_alone
          (fun input mem => timed input (by simp [mem])) ran
        exact .rollback target account mem first.newId copied created restored listed base
          itemId item

end

variable {row : Release} {text : String} {account : Account} {draft : ReleaseDraft}
  {state : Rollout}

theorem full_live (full : row.isFull now = true) : row.state.isLive = true := by
  rw [Release.isFull, Bool.or_eq_true] at full
  rcases full with state | state
  · rw [of_decide_eq_true state]
    rfl
  · simp only [Bool.and_eq_true, decide_eq_true_eq] at state
    rw [state.1.1]
    rfl

theorem full_later {later : Time} (order : now ≤ later) (full : row.isFull now = true) :
    row.isFull later = true := by
  simp only [Release.isFull, Bool.or_eq_true, Bool.and_eq_true, decide_eq_true_eq] at full ⊢
  exact full.imp_right fun state => ⟨state.1, state.2.trans order⟩

structure History (releases : List Release) (full : List String) (now : Time) : Prop where
  ids : UniqueKey Release.id releases
  oneLive : ∀ left ∈ releases, ∀ right ∈ releases, left.state.isLive = true →
    right.state.isLive = true → left = right
  rows : ∀ releaseId ∈ full, ∃ row ∈ releases, row.id = releaseId ∧
    (row.state.isClosed = true ∨ row.isFull now = true)
  superseded : ∀ row ∈ releases, row.state = .superseded → row.id ∈ full
  ordered : full.Pairwise fun left right => ∀ first ∈ releases, ∀ second ∈ releases,
    first.id = left → second.id = right → first.state ≠ .withdrawn → second.state ≠ .withdrawn →
      first.version < second.version
  above : ∀ live ∈ releases, ∀ old ∈ releases, live.state.isLive = true →
    old.state = .superseded → old.version < live.version

def Seen (releases : List Release) (full : List String) (now : Time) : Prop :=
  ∀ row ∈ releases, row.isFull now = true → row.id ∈ full

section

variable {releases changed : List Release} {full : List String} {later : Time}

theorem live_not_closed (live : row.state.isLive = true) : row.state.isClosed = false := by
  cases state : row.state <;> simp_all [ReleaseState.isLive, ReleaseState.isClosed]

theorem history_observed (history : History store.releases full now) (order : now ≤ later) :
    History store.releases (observe full store later) later ∧
      Seen store.releases (observe full store later) later := by
  have new : ∀ releaseId ∈ (store.releases.filter fun row =>
      row.isFull later && row.id ∉ full).map Release.id,
      ∃ row ∈ store.releases, row.id = releaseId ∧ row.isFull later = true ∧ row.id ∉ full := by
    intro releaseId listed
    obtain ⟨row, kept, rfl⟩ := List.mem_map.mp listed
    obtain ⟨mem, chosen⟩ := mem_filter.mp kept
    simp only [Bool.and_eq_true, decide_eq_true_eq] at chosen
    exact ⟨row, mem, rfl, chosen⟩
  refine ⟨⟨history.ids, history.oneLive, ?_, ?_, ?_, history.above⟩, ?_⟩
  · intro releaseId listed
    rcases mem_append.mp listed with old | fresh
    · obtain ⟨row, mem, own, state⟩ := history.rows releaseId old
      exact ⟨row, mem, own, state.imp_right (full_later order)⟩
    · obtain ⟨row, mem, own, state, _⟩ := new releaseId fresh
      exact ⟨row, mem, own, .inr state⟩
  · intro row mem state
    exact mem_append_left _ (history.superseded row mem state)
  · refine pairwise_append.mpr ⟨history.ordered, ?_, ?_⟩
    · have distinct := history.ids.sublist ((filter_sublist
        (p := fun row => row.isFull later && row.id ∉ full)).map Release.id)
      refine distinct.pairwise_of_forall_ne fun left leftNew right rightNew different => ?_
      obtain ⟨first, firstMem, rfl, firstFull, _⟩ := new left leftNew
      obtain ⟨second, secondMem, rfl, secondFull, _⟩ := new right rightNew
      exact absurd (congrArg Release.id (history.oneLive first firstMem second secondMem
        (full_live firstFull) (full_live secondFull))) different
    · intro left old right fresh first firstMem second secondMem firstId secondId visible _
      obtain ⟨live, liveMem, liveId, liveFull, unlisted⟩ := new right fresh
      obtain rfl := unique_key_eq history.ids secondMem liveMem (secondId.trans liveId.symm)
      obtain ⟨row, mem, own, state⟩ := history.rows left old
      obtain rfl := unique_key_eq history.ids firstMem mem (firstId.trans own.symm)
      -- an old entry that is not withdrawn was replaced, or it is the live release
      rcases state with closed | still
      · apply history.above second secondMem first firstMem (full_live liveFull)
        cases state : first.state <;> simp_all [ReleaseState.isClosed]
      · obtain rfl := history.oneLive first firstMem second secondMem (full_live still)
          (full_live liveFull)
        exact absurd (own ▸ old) unlisted
  · intro row mem state
    by_cases listed : row.id ∈ full
    · exact mem_append_left _ listed
    · refine mem_append_right _ (List.mem_map_of_mem (mem_filter.mpr ⟨mem, ?_⟩))
      simp [state, listed]

/-- What one request makes of a row, as far as the history is concerned. -/
inductive Turned (now : Time) (old new : Release) : Prop
  | same (state : new.state = old.state) (percent : new.rolloutPercent = old.rolloutPercent)
      (effective : new.effectiveAt = old.effectiveAt)
  | working (before : old.state.isClosed = false) (partly : old.isFull now = false)
      (open' : new.state.isClosed = false)
  | withdrawn (before : old.state.isClosed = false) (state : new.state = .withdrawn)
  | superseded (before : old.isFull now = true) (state : new.state = .superseded)

variable {old new : Release}

theorem turned_closed (turned : Turned now old new) (closed : old.state.isClosed = true) :
    new.state = old.state := by
  cases turned with
  | same state _ _ => exact state
  | working before _ _ => simp [before] at closed
  | withdrawn before _ => simp [before] at closed
  | superseded before _ => simp [live_not_closed (full_live before)] at closed

theorem turned_full (turned : Turned now old new) (before : old.isFull now = true) :
    new.state.isClosed = true ∨ new.isFull now = true := by
  cases turned with
  | same state percent effective =>
    refine .inr ?_
    rw [Release.isFull, state, percent, effective]
    exact before
  | working _ partly _ => simp [partly] at before
  | withdrawn _ state => simp [state, ReleaseState.isClosed]
  | superseded _ state => simp [state, ReleaseState.isClosed]

theorem turned_visible (turned : Turned now old new) (visible : new.state ≠ .withdrawn) :
    old.state ≠ .withdrawn := by
  intro state
  have closed : old.state.isClosed = true := by simp [state, ReleaseState.isClosed]
  exact visible ((turned_closed turned closed).trans state)

theorem history_rewritten (history : History releases full now) (seen : Seen releases full now)
    (turned : Rewritten Release.id
      (fun old new => new.version = old.version ∧ Turned now old new) releases changed)
    (oneLive : ∀ left ∈ changed, ∀ right ∈ changed, left.state.isLive = true →
      right.state.isLive = true → left = right)
    (above : ∀ live ∈ changed, ∀ old ∈ changed, live.state.isLive = true →
      old.state = .superseded → old.version < live.version) : History changed full now := by
  refine ⟨rewritten_unique turned history.ids, oneLive, ?_, ?_, ?_, above⟩
  · intro releaseId listed
    obtain ⟨old, mem, own, state⟩ := history.rows releaseId listed
    obtain ⟨new, newMem, same, _, turn⟩ := rewritten_forward turned history.ids mem
    refine ⟨new, newMem, same.trans own, ?_⟩
    rcases state with closed | still
    · rw [turned_closed turn closed]
      exact .inl closed
    · exact turned_full turn still
  · intro row mem state
    obtain ⟨old, oldMem, same, _, turn⟩ := turned.rows row mem
    rw [same]
    cases turn with
    | same kept _ _ => exact history.superseded old oldMem (kept ▸ state)
    | working _ _ free => simp [state, ReleaseState.isClosed] at free
    | withdrawn _ other => simp [state] at other
    | superseded before _ => exact seen old oldMem before
  · refine history.ordered.imp fun {left right} order first firstMem second secondMem firstId
      secondId visible shown => ?_
    obtain ⟨oldFirst, oldFirstMember, sameFirst, version, turnFirst⟩ := turned.rows first firstMem
    obtain ⟨oldSecond, oldSecondMember, sameSecond, version', turnSecond⟩ :=
      turned.rows second secondMem
    rw [version, version']
    exact order oldFirst oldFirstMember oldSecond oldSecondMember (sameFirst ▸ firstId)
      (sameSecond ▸ secondId) (turned_visible turnFirst visible) (turned_visible turnSecond shown)

end

structure Shows (slug : String) (item : CatalogItem) : Prop where
  category : item.category = "APP_SKILLS"
  named : item.data.get? "slug" = some (.str slug)
  enabled : item.enabled = true

structure ReleaseStore.Tidy (slug : String) (store : ReleaseStore) : Prop where
  versions : UniqueKey Release.version store.releases
  slugs : ∀ row ∈ store.releases, row.slug = slug
  data : ∀ row ∈ store.releases, slug ≠ "" ∧
    ∃ text, row.data.get? "slug" = some (.str text) ∧ strip text = slug
  items : ∀ row ∈ store.releases, ∀ itemId ∈ row.catalogItemId, itemId ≠ "" →
    ∃ item ∈ store.catalog.items, item.id = itemId ∧ item.category = "APP_SKILLS"
  shown : ∀ row ∈ store.releases, row.state.isLive = true →
    ∃ item ∈ store.catalog.items, row.catalogItemId = some item.id ∧ Shows slug item

theorem next_version_above (mem : row ∈ store.releases) :
    row.version < store.nextVersion row.slug := by
  have bound : ∀ (versions : List Nat) (start version : Nat),
      version ∈ versions ∨ version ≤ start → version ≤ versions.foldl max start := by
    intro versions
    induction versions with
    | nil =>
      intro start version place
      simpa using place
    | cons first rest ih =>
      intro start version place
      apply ih
      rcases place with listed | below
      · rcases mem_cons.mp listed with rfl | later
        · exact .inr (le_max_right _ _)
        · exact .inl later
      · exact .inr (below.trans (le_max_left _ _))
  refine Nat.lt_succ_of_le (bound _ 0 row.version (.inl ?_))
  exact List.mem_map_of_mem (mem_filter.mpr ⟨mem, by simp⟩)

theorem public_data_slug {release : Release} (given : release.data.get? "slug" = some (.str text)) :
    (store.publicData host release).get? "slug" = some (.str (strip text)) := by
  rw [ReleaseStore.publicData, get_set_other (by decide),
    normalized_slug _ _ (is_object_of_get given), given]
  rfl

section

variable {assign : Release → Release} {releaseId : String} {action : ReleaseAction}
  {account : Account}

theorem tidy_changed (tidy : store.Tidy slug) (versions : UniqueKey Release.version next.releases)
    (rows : ∀ row ∈ next.releases, ∃ old ∈ store.releases, old.Same row ∧
      ∀ itemId ∈ row.catalogItemId, itemId ∈ old.catalogItemId ∨
        ∃ item ∈ next.catalog.items, item.id = itemId ∧ item.category = "APP_SKILLS")
    (items : ∀ item ∈ store.catalog.items, ∃ new ∈ next.catalog.items,
      new.id = item.id ∧ new.category = item.category)
    (shown : ∀ row ∈ next.releases, row.state.isLive = true →
      ∃ item ∈ next.catalog.items, row.catalogItemId = some item.id ∧ Shows slug item) :
    next.Tidy slug := by
  refine ⟨versions, ?_, ?_, ?_, shown⟩
  · intro row mem
    obtain ⟨old, oldMem, kept, _⟩ := rows row mem
    exact kept.slug.trans (tidy.slugs old oldMem)
  · intro row mem
    obtain ⟨old, oldMem, kept, _⟩ := rows row mem
    rw [kept.data]
    exact tidy.data old oldMem
  · intro row mem itemId set given
    obtain ⟨old, oldMem, _, place⟩ := rows row mem
    rcases place itemId set with before | there
    · obtain ⟨item, listed, own, category⟩ := tidy.items old oldMem itemId before given
      obtain ⟨new, newListed, id, same⟩ := items item listed
      exact ⟨new, newListed, id.trans own, same.trans category⟩
    · exact there

theorem update_items (store : ReleaseStore) (itemId : String) (assign : CatalogItem → CatalogItem)
    (same : ∀ item, (assign item).id = item.id ∧ (assign item).category = item.category) :
    ∀ item ∈ store.catalog.items, ∃ new ∈ (store.updateItem itemId assign).catalog.items,
      new.id = item.id ∧ new.category = item.category := by
  intro item listed
  by_cases own : item.id = itemId
  · exact ⟨_, mem_update_of_chosen listed own, same item⟩
  · exact ⟨item, mem_update_of_not_chosen listed own, rfl, rfl⟩

theorem set_state_catalog (store : ReleaseStore) (releaseId : String) (assign : Release → Release)
    (action : ReleaseAction) (account : Account) :
    (store.setState releaseId assign action account).catalog = store.catalog := by
  rw [ReleaseStore.setState]
  split <;> rfl

variable {row : Release} {full : List String}

theorem set_state_rows (same : ∀ row : Release, row.Same (assign row))
    (item : ∀ row : Release, (assign row).catalogItemId = row.catalogItemId)
    (idle : ∀ row : Release, (assign row).state.isLive = false)
    (mem : row ∈ (store.setState releaseId assign action account).releases) :
    ∃ old ∈ store.releases, old.Same row ∧ row.catalogItemId = old.catalogItemId ∧
      (row.state.isLive = true → row = old ∧ row.id ≠ releaseId) := by
  rw [set_state_releases] at mem
  obtain ⟨old, oldMem, rfl⟩ := mem_update_where.mp mem
  refine ⟨old, oldMem, ?_⟩
  split
  · exact ⟨same old, item old, fun live => absurd live (by simp [idle old])⟩
  · next other => exact ⟨same_refl old, rfl, fun _ => ⟨rfl, other⟩⟩

theorem tidy_update (tidy : store.Tidy slug) (same : ∀ row : Release, row.Same (assign row))
    (item : ∀ row : Release, (assign row).catalogItemId = row.catalogItemId)
    (idle : ∀ row : Release, (assign row).state.isLive = false) :
    (store.setState releaseId assign action account).Tidy slug := by
  apply tidy_changed tidy
  · rw [set_state_releases]
    exact unique_key_update (fun row => (same row).version) tidy.versions
  · intro row mem
    obtain ⟨old, oldMem, kept, place, _⟩ := set_state_rows same item idle mem
    exact ⟨old, oldMem, kept, fun itemId set => .inl (place ▸ set)⟩
  · rw [set_state_catalog]
    exact fun item listed => ⟨item, listed, rfl, rfl⟩
  · intro row mem live
    obtain ⟨old, oldMem, _, _, still⟩ := set_state_rows same item idle mem
    obtain ⟨rfl, _⟩ := still live
    rw [set_state_catalog]
    exact tidy.shown row oldMem live

theorem tidy_withdraw {release : Release} (tidy : store.Tidy slug)
    (apart : ∀ row ∈ store.releases, row.state.isLive = true → row.id ≠ release.id →
      row.catalogItemId ≠ release.catalogItemId.filter (· ≠ "")) :
    ((store.withoutItem release).setState release.id Release.withdrawnNow action account).Tidy
      slug := by
  have same : ∀ row : Release, row.Same (Release.withdrawnNow row) := fun _ =>
    ⟨rfl, rfl, rfl, rfl, rfl, rfl, rfl⟩
  have item : ∀ row : Release, (Release.withdrawnNow row).catalogItemId = row.catalogItemId :=
    fun _ => rfl
  have idle : ∀ row : Release, (Release.withdrawnNow row).state.isLive = false := fun _ => rfl
  rw [ReleaseStore.withoutItem]
  split
  · next itemId hidden =>
    apply tidy_changed tidy
    · rw [set_state_releases]
      exact unique_key_update (fun row => rfl) tidy.versions
    · intro row mem
      obtain ⟨old, oldMem, kept, place, _⟩ := set_state_rows same item idle mem
      exact ⟨old, oldMem, kept, fun itemId set => .inl (place ▸ set)⟩
    · rw [set_state_catalog]
      exact update_items store itemId _ fun _ => ⟨rfl, rfl⟩
    · intro row mem live
      obtain ⟨old, oldMem, _, _, still⟩ := set_state_rows same item idle mem
      obtain ⟨rfl, other⟩ := still live
      obtain ⟨shown, listed, linked, shows⟩ := tidy.shown row oldMem live
      refine ⟨shown, ?_, linked, shows⟩
      rw [set_state_catalog]
      refine mem_update_of_not_chosen listed fun own => ?_
      exact apart row oldMem live other (by rw [linked, hidden, own])
  · exact tidy_update tidy same item idle

theorem history_idle (history : History store.releases full now)
    (seen : Seen store.releases full now) (same : ∀ row : Release, row.Same (assign row))
    (idle : ∀ row : Release, (assign row).state.isLive = false)
    (kept : ∀ row : Release, (assign row).state ≠ .superseded)
    (turned : ∀ row ∈ store.releases, row.id = releaseId → Turned now row (assign row)) :
    History (store.setState releaseId assign action account).releases full now := by
  rw [set_state_releases]
  have before : ∀ row ∈ updateWhere (fun row : Release => row.id = releaseId) assign
      store.releases, row.state.isLive = true ∨ row.state = .superseded → row ∈ store.releases := by
    intro row mem state
    obtain ⟨old, oldMem, rfl⟩ := mem_update_where.mp mem
    split at state
    · rcases state with live | replaced
      · exact absurd live (by simp [idle old])
      · exact absurd replaced (kept old)
    · next other => rwa [if_neg other]
  apply history_rewritten history seen
  · apply rewritten_update
    · exact fun row => (same row).id
    · exact fun row => ⟨rfl, .same rfl rfl rfl⟩
    · exact fun row mem own => ⟨(same row).version, turned row mem own⟩
  · intro left leftMem right rightMem leftLive rightLive
    exact history.oneLive left (before left leftMem (.inl leftLive)) right
      (before right rightMem (.inl rightLive)) leftLive rightLive
  · intro live liveMem old oldMem state replaced
    exact history.above live (before live liveMem (.inl state)) old
      (before old oldMem (.inr replaced)) state replaced

theorem history_append (history : History store.releases full now)
    (fresh : ∀ other ∈ store.releases, other.id ≠ row.id) (idle : row.state.isLive = false)
    (free : row.state.isClosed = false) : History (store.releases ++ [row]) full now := by
  have old : ∀ other ∈ store.releases ++ [row], other.state.isLive = true ∨
      other.state = .superseded → other ∈ store.releases := by
    intro other mem state
    rcases mem_append.mp mem with before | new
    · exact before
    · rw [mem_singleton.mp new] at state
      rcases state with live | replaced
      · simp [idle] at live
      · simp [replaced, ReleaseState.isClosed] at free
  refine ⟨unique_key_append history.ids fresh, ?_, ?_, ?_, ?_, ?_⟩
  · intro left leftMem right rightMem leftLive rightLive
    exact history.oneLive left (old left leftMem (.inl leftLive)) right
      (old right rightMem (.inl rightLive)) leftLive rightLive
  · intro releaseId listed
    obtain ⟨other, mem, own, state⟩ := history.rows releaseId listed
    exact ⟨other, mem_append_left _ mem, own, state⟩
  · intro other mem state
    exact history.superseded other (old other mem (.inr state)) state
  · refine history.ordered.imp_of_mem fun {left right} leftListed rightListed order first
      firstMem second secondMem firstId secondId visible shown => ?_
    -- a listed id belongs to a row that was there before
    have there : ∀ {releaseId : String} {other : Release}, releaseId ∈ full →
        other ∈ store.releases ++ [row] → other.id = releaseId → other ∈ store.releases := by
      intro releaseId other listed mem own
      rcases mem_append.mp mem with before | new
      · exact before
      · obtain ⟨source, sourceMem, sourceId, _⟩ := history.rows releaseId listed
        rw [mem_singleton.mp new] at own
        exact absurd (sourceId.trans own.symm) (fresh source sourceMem)
    exact order first (there leftListed firstMem firstId) second
      (there rightListed secondMem secondId) firstId secondId visible shown
  · intro live liveMem other otherMem state replaced
    exact history.above live (old live liveMem (.inl state)) other
      (old other otherMem (.inr replaced)) state replaced

theorem tidy_append (tidy : store.Tidy slug)
    (rows : next.releases = store.releases ++ [row]) (catalog : next.catalog = store.catalog)
    (named : row.slug = slug) (version : row.version = store.nextVersion slug)
    (data : slug ≠ "" ∧ ∃ text, row.data.get? "slug" = some (.str text) ∧ strip text = slug)
    (item : ∀ itemId ∈ row.catalogItemId, itemId ≠ "" →
      ∃ item ∈ store.catalog.items, item.id = itemId ∧ item.category = "APP_SKILLS")
    (idle : row.state.isLive = false) : next.Tidy slug := by
  have split : ∀ other ∈ next.releases, other ∈ store.releases ∨ other = row := by
    intro other mem
    rw [rows] at mem
    simpa using mem
  constructor
  · rw [rows]
    apply unique_key_append tidy.versions
    intro other mem
    rw [version, ← tidy.slugs other mem]
    exact (next_version_above mem).ne
  · intro other mem
    rcases split other mem with before | rfl
    · exact tidy.slugs other before
    · exact named
  · intro other mem
    rcases split other mem with before | rfl
    · exact tidy.data other before
    · exact data
  · intro other mem itemId set given
    rw [catalog]
    rcases split other mem with before | rfl
    · exact tidy.items other before itemId set given
    · exact item itemId set given
  · intro other mem live
    rw [catalog]
    rcases split other mem with before | rfl
    · exact tidy.shown other before live
    · simp [idle] at live

end

section

variable {base : ReleaseStore} {seen : Release} {body : SkillPublishBody} {account : Account}
  {itemId : String}

def publishedRow (seen : Release) (body : SkillPublishBody) (now : Time) (itemId : String)
    (row : Release) : Release :=
  if row.id = seen.id then Release.publishedBy body now { row with catalogItemId := some itemId }
  else if row.slug = seen.slug ∧ row.state.isLive = true then { row with state := .superseded }
  else row

theorem after_publish_releases : (base.afterPublish host seen body account now itemId).releases =
      base.releases.map (publishedRow seen body now itemId) := by
  rw [ReleaseStore.afterPublish, set_state_releases]
  simp only [ReleaseStore.supersedeOthers, ReleaseStore.attachItem, ReleaseStore.updateItem,
    updateWhere, List.map_map]
  apply map_congr_left
  intro row _
  by_cases own : row.id = seen.id
  · simp [publishedRow, own]
  · by_cases live : row.slug = seen.slug ∧ row.state.isLive = true
    · simp [publishedRow, own, live]
    · have idle : ¬(row.slug = seen.slug ∧ row.id ≠ seen.id ∧ row.state.isLive = true) :=
        fun chosen => live ⟨chosen.1, chosen.2.2⟩
      simp only [publishedRow, own, live, if_false, Function.comp_apply]
      rw [if_neg idle, if_neg own]

theorem after_publish_items : (base.afterPublish host seen body account now itemId).catalog.items =
      updateWhere (fun row => row.id = itemId) (fun row => { row with
        data := base.publicData host seen, version := row.version + 1, sort := seen.sort
        enabled := true }) base.catalog.items := by
  rw [ReleaseStore.afterPublish, set_state_catalog]
  rfl

theorem published_same (row : Release) : row.Same (publishedRow seen body now itemId row) := by
  rw [publishedRow]
  split
  · exact ⟨rfl, rfl, rfl, rfl, rfl, rfl, rfl⟩
  · split <;> exact ⟨rfl, rfl, rfl, rfl, rfl, rfl, rfl⟩

theorem body_state_live : (body.state now).isLive = true := by
  rw [SkillPublishBody.state]
  split <;> rfl

theorem published_live (slugs : row.slug = seen.slug) :
    (publishedRow seen body now itemId row).state.isLive = true ↔ row.id = seen.id := by
  rw [publishedRow]
  split
  · next own => exact iff_of_true body_state_live own
  · next other =>
    split
    · exact iff_of_false (by simp [ReleaseState.isLive]) other
    · next idle => exact iff_of_false (fun live => idle ⟨slugs, live⟩) other

variable {store : ReleaseStore}

theorem found_item (tidy : store.Tidy slug) (mem : seen ∈ store.releases)
    (item : ItemFound host store seen base itemId) :
    base.releases = store.releases ∧ (∀ row ∈ store.catalog.items, row ∈ base.catalog.items) ∧
      ∃ row ∈ base.catalog.items, row.id = itemId ∧ row.category = "APP_SKILLS" := by
  cases item with
  | old row found =>
    refine ⟨rfl, fun _ listed => listed, ?_⟩
    rw [ReleaseStore.itemFor?, orElse_eq_or, or_eq_some_iff] at found
    rcases found with linked | ⟨_, named⟩
    · obtain ⟨linkedId, set, own⟩ := bind_eq_some_iff.mp linked
      have chosen := find?_some own
      simp only [decide_eq_true_eq] at chosen
      rw [chosen.2]
      exact tidy.items seen mem linkedId set chosen.1
    · have listed := mem_of_find?_eq_some named
      rw [Catalog.rows, mem_filter, decide_eq_true_eq] at listed
      exact ⟨row, listed.1, rfl, listed.2⟩
  | new newId missing free =>
    refine ⟨rfl, fun _ listed => mem_append_left _ listed, ?_⟩
    exact ⟨_, mem_append_right _ mem_cons_self, rfl, rfl⟩

theorem tidy_publish (tidy : store.Tidy slug) (mem : seen ∈ store.releases)
    (item : ItemFound host store seen base itemId) :
    (base.afterPublish host seen body account now itemId).Tidy slug := by
  obtain ⟨rows, items, row, listed, own, category⟩ := found_item tidy mem item
  obtain ⟨_, text, given, stripped⟩ := tidy.data seen mem
  let written : CatalogItem := { row with
    data := base.publicData host seen, version := row.version + 1, sort := seen.sort
    enabled := true }
  have there : written ∈ (base.afterPublish host seen body account now itemId).catalog.items := by
    rw [after_publish_items]
    exact mem_update_of_chosen listed own
  have shows : Shows slug written :=
    ⟨category, (public_data_slug given).trans (by rw [stripped]), rfl⟩
  have same : ∀ row : Release, row.Same (publishedRow seen body now itemId row) := published_same
  apply tidy_changed tidy
  · rw [after_publish_releases, rows, UniqueKey, List.map_map]
    exact (congrArg List.Nodup (map_congr_left fun row _ => (same row).version)).mpr tidy.versions
  · intro row changed
    rw [after_publish_releases, rows] at changed
    obtain ⟨old, oldMem, rfl⟩ := List.mem_map.mp changed
    refine ⟨old, oldMem, same old, ?_⟩
    intro linkedId set
    rw [publishedRow] at set
    split at set
    · obtain rfl : itemId = linkedId := Option.some.inj set
      exact .inr ⟨written, there, own, category⟩
    · split at set
      · exact .inl set
      · exact .inl set
  · intro old oldListed
    rw [after_publish_items]
    by_cases chosen : old.id = itemId
    · exact ⟨_, mem_update_of_chosen (items old oldListed) chosen, rfl, rfl⟩
    · exact ⟨old, mem_update_of_not_chosen (items old oldListed) chosen, rfl, rfl⟩
  · intro row changed live
    rw [after_publish_releases, rows] at changed
    obtain ⟨old, oldMem, rfl⟩ := List.mem_map.mp changed
    have slugs := (tidy.slugs old oldMem).trans (tidy.slugs seen mem).symm
    have published := (published_live slugs).mp live
    refine ⟨written, there, ?_, shows⟩
    rw [publishedRow, if_pos published]
    exact congrArg some own.symm

theorem history_publish {full : List String} (tidy : store.Tidy slug)
    (history : History store.releases full now) (seenAll : Seen store.releases full now)
    (mem : seen ∈ store.releases) (approved : seen.state = .approved)
    (rows : base.releases = store.releases)
    (whole : ∀ row ∈ store.releases, row.state.isLive = true → row.isFull now = true)
    (above : ∀ row ∈ store.releases, row.state.isLive = true ∨ row.state = .superseded →
      row.version < seen.version) :
    History (base.afterPublish host seen body account now itemId).releases full now := by
  rw [after_publish_releases, rows]
  have slugs : ∀ row ∈ store.releases, row.slug = seen.slug := fun row listed =>
    (tidy.slugs row listed).trans (tidy.slugs seen mem).symm
  have only : ∀ row ∈ store.releases, row.id = seen.id → row = seen := fun row listed own =>
    unique_key_eq history.ids listed mem own
  apply history_rewritten history seenAll
  · refine ⟨?_, ?_⟩
    · rw [List.map_map]
      exact map_congr_left fun row _ => (published_same row).id
    · intro row changed
      obtain ⟨old, oldMem, rfl⟩ := List.mem_map.mp changed
      refine ⟨old, oldMem, (published_same old).id, (published_same old).version, ?_⟩
      rw [publishedRow]
      split
      · next own =>
        rw [only old oldMem own]
        refine .working (by rw [approved]; rfl) ?_ (live_not_closed body_state_live)
        simp [Release.isFull, approved]
      · split
        · next live => exact .superseded (whole old oldMem live.2) rfl
        · exact .same rfl rfl rfl
  · intro left leftMem right rightMem leftLive rightLive
    obtain ⟨first, firstMem, rfl⟩ := List.mem_map.mp leftMem
    obtain ⟨second, secondMem, rfl⟩ := List.mem_map.mp rightMem
    have one := only first firstMem ((published_live (slugs first firstMem)).mp leftLive)
    have two := only second secondMem ((published_live (slugs second secondMem)).mp rightLive)
    rw [one, two]
  · intro live liveMem old oldMem liveState replaced
    obtain ⟨first, firstMem, rfl⟩ := List.mem_map.mp liveMem
    obtain ⟨second, secondMem, rfl⟩ := List.mem_map.mp oldMem
    have one := only first firstMem ((published_live (slugs first firstMem)).mp liveState)
    rw [(published_same first).version, (published_same second).version, one]
    rw [publishedRow] at replaced
    split at replaced
    · have impossible := @body_state_live now body
      rw [show body.state now = .superseded from replaced] at impossible
      cases impossible
    · split at replaced
      · next chosen => exact above second secondMem (.inl chosen.2)
      · exact above second secondMem (.inr replaced)

end

theorem stripped_field_of_get (host : ReleaseHost) {data : Json} {key : String}
    (given : data.get? key = some (.str text)) :
    strippedField host.toCatalogHost key data = strip text := by
  rw [strippedField, Json.strField, Json.getTruthy, given]
  by_cases empty : text = ""
  · rw [empty]
    rfl
  · have given' : Json.truthy (.str text) = true := decide_eq_true empty
    rw [filter_some, if_pos given']
    rfl

theorem slug_nonempty (valid : isSlug text = true) : text ≠ "" := by
  intro empty
  rw [empty] at valid
  cases valid

theorem is_object_normalized {catalog : Catalog} {data : Json}
    (object : isObject (catalog.normalizeAppSkill host.toCatalogHost data) = true) :
    isObject data = true := by
  rw [Catalog.normalizeAppSkill] at object
  split at object
  · next own => exact own
  · exact object

theorem created_draft {body : SkillReleaseBody}
    (accepted : store.checkCreate host body account = .ok draft)
    (named : strippedField host.toCatalogHost "slug"
      (store.catalog.normalizeAppSkill host.toCatalogHost body.data) = slug) :
    (slug ≠ "" ∧ ∃ text, draft.data.get? "slug" = some (.str text) ∧ strip text = slug) ∧
      (draft.catalogItemId ≠ "" → ∃ item ∈ store.catalog.items, item.id = draft.catalogItemId ∧
        item.category = "APP_SKILLS") := by
  obtain ⟨_, _, rest⟩ := bind_ok accepted
  obtain ⟨_, valid, rest⟩ := bind_ok rest
  obtain ⟨_, item, rest⟩ := bind_ok rest
  obtain ⟨_, _, same⟩ := bind_ok rest
  cases same
  obtain ⟨_, object, valid⟩ := bind_ok valid
  obtain ⟨_, texts, _⟩ := bind_ok valid
  obtain ⟨_, slugged, _⟩ := bind_ok texts
  constructor
  · have isObject' := refuse_if_ok object
    rw [Bool.not_eq_false', is_object_set] at isObject'
    have given := normalized_slug host.toCatalogHost store.catalog (is_object_normalized isObject')
    have stripped := (stripped_field_of_get host given).symm.trans named
    have other : ("slug" : String) ≠ "min_app_version" := by decide
    have kept : ∀ value, (setField "min_app_version" value (store.catalog.normalizeAppSkill
        host.toCatalogHost body.data)).get? "slug" = _ := fun _ => (get_set_other other).trans given
    refine ⟨?_, _, kept _, stripped⟩
    have admitted := refuse_if_ok slugged
    rw [Bool.not_eq_false'] at admitted
    have nonempty := slug_nonempty admitted
    rw [givenText, kept] at nonempty
    rw [← stripped]
    exact nonempty
  · intro linked
    change body.catalogItemId ≠ "" at linked
    rw [ReleaseStore.checkItem, if_neg linked] at item
    split at item
    · cases item
    · next row found =>
      obtain ⟨listed, category⟩ := filter_eq_some_iff.mp found
      have own := find?_some listed
      exact ⟨row, mem_of_find?_eq_some listed, of_decide_eq_true own, of_decide_eq_true category⟩

theorem created_store {newId : String}
    (created : store.createRelease host draft newId account = some next) :
    next.catalog = store.catalog ∧ (∀ row ∈ store.releases, row.id ≠ newId) ∧
      next.releases = store.releases ++ [draft.row host newId
        (store.nextVersion (strippedField host.toCatalogHost "slug" draft.data))] := by
  obtain ⟨⟨_, free⟩, result⟩ := ite_none_right_eq_some.mp created
  cases result
  rw [isNone_iff_eq_none, ReleaseStore.release?, lookup_eq_none_iff] at free
  exact ⟨rfl, free, rfl⟩

theorem draft_row_item (host : ReleaseHost) {itemId : String} (newId : String) (version : Nat)
    (set : itemId ∈ (draft.row host newId version).catalogItemId) :
    itemId = draft.catalogItemId ∧ draft.catalogItemId ≠ "" := by
  change itemId ∈ (if draft.catalogItemId = "" then none else some draft.catalogItemId) at set
  split at set
  · cases set
  · next given => exact ⟨(Option.some.inj set).symm, given⟩

/-- What an admitted request meets: a publication finds only full releases live and nothing above
its target, a pause does not stop a full release, and a withdrawal does not hide the item of
another live one. -/
def ReleaseStore.Admits (store : ReleaseStore) (now : Time) : ReleaseRequest → Prop
  | .publish releaseId _ _ =>
    (∀ row ∈ store.releases, row.state.isLive = true → row.isFull now = true) ∧
      ∀ target ∈ store.releases, target.id = releaseId → ∀ row ∈ store.releases,
        row.state.isLive = true ∨ row.state = .superseded → row.version < target.version
  | .rollback _ _ => ∀ row ∈ store.releases, row.state.isLive = true → row.isFull now = true
  | .pause releaseId _ => ∀ row ∈ store.releases, row.id = releaseId → row.isFull now = false
  | .withdraw releaseId _ => ∀ target ∈ store.releases, target.id = releaseId →
      ∀ row ∈ store.releases, row.state.isLive = true → row.id ≠ releaseId →
        row.catalogItemId ≠ target.catalogItemId.filter (· ≠ "")
  | _ => True

def Orderly (host : ReleaseHost) (state : Rollout) (event : RolloutEvent) : Prop :=
  (state.store.check host event.request).isOk = true → state.store.Admits event.now event.request

def ReleaseStore.Whole (store : ReleaseStore) : Prop :=
  ∀ row ∈ store.releases, row.state = .published → row.rolloutPercent = 100

theorem whole_update {releaseId : String} {assign : Release → Release} {action : ReleaseAction}
    (whole : store.Whole) (idle : ∀ row : Release, (assign row).state ≠ .published) :
    (store.setState releaseId assign action account).Whole := by
  intro row mem state
  rw [set_state_releases] at mem
  obtain ⟨old, oldMem, rfl⟩ := mem_update_where.mp mem
  split at state
  · exact absurd state (idle old)
  · next other =>
    rw [if_neg other]
    exact whole old oldMem state

theorem whole_publish {base : ReleaseStore} {seen : Release} {body : SkillPublishBody}
    {itemId : String} (whole : base.Whole) :
    (base.afterPublish host seen body account now itemId).Whole := by
  intro row mem state
  rw [after_publish_releases] at mem
  obtain ⟨old, oldMem, rfl⟩ := List.mem_map.mp mem
  rw [publishedRow] at state ⊢
  split at state
  · next own =>
    rw [if_pos own]
    change body.state now = .published at state
    rw [SkillPublishBody.state] at state
    split at state
    · next all => exact all.1
    · cases state
  · next other =>
    rw [if_neg other]
    split at state
    · cases state
    · next idle =>
      rw [if_neg idle]
      exact whole old oldMem state

section

variable {full : List String}

structure ReleaseStore.Kept (slug : String) (full : List String) (now : Time)
    (store : ReleaseStore) : Prop where
  tidy : store.Tidy slug
  history : History store.releases full now
  whole : store.Whole

variable {release : Release} {account : Account} {newId : String} {base copied : ReleaseStore}

theorem working_kept {assign : Release → Release} {action : ReleaseAction}
    (kept : store.Kept slug full now) (seen : Seen store.releases full now)
    (same : ∀ row : Release, row.Same (assign row))
    (item : ∀ row : Release, (assign row).catalogItemId = row.catalogItemId)
    (idle : ∀ row : Release, (assign row).state.isLive = false)
    (free : ∀ row : Release, (assign row).state.isClosed = false)
    (mem : release ∈ store.releases) (before : release.state.isClosed = false)
    (partly : release.isFull now = false) :
    (store.setState release.id assign action account).Kept slug full now := by
  constructor
  · exact tidy_update kept.tidy same item idle
  · apply history_idle kept.history seen same idle
    · intro row state
      have closed := free row
      rw [state] at closed
      cases closed
    · intro row rowMem own
      obtain rfl := unique_key_eq kept.history.ids rowMem mem own
      exact .working before partly (free row)
  · apply whole_update kept.whole
    intro row state
    have off := idle row
    rw [state] at off
    cases off

theorem appended_whole (whole : store.Whole)
    (rows : next.releases = store.releases ++ [row]) (idle : row.state.isLive = false) :
    next.Whole := by
  intro other mem state
  rw [rows] at mem
  rcases mem_append.mp mem with old | new
  · exact whole other old state
  · rw [mem_singleton.mp new] at state
    rw [state] at idle
    cases idle

theorem create_kept {body : SkillReleaseBody} (kept : store.Kept slug full now)
    (named : strippedField host.toCatalogHost "slug"
      (store.catalog.normalizeAppSkill host.toCatalogHost body.data) = slug)
    (accepted : store.checkCreate host body account = .ok draft)
    (created : store.createRelease host draft newId account = some next) :
    next.Kept slug full now := by
  obtain ⟨⟨nonempty, text, given, stripped⟩, item⟩ := created_draft accepted named
  obtain ⟨catalog, free, rows⟩ := created_store created
  have slugged := (stripped_field_of_get host given).trans stripped
  constructor
  · apply tidy_append kept.tidy rows catalog slugged
    · exact congrArg store.nextVersion slugged
    · exact ⟨nonempty, text, given, stripped⟩
    · intro itemId set _
      obtain ⟨rfl, linked⟩ := draft_row_item host newId _ set
      exact item linked
    · rfl
  · rw [rows]
    exact history_append kept.history free rfl rfl
  · exact appended_whole kept.whole rows rfl

theorem publish_kept {body : SkillPublishBody} {itemId : String} (kept : store.Kept slug full now)
    (seen : Seen store.releases full now) (mem : release ∈ store.releases)
    (approved : release.state = .approved) (item : ItemFound host store release base itemId)
    (full' : ∀ row ∈ store.releases, row.state.isLive = true → row.isFull now = true)
    (above : ∀ row ∈ store.releases, row.state.isLive = true ∨ row.state = .superseded →
      row.version < release.version) :
    (base.afterPublish host release body account now itemId).Kept slug full now := by
  have rows := (found_item kept.tidy mem item).1
  constructor
  · exact tidy_publish kept.tidy mem item
  · exact history_publish kept.tidy kept.history seen mem approved rows full' above
  · apply whole_publish
    intro row listed
    rw [rows] at listed
    exact kept.whole row listed

theorem withdraw_kept (kept : store.Kept slug full now)
    (seen : Seen store.releases full now) (mem : release ∈ store.releases)
    (active : release.state.isClosed = false)
    (apart : ∀ row ∈ store.releases, row.state.isLive = true → row.id ≠ release.id →
      row.catalogItemId ≠ release.catalogItemId.filter (· ≠ "")) :
    ((store.withoutItem release).setState release.id Release.withdrawnNow .withdrawn
      account).Kept slug full now := by
  have same : ∀ row : Release, row.Same (Release.withdrawnNow row) := fun _ =>
    ⟨rfl, rfl, rfl, rfl, rfl, rfl, rfl⟩
  have rows : (store.withoutItem release).releases = store.releases := by
    rw [ReleaseStore.withoutItem]
    split <;> rfl
  constructor
  · exact tidy_withdraw kept.tidy apart
  · rw [set_state_releases, rows, ← set_state_releases store release.id Release.withdrawnNow
      .withdrawn account]
    apply history_idle kept.history seen same (fun _ => rfl)
    · simp [Release.withdrawnNow]
    · intro row rowMem own
      obtain rfl := unique_key_eq kept.history.ids rowMem mem own
      exact .withdrawn active rfl
  · apply whole_update _ fun _ => by simp [Release.withdrawnNow]
    intro row listed
    rw [rows] at listed
    exact kept.whole row listed

theorem copy_kept {target : Release}
    (kept : store.Kept slug full now) (mem : target ∈ store.releases)
    (created : store.createRelease host ⟨target.data, target.sort, account.id,
      target.catalogItemId.getD "", target.id, target.minAppVersion, false⟩ newId account =
        some copied) :
    (copied.setState newId (Release.copyApproved account) .rollbackApproved account).Kept slug full
      now := by
  obtain ⟨catalog, free, _⟩ := created_store created
  obtain ⟨rows, _⟩ := copied_restored created
  obtain ⟨nonempty, text, given, stripped⟩ := kept.tidy.data target mem
  have slugged := (stripped_field_of_get host given).trans stripped
  constructor
  · apply tidy_append kept.tidy rows
    · rw [set_state_catalog]
      exact catalog
    · exact slugged
    · exact congrArg store.nextVersion slugged
    · exact ⟨nonempty, text, given, stripped⟩
    · intro itemId set _
      obtain ⟨rfl, linked⟩ := draft_row_item host newId
        (store.nextVersion (strippedField host.toCatalogHost "slug" target.data)) set
      cases own : target.catalogItemId with
      | none =>
        rw [own] at linked
        exact absurd rfl linked
      | some value =>
        rw [own] at linked
        exact kept.tidy.items target mem value own linked
    · rfl
  · rw [rows]
    exact history_append kept.history free rfl rfl
  · exact appended_whole kept.whole rows rfl

theorem rollback_kept {target restored : Release} {itemId : String}
    (kept : store.Kept slug full now)
    (seen : Seen store.releases full now) (mem : target ∈ store.releases)
    (created : store.createRelease host ⟨target.data, target.sort, account.id,
      target.catalogItemId.getD "", target.id, target.minAppVersion, false⟩ newId account =
        some copied)
    (found : (copied.setState newId (Release.copyApproved account) .rollbackApproved
      account).release? newId = some restored)
    (item : ItemFound host (copied.setState newId (Release.copyApproved account)
      .rollbackApproved account) restored base itemId)
    (full' : ∀ row ∈ store.releases, row.state.isLive = true → row.isFull now = true) :
    (base.afterPublish host restored .default account now itemId).Kept slug full now := by
  obtain ⟨rows, own⟩ := copied_restored created
  obtain ⟨_, text, given, stripped⟩ := kept.tidy.data target mem
  have slugged := (stripped_field_of_get host given).trans stripped
  have copy := Option.some.inj (found.symm.trans own)
  -- the copy is neither live nor superseded, so such a row was there before
  have old : ∀ row ∈ (copied.setState newId (Release.copyApproved account) .rollbackApproved
      account).releases, row.state.isLive = true ∨ row.state = .superseded →
        row ∈ store.releases := by
    intro row there state
    rw [rows] at there
    rcases mem_append.mp there with before | new
    · exact before
    · rw [mem_singleton.mp new] at state
      rcases state with state | state <;> cases state
  apply publish_kept (copy_kept kept mem created) _ (lookup_mem found) (by rw [copy]; rfl) item
  · intro row there state
    exact full' row (old row there (.inl state)) state
  · intro row there state
    have above := next_version_above (old row there state)
    rw [kept.tidy.slugs row (old row there state), ← slugged] at above
    rw [copy]
    exact above
  · intro row there whole
    exact seen row (old row there (.inl (full_live whole))) whole

theorem served_kept {request : ReleaseRequest} (kept : store.Kept slug full now)
    (seen : Seen store.releases full now) (admits : store.Admits now request)
    (named : ∀ body account, request = .create body account →
      strippedField host.toCatalogHost "slug"
        (store.catalog.normalizeAppSkill host.toCatalogHost body.data) = slug)
    (served : Served host store now request next) : next.Kept slug full now := by
  cases served with
  | create body account draft newId next accepted created =>
    exact create_kept kept (named body account rfl) accepted created
  | test release body account passed mem open' =>
    refine working_kept kept seen (fun _ => ⟨rfl, rfl, rfl, rfl, rfl, rfl, rfl⟩) (fun _ => rfl)
      (fun _ => rfl) (fun _ => rfl) mem ?_ ?_
    · rcases open' with state | state <;> rw [state] <;> rfl
    · rcases open' with state | state <;> simp [Release.isFull, state]
  | approve release account mem testing =>
    refine working_kept kept seen (fun _ => ⟨rfl, rfl, rfl, rfl, rfl, rfl, rfl⟩) (fun _ => rfl)
      (fun _ => rfl) (fun _ => rfl) mem ?_ ?_
    · rw [testing]
      rfl
    · simp [Release.isFull, testing]
  | publish release body account mem approved base itemId item =>
    exact publish_kept kept seen mem approved item admits.1 (admits.2 release mem rfl)
  | pause release account mem rolling =>
    refine working_kept kept seen (fun _ => ⟨rfl, rfl, rfl, rfl, rfl, rfl, rfl⟩) (fun _ => rfl)
      (fun _ => rfl) (fun _ => rfl) mem ?_ (admits release mem rfl)
    rw [rolling]
    rfl
  | withdraw release account mem active =>
    exact withdraw_kept kept seen mem active (admits release mem rfl)
  | rollback target account mem newId copied created restored found base itemId item =>
    exact rollback_kept kept seen mem created found item admits

end

theorem rollout_kept {after : Rollout} {event : RolloutEvent}
    (kept : state.store.Kept slug state.full state.clock)
    (orderly : Orderly host state event) (stepped : state.next host slug event = some after) :
    after.store.Kept slug after.full after.clock := by
  obtain ⟨⟨order, named⟩, served⟩ := ite_none_right_eq_some.mp stepped
  obtain ⟨store, ran, rfl⟩ := map_eq_some_iff.mp served
  obtain ⟨history, seen⟩ := history_observed kept.history order
  have before : state.store.Kept slug (observe state.full state.store event.now) event.now :=
    ⟨kept.tidy, history, kept.whole⟩
  have timed : ∀ input ∈ event.ids.map fun newId => ReleaseInput.mk event.now newId,
      input.now = event.now := by
    intro input listed
    obtain ⟨_, _, rfl⟩ := List.mem_map.mp listed
    rfl
  have done : store.Kept slug (observe state.full state.store event.now) event.now := by
    cases checked : state.store.check host event.request with
    | error error =>
      rcases served_cases ran with rfl | ⟨ticket, accepted, _⟩
      · exact before
      · rw [checked] at accepted
        cases accepted
    | ok ticket =>
      rcases served_request timed ran with rfl | moved
      · exact before
      · refine served_kept before seen ?_ ?_ moved
        · exact orderly (by rw [checked]; rfl)
        · intro body account request
          rw [RolloutEvent.onSlug, request] at named
          exact of_decide_eq_true named
  exact ⟨done.tidy, (history_observed done.history le_rfl).1, done.whole⟩

theorem fresh_kept (fresh : state.Fresh) : state.store.Kept slug state.full state.clock := by
  obtain ⟨⟨none, _⟩, empty⟩ := fresh
  refine ⟨⟨?_, ?_, ?_, ?_, ?_⟩, ⟨?_, ?_, ?_, ?_, ?_, ?_⟩, ?_⟩ <;>
    simp [none, empty, UniqueKey, ReleaseStore.Whole]

theorem reachable_kept (reachable : (rolloutMachine host slug).Reachable (Orderly host) state) :
    state.store.Kept slug state.full state.clock :=
  reachable_invariant (fun state => state.store.Kept slug state.full state.clock)
    (fun _ => fresh_kept) (fun _ _ _ kept orderly stepped => rollout_kept kept orderly stepped)
    reachable

def ReleaseStore.lastFull (store : ReleaseStore) (full : List String) : Option Release :=
  (full.reverse.filterMap store.release?).find? fun row => row.state ≠ .withdrawn

theorem find_first {Row : Type} {Before : Row → Row → Prop} {rows : List Row}
    {chosen : Row → Bool} {row : Row} (ordered : rows.Pairwise Before)
    (found : rows.find? chosen = some row) :
    ∀ other ∈ rows, chosen other = true → other = row ∨ Before row other := by
  induction rows with
  | nil => cases found
  | cons first rest ih =>
    obtain ⟨below, later⟩ := pairwise_cons.mp ordered
    intro other mem choice
    rw [find?_cons] at found
    split at found
    · cases found
      rcases mem_cons.mp mem with same | there
      · exact .inl same
      · exact .inr (below other there)
    · next refused =>
      rcases mem_cons.mp mem with rfl | there
      · rw [choice] at refused
        cases refused
      · exact ih later found other there choice

section

variable {full : List String} {bucket : Nat} {row : Release}

theorem mem_slug_releases (tidy : store.Tidy slug) :
    row ∈ store.slugReleases slug ↔ row ∈ store.releases := by
  rw [ReleaseStore.slugReleases]
  split
  · next empty =>
    refine iff_of_false not_mem_nil fun mem => ?_
    exact (tidy.data row mem).1 empty
  · rw [mem_insertionSort, mem_filter, decide_eq_true_eq]
    exact ⟨fun listed => listed.1, fun mem => ⟨mem, tidy.slugs row mem⟩⟩

theorem slug_releases_ordered :
    (store.slugReleases slug).Pairwise fun left right => right.version ≤ left.version := by
  rw [ReleaseStore.slugReleases]
  split
  · exact List.Pairwise.nil
  · apply pairwise_insertionSort

theorem mem_history_rows (history : History store.releases full now) :
    row ∈ full.reverse.filterMap store.release? ↔ row ∈ store.releases ∧ row.id ∈ full := by
  rw [mem_filterMap]
  constructor
  · rintro ⟨releaseId, listed, found⟩
    refine ⟨lookup_mem found, ?_⟩
    rw [lookup_key found]
    exact mem_reverse.mp listed
  · rintro ⟨mem, listed⟩
    exact ⟨row.id, mem_reverse.mpr listed, lookup_of_mem history.ids mem⟩

theorem history_rows_ordered (history : History store.releases full now) :
    (full.reverse.filterMap store.release?).Pairwise fun left right =>
      left.state ≠ .withdrawn → right.state ≠ .withdrawn → right.version < left.version := by
  apply List.Pairwise.filterMap (R := fun left right => ∀ first ∈ store.releases,
    ∀ second ∈ store.releases, first.id = left → second.id = right → first.state ≠ .withdrawn →
      second.state ≠ .withdrawn → second.version < first.version)
  · intro left right order first firstFound second secondFound visible shown
    exact order first (lookup_mem firstFound) second (lookup_mem secondFound)
      (lookup_key firstFound) (lookup_key secondFound) visible shown
  · rw [pairwise_reverse]
    apply history.ordered.imp
    intro left right order first firstMem second secondMem firstId secondId visible shown
    exact order second secondMem first firstMem secondId firstId shown visible

theorem visible_iff_superseded (history : History store.releases full now)
    (partly : ∀ row ∈ store.releases, row.isFull now = false) (mem : row ∈ store.releases) :
    (row.id ∈ full ∧ row.state ≠ .withdrawn) ↔ row.state = .superseded := by
  constructor
  · rintro ⟨listed, visible⟩
    obtain ⟨same, sameMem, own, state⟩ := history.rows row.id listed
    obtain rfl := unique_key_eq history.ids sameMem mem own
    rcases state with closed | whole
    · cases state : same.state <;> simp_all [ReleaseState.isClosed]
    · rw [partly same mem] at whole
      cases whole
  · intro state
    exact ⟨history.superseded row mem state, by rw [state]; simp⟩

theorem fallback_last (kept : store.Kept slug full now)
    (partly : ∀ row ∈ store.releases, row.isFull now = false) {chosen : Release → Bool}
    (superseded : ∀ row ∈ store.releases, chosen row = true ↔ row.state = .superseded) :
    (store.slugReleases slug).find? chosen = store.lastFull full := by
  have visible : ∀ row ∈ full.reverse.filterMap store.release?,
      row.state ≠ .withdrawn → row.state = .superseded := by
    intro row listed state
    obtain ⟨mem, inFull⟩ := (mem_history_rows kept.history).mp listed
    exact (visible_iff_superseded kept.history partly mem).mp ⟨inFull, state⟩
  have listed : ∀ row ∈ store.releases, row.state = .superseded →
      row ∈ full.reverse.filterMap store.release? := fun row mem state =>
    (mem_history_rows kept.history).mpr ⟨mem, kept.history.superseded row mem state⟩
  cases last : store.lastFull full with
  | none =>
    rw [find?_eq_none]
    intro row mem choice
    rw [mem_slug_releases kept.tidy] at mem
    have state := (superseded row mem).mp choice
    have none := find?_eq_none.mp last row (listed row mem state)
    simp [state] at none
  | some row =>
    have rowListed := mem_of_find?_eq_some last
    have latest : (full.reverse.filterMap store.release?).find?
        (fun row => row.state ≠ .withdrawn) = some row := last
    have rowState := visible row rowListed (by simpa using find?_some latest)
    have rowMem := ((mem_history_rows kept.history).mp rowListed).1
    cases found : (store.slugReleases slug).find? chosen with
    | none =>
      have none := find?_eq_none.mp found row ((mem_slug_releases kept.tidy).mpr rowMem)
      exact absurd ((superseded row rowMem).mpr rowState) none
    | some other =>
      have otherMem := (mem_slug_releases kept.tidy).mp (mem_of_find?_eq_some found)
      have otherState := (superseded other otherMem).mp (find?_some found)
      have first := find_first slug_releases_ordered found row
        ((mem_slug_releases kept.tidy).mpr rowMem) ((superseded row rowMem).mpr rowState)
      have second := find_first (history_rows_ordered kept.history) last other
        (listed other otherMem otherState) (by simp [otherState])
      rcases first with same | below
      · rw [same]
      · rcases second with same | order
        · rw [same]
        · have above := order (by simp [rowState]) (by simp [otherState])
          omega

variable {live : Release} {rows : List Release}

theorem select_outside (kept : store.Kept slug full now) (mem : live ∈ store.releases)
    (rolling : live.state = .rollingOut) (partly : live.isFull now = false)
    (outside : live.effectiveAt ≤ now → live.rolloutPercent ≤ bucket) :
    selectRelease (store.slugReleases slug) bucket now = store.lastFull full := by
  have isLive : live.state.isLive = true := by rw [rolling]; rfl
  have none : ∀ row ∈ store.releases, row.isFull now = false := by
    intro row rowMem
    cases whole : row.isFull now with
    | false => rfl
    | true =>
      have one := kept.history.oneLive row rowMem live mem (full_live whole) isLive
      rw [one, partly] at whole
      cases whole
  rw [selectRelease]
  cases active : (store.slugReleases slug).find? fun row =>
      row.state.isLive && row.effectiveAt ≤ now with
  | none =>
    apply fallback_last kept none
    intro row _
    exact decide_eq_true_iff
  | some row =>
    have choice := find?_some active
    simp only [Bool.and_eq_true, decide_eq_true_eq] at choice
    have one := kept.history.oneLive row
      ((mem_slug_releases kept.tidy).mp (mem_of_find?_eq_some active)) live mem choice.1
      isLive
    subst one
    dsimp only
    rw [if_pos ⟨rolling, outside choice.2⟩]
    apply fallback_last kept none
    intro other otherMem
    simp only [Bool.and_eq_true, decide_eq_true_eq]
    exact ⟨fun chosen => chosen.1, fun state =>
      ⟨state, kept.history.above row mem other otherMem isLive state⟩⟩

theorem select_inside (kept : store.Kept slug full now) (mem : live ∈ store.releases)
    (isLive : live.state.isLive = true) (effective : live.effectiveAt ≤ now)
    (inside : bucket < live.rolloutPercent) :
    selectRelease (store.slugReleases slug) bucket now = some live := by
  rw [selectRelease]
  cases active : (store.slugReleases slug).find? fun row =>
      row.state.isLive && row.effectiveAt ≤ now with
  | none =>
    have missing := find?_eq_none.mp active live ((mem_slug_releases kept.tidy).mpr mem)
    simp [isLive, effective] at missing
  | some row =>
    have choice := find?_some active
    simp only [Bool.and_eq_true, decide_eq_true_eq] at choice
    have one := kept.history.oneLive row
      ((mem_slug_releases kept.tidy).mp (mem_of_find?_eq_some active)) live mem choice.1
      isLive
    subst one
    exact if_neg fun outside => absurd outside.2 (by omega)

theorem selected_reach {selected : Release}
    (chosen : selectRelease rows bucket now = some selected) :
    selected ∈ rows ∧ (selected.state.isLive = true → selected.effectiveAt ≤ now ∧
        (selected.state = .published ∨ bucket < selected.rolloutPercent)) := by
  have idle : ∀ row : Release, row.state = .superseded → row.state.isLive = false := by
    intro row state
    rw [state]
    rfl
  rw [selectRelease] at chosen
  split at chosen
  · next active found =>
    have choice := find?_some found
    simp only [Bool.and_eq_true, decide_eq_true_eq] at choice
    split at chosen
    · have replaced := find?_some chosen
      simp only [Bool.and_eq_true, decide_eq_true_eq] at replaced
      refine ⟨mem_of_find?_eq_some chosen, fun live => ?_⟩
      simp [idle selected replaced.1] at live
    · next within =>
      cases chosen
      refine ⟨mem_of_find?_eq_some found, fun _ => ⟨choice.2, ?_⟩⟩
      cases state : selected.state with
      | published => exact .inl rfl
      | rollingOut =>
        refine .inr (Nat.lt_of_not_le fun far => within ⟨state, far⟩)
      | _ => simp [state, ReleaseState.isLive] at choice
  · have replaced := find?_some chosen
    refine ⟨mem_of_find?_eq_some chosen, fun live => ?_⟩
    simp [idle selected (of_decide_eq_true replaced)] at live

theorem select_stable (history : History store.releases full now)
    (there : ∀ row ∈ rows, row ∈ store.releases) (mem : live ∈ store.releases)
    (isLive : live.state.isLive = true) {before later : Time}
    (same : live.effectiveAt ≤ before ↔ live.effectiveAt ≤ later) :
    selectRelease rows bucket later = selectRelease rows bucket before := by
  have chosen : rows.find? (fun row => row.state.isLive && row.effectiveAt ≤ later) =
      rows.find? fun row => row.state.isLive && row.effectiveAt ≤ before := by
    apply find?_congr
    intro row listed
    cases on : row.state.isLive with
    | false => rfl
    | true =>
      rw [history.oneLive row (there row listed) live mem on isLive, Bool.true_and, Bool.true_and]
      exact decide_eq_decide.mpr same.symm
  rw [selectRelease, selectRelease, chosen]

end

theorem project_shown (tidy : store.Tidy slug) (mem : row ∈ store.releases) {item : CatalogItem}
    (shows : Shows slug item) (accountId : String) (now : Time) :
    store.projectRow host accountId now item =
      (selectRelease (store.slugReleases slug) (skillBucket host accountId slug) now).map
        (store.releaseRow host item) := by
  have named : item.data.strField host.toPyText "slug" = slug := by
    have given : Json.truthy (.str slug) = true := decide_eq_true (tidy.data row mem).1
    rw [Json.strField, Json.getTruthy, shows.named, filter_some, if_pos given]
    rfl
  have object := is_object_of_get shows.named
  have filled : (store.slugReleases slug).isEmpty = false := by
    rw [isEmpty_eq_false_iff]
    exact ne_nil_of_mem ((mem_slug_releases tidy).mpr mem)
  rw [ReleaseStore.projectRow]
  simp only [named, shows.category, object, filled, shows.enabled]
  simp

def ReleaseStore.Receives (host : ReleaseHost) (slug : String) (store : ReleaseStore)
    (accountId : String) (now : Time) (releaseId : String) : Prop :=
  ∃ item ∈ store.catalog.items, Shows slug item ∧
    ∃ projected ∈ store.projectRow host accountId now item, projected.releaseId = some releaseId

theorem bucket_small (accountId : String) : skillBucket host accountId slug < 100 :=
  Nat.mod_lt _ (by omega)

theorem receives_iff {full : List String} (kept : store.Kept slug full now) {live : Release}
    (mem : live ∈ store.releases) (isLive : live.state.isLive = true) (accountId : String) :
    store.Receives host slug accountId now live.id ↔
      live.effectiveAt ≤ now ∧ skillBucket host accountId slug < live.rolloutPercent := by
  obtain ⟨shown, listed, _, shows⟩ := kept.tidy.shown live mem isLive
  by_cases inside : live.effectiveAt ≤ now ∧ skillBucket host accountId slug < live.rolloutPercent
  · refine iff_of_true ⟨shown, listed, shows, store.releaseRow host shown live, ?_, rfl⟩ inside
    rw [project_shown kept.tidy mem shows, select_inside kept mem isLive inside.1 inside.2]
    rfl
  · refine iff_of_false ?_ inside
    rintro ⟨item, _, itemShows, projected, given, own⟩
    rw [project_shown kept.tidy mem itemShows] at given
    obtain ⟨selected, chosen, rfl⟩ := map_eq_some_iff.mp given
    have same : selected.id = live.id := Option.some.inj own
    obtain ⟨selectedListed, reach⟩ := selected_reach chosen
    obtain rfl := unique_key_eq kept.history.ids
      ((mem_slug_releases kept.tidy).mp selectedListed) mem same
    obtain ⟨effective, open'⟩ := reach isLive
    refine inside ⟨effective, ?_⟩
    rcases open' with published | within
    · rw [kept.whole selected mem published]
      exact bucket_small accountId
    · exact within

/-- While a release is rolling out, an account outside it is given the last full release that is
not withdrawn; the choice does not change on its own, and a greater percent takes the release
from nobody. -/
theorem rollout_projection {host : ReleaseHost} {slug : String} {state : Rollout}
    (reachable : (rolloutMachine host slug).Reachable (Orderly host) state) {live : Release}
    (mem : live ∈ state.store.releases) (isLive : live.state.isLive = true) :
    (∃ item ∈ state.store.catalog.items, Shows slug item) ∧
      ∀ (accountId : String) (now : Time), state.clock ≤ now →
        (∀ item ∈ state.store.catalog.items, Shows slug item →
          (live.state = .rollingOut → live.isFull now = false →
            (live.effectiveAt ≤ now → live.rolloutPercent ≤ skillBucket host accountId slug) →
              state.store.projectRow host accountId now item =
                (state.store.lastFull (observe state.full state.store now)).map
                  (state.store.releaseRow host item)) ∧
          ∀ later, (live.effectiveAt ≤ now ↔ live.effectiveAt ≤ later) →
            state.store.projectRow host accountId later item =
              state.store.projectRow host accountId now item) ∧
        ∀ (raised : Rollout) (again : Release) (later : Time),
          (rolloutMachine host slug).Reachable (Orderly host) raised →
          again ∈ raised.store.releases → again.state.isLive = true → raised.clock ≤ later →
          again.effectiveAt ≤ later → live.rolloutPercent ≤ again.rolloutPercent →
          state.store.Receives host slug accountId now live.id →
            raised.store.Receives host slug accountId later again.id := by
  have kept := reachable_kept reachable
  obtain ⟨shown, listed, _, shows⟩ := kept.tidy.shown live mem isLive
  refine ⟨⟨shown, listed, shows⟩, ?_⟩
  intro accountId now order
  have keptNow : state.store.Kept slug (observe state.full state.store now) now :=
    ⟨kept.tidy, (history_observed kept.history order).1, kept.whole⟩
  constructor
  · intro item _ itemShows
    constructor
    · intro rolling partly outside
      rw [project_shown kept.tidy mem itemShows, select_outside keptNow mem rolling partly outside]
    · intro later same
      rw [project_shown kept.tidy mem itemShows, project_shown kept.tidy mem itemShows,
        select_stable kept.history (fun row listed => (mem_slug_releases kept.tidy).mp listed)
          mem isLive same]
  · intro raised again later raisedReachable againMember againLive againOrder effective more given
    have raisedKept := reachable_kept raisedReachable
    have raisedNow : raised.store.Kept slug (observe raised.full raised.store later) later :=
      ⟨raisedKept.tidy, (history_observed raisedKept.history againOrder).1, raisedKept.whole⟩
    have inside := ((receives_iff keptNow mem isLive accountId).mp given).2
    exact (receives_iff raisedNow againMember againLive accountId).mpr
      ⟨effective, inside.trans_le more⟩

instance (store : ReleaseStore) (now : Time) (request : ReleaseRequest) :
    Decidable (store.Admits now request) := by
  unfold ReleaseStore.Admits
  split <;> infer_instance

instance (host : ReleaseHost) (state : Rollout) (event : RolloutEvent) :
    Decidable (Orderly host state event) := by
  unfold Orderly
  infer_instance

def rolloutRun (guard : Rollout → RolloutEvent → Bool) (events : List RolloutEvent) :
    Option Rollout :=
  events.foldlM (fun state event =>
    if guard state event then state.next sampleHost "s" event else none) ⟨newServer, 0, []⟩

def approvedRelease (releaseId itemId : String) : List RolloutEvent :=
  [⟨.create { skillBody with catalogItemId := itemId } author, 5, [releaseId]⟩,
    ⟨.test releaseId ⟨true, "1", []⟩ author, 5, [""]⟩, ⟨.approve releaseId reviewer, 5, [""]⟩]

theorem three_percent_bounds : 1 ≤ 3 ∧ 3 ≤ 100 := ⟨by omega, by omega⟩

theorem no_delay : (0 : Time) ≤ 0 := by decide

def threePercent : SkillPublishBody := ⟨3, "stable", 0, three_percent_bounds, no_delay⟩

def publishNow (releaseId : String) (body : SkillPublishBody) : RolloutEvent :=
  ⟨.publish releaseId body reviewer, 5, ["item", "", "", "", ""]⟩

def orderlyRollout : List RolloutEvent :=
  approvedRelease "r" "" ++ publishNow "r" .default :: approvedRelease "q" "item" ++
    [publishNow "q" threePercent]

def rolloutRows (state : Rollout) : List (String × ReleaseState × Nat) :=
  state.store.releases.map fun row => (row.id, row.state, row.rolloutPercent)

def givenReleases (accountId : String) (state : Rollout) : List (Option String) :=
  (state.store.projectSkillReleases sampleHost accountId 9
    (state.store.catalog.items.filter fun row => row.category = "APP_SKILLS")).map
      ProjectedItem.releaseId

theorem orderly_rollout_projected : ∃ state live item,
    rolloutRun (fun state event => decide (Orderly sampleHost state event)) orderlyRollout =
        some state ∧
      rolloutRows state = [("r", .superseded, 100), ("q", .rollingOut, 3)] ∧
      live ∈ state.store.releases ∧ item ∈ state.store.catalog.items ∧
      (state.store.lastFull (observe state.full state.store 9)).map Release.id = some "r" ∧
      state.store.projectRow sampleHost "ann" 9 item =
        (state.store.lastFull (observe state.full state.store 9)).map
          (state.store.releaseRow sampleHost item) := by
  have ran : (rolloutRun (fun state event => decide (Orderly sampleHost state event))
      orderlyRollout).map (fun state => (rolloutRows state, state.clock,
        (state.store.lastFull (observe state.full state.store 9)).map Release.id)) =
      some ([("r", .superseded, 100), ("q", .rollingOut, 3)], 5, some "r") := by decide +kernel
  obtain ⟨state, done, shown⟩ := map_eq_some_iff.mp ran
  simp only [Prod.mk.injEq] at shown
  obtain ⟨rows, clock, last⟩ := shown
  have fresh : (⟨newServer, 0, []⟩ : Rollout).Fresh := ⟨⟨rfl, rfl⟩, rfl⟩
  have path : (rolloutMachine sampleHost "s").Path (fun state event =>
      decide (Orderly sampleHost state event) = true) ⟨newServer, 0, []⟩ state :=
    path_of_run _ _ (fun _ _ _ step => step) done
  have reachable : (rolloutMachine sampleHost "s").Reachable (Orderly sampleHost) state :=
    ⟨_, fresh, path_weaken (fun _ _ orderly => of_decide_eq_true orderly) path⟩
  have listed : ("q", ReleaseState.rollingOut, 3) ∈ rolloutRows state := by simp [rows]
  obtain ⟨live, mem, own⟩ := List.mem_map.mp listed
  simp only [Prod.mk.injEq] at own
  obtain ⟨_, rolling, percent⟩ := own
  have isLive : live.state.isLive = true := by rw [rolling]; rfl
  have partly : live.isFull 9 = false := by simp [Release.isFull, rolling, percent]
  have bucket : skillBucket sampleHost "ann" "s" = 5 := by decide +kernel
  have projection := rollout_projection reachable mem isLive
  obtain ⟨⟨item, itemListed, shows⟩, choices⟩ := projection
  have order : state.clock ≤ 9 := by rw [clock]; decide
  refine ⟨state, live, item, done, rows, mem, itemListed, last, ?_⟩
  exact ((choices "ann" 9 order).1 item itemListed shows).1 rolling partly
    (fun _ => by rw [percent, bucket]; omega)

def canaryReplaced : List RolloutEvent :=
  approvedRelease "r" "" ++ approvedRelease "q" "" ++
    [publishNow "r" threePercent, publishNow "q" threePercent]

def olderPublished : List RolloutEvent :=
  approvedRelease "r" "" ++ approvedRelease "q" "" ++
    [publishNow "q" .default, publishNow "r" threePercent]

def laterForAll : SkillPublishBody := ⟨100, "stable", 6, default_percent, by decide⟩

def fullPaused : List RolloutEvent :=
  approvedRelease "r" "" ++ approvedRelease "q" "" ++
    [publishNow "r" laterForAll, ⟨.pause "r" reviewer, 7, [""]⟩,
      ⟨.publish "q" threePercent reviewer, 8, ["", "", "", "", ""]⟩]

def draftWithdrawn : List RolloutEvent :=
  orderlyRollout ++ [⟨.create { skillBody with catalogItemId := "item" } author, 5, ["d"]⟩,
    ⟨.withdraw "d" author, 5, ["", ""]⟩]

def fullAndGiven (events : List RolloutEvent) : Option (List String × List (Option String)) :=
  (rolloutRun (fun _ _ => true) events).map fun state => (state.full, givenReleases "ann" state)

theorem wrong_fallbacks : fullAndGiven canaryReplaced = some ([], [some "r"]) ∧
      fullAndGiven olderPublished = some (["q"], []) ∧
      fullAndGiven fullPaused = some (["r"], []) ∧
      fullAndGiven draftWithdrawn = some (["r"], [none]) := by
  refine ⟨?_, ?_, ?_, ?_⟩
  · decide +kernel
  · decide +kernel
  · decide +kernel
  · decide +kernel

end AgentMate.SkillReleases
