import AgentMate.Interleaving
import AgentMate.SkillValidation

/-!
# Releases of catalog skills

The rows of `skill_releases` and the endpoints that move them from draft to published. An
endpoint reads a release and checks its state, and it writes in later statements, each of
which commits on its own.

`written` and the account of an audit entry are history: whether the release was written by
`create_release`, and who acted as what (the table keeps only the id).
-/

namespace AgentMate.SkillReleases

open PlainText SkillCatalog Interleaving TransitionSystem

/-- `_SKILL_RELEASE_STATES` -/
inductive ReleaseState where
  | draft | testing | approved | rollingOut | published | withdrawn | superseded
  deriving DecidableEq, Repr

def ReleaseState.isLive : ReleaseState → Bool
  | .rollingOut | .published => true
  | _ => false

def ReleaseState.isClosed : ReleaseState → Bool
  | .withdrawn | .superseded => true
  | _ => false

structure Release where
  id : String
  /-- NULL until the release has an item -/
  catalogItemId : Option String
  slug : String
  version : Nat
  state : ReleaseState
  data : Json
  sort : Int
  contentHash : String
  baseReleaseId : String
  minAppVersion : String
  rolloutChannel : String
  rolloutPercent : Nat
  effectiveAt : Time
  authorId : String
  reviewerId : String
  testStatus : String
  publishedAt : Option Time
  written : Bool

structure Account where
  id : String
  isPlatformAdmin : Bool
  deriving DecidableEq, Repr

inductive ReleaseAction where
  | draftCreated | clientTestPassed | clientTestFailed | approved | published | rolloutStarted
  | rolloutPaused | withdrawn | rollbackApproved
  deriving DecidableEq, Repr

/-- A row of `skill_release_audit`. -/
structure AuditEntry where
  releaseId : String
  action : ReleaseAction
  actor : Account
  deriving DecidableEq, Repr

structure ReleaseStore where
  releases : List Release
  catalog : Catalog
  audit : List AuditEntry

structure ReleaseHost extends CatalogHost where
  floats : FloatText
  sha256 : String → String
  /-- the first four bytes of the digest as a number -/
  sha256Head : String → Nat

def ReleaseStore.release? (store : ReleaseStore) (releaseId : String) : Option Release :=
  Table.lookup Release.id releaseId store.releases

/-- `set_skill_release_state` with the columns it is given. -/
def ReleaseStore.setState (store : ReleaseStore) (releaseId : String) (assign : Release → Release)
    (action : ReleaseAction) (account : Account) : ReleaseStore :=
  if (store.release? releaseId).isNone then store
  else { store with
    releases := Table.updateWhere (fun row => row.id = releaseId) assign store.releases
    audit := store.audit ++ [⟨releaseId, action, account⟩] }

/-- `supersede_other_skill_releases`. -/
def ReleaseStore.supersedeOthers (store : ReleaseStore) (slug releaseId : String) : ReleaseStore :=
  { store with
    releases := Table.updateWhere
      (fun row => row.slug = slug ∧ row.id ≠ releaseId ∧ row.state.isLive = true)
      (fun row => { row with state := .superseded }) store.releases }

/-- `attach_skill_release_catalog_item`. -/
def ReleaseStore.attachItem (store : ReleaseStore) (releaseId itemId : String) : ReleaseStore :=
  { store with
    releases := Table.updateWhere (fun row => row.id = releaseId)
      (fun row => { row with catalogItemId := some itemId }) store.releases }

def ReleaseStore.updateItem (store : ReleaseStore) (itemId : String)
    (assign : CatalogItem → CatalogItem) : ReleaseStore :=
  { store with
    catalog := { store.catalog with
      items := Table.updateWhere (fun row => row.id = itemId) assign store.catalog.items } }

/-- `MAX(version)+1` of the slug. -/
def ReleaseStore.nextVersion (store : ReleaseStore) (slug : String) : Nat :=
  ((store.releases.filter fun row => row.slug = slug).map Release.version).foldl max 0 + 1

structure ReleaseDraft where
  data : Json
  sort : Int
  authorId : String
  catalogItemId : String
  baseReleaseId : String
  minAppVersion : String
  written : Bool

def ReleaseDraft.row (host : ReleaseHost) (draft : ReleaseDraft) (releaseId : String)
    (version : Nat) : Release where
  id := releaseId
  catalogItemId := if draft.catalogItemId = "" then none else some draft.catalogItemId
  slug := strippedField host.toCatalogHost "slug" draft.data
  version := version
  state := .draft
  data := draft.data
  sort := draft.sort
  contentHash := host.sha256 (jsonDumps host.floats draft.data)
  baseReleaseId := draft.baseReleaseId
  minAppVersion := if draft.minAppVersion = "" then "0.0.0" else draft.minAppVersion
  rolloutChannel := "stable"
  rolloutPercent := 100
  effectiveAt := 0
  authorId := draft.authorId
  reviewerId := ""
  testStatus := "pending"
  publishedAt := none
  written := draft.written

/-- `create_skill_release`, whose `new_uuid` gives an id that no release has. -/
def ReleaseStore.createRelease (host : ReleaseHost) (store : ReleaseStore) (draft : ReleaseDraft)
    (releaseId : String) (account : Account) : Option ReleaseStore :=
  if releaseId ≠ "" ∧ (store.release? releaseId).isNone then
    some { store with
      releases := store.releases ++ [draft.row host releaseId
        (store.nextVersion (strippedField host.toCatalogHost "slug" draft.data))]
      audit := store.audit ++ [⟨releaseId, .draftCreated, account⟩] }
  else none

def Release.tested (passed : Bool) (row : Release) : Release :=
  { row with state := .testing, testStatus := if passed then "passed" else "failed" }

def Release.approvedBy (account : Account) (row : Release) : Release :=
  { row with state := .approved, reviewerId := account.id }

def Release.paused (row : Release) : Release := { row with state := .approved }

def Release.withdrawnNow (row : Release) : Release := { row with state := .withdrawn }

def Release.copyApproved (account : Account) (row : Release) : Release :=
  { row with state := .approved, reviewerId := account.id, testStatus := "passed" }

structure SkillReleaseBody where
  data : Json
  sort : Int
  catalogItemId : String
  baseReleaseId : String
  minAppVersion : String

structure SkillReleaseTestBody where
  passed : Bool
  appVersion : String
  supportedTools : List (String × String)

structure SkillPublishBody where
  rolloutPercent : Nat
  rolloutChannel : String
  effectiveAt : Time
  percent : 1 ≤ rolloutPercent ∧ rolloutPercent ≤ 100
  effective : 0 ≤ effectiveAt

theorem default_percent : 1 ≤ 100 ∧ 100 ≤ 100 := ⟨by omega, le_rfl⟩

/-- `SkillPublishBody()`. -/
def SkillPublishBody.default : SkillPublishBody := ⟨100, "stable", 0, default_percent, le_rfl⟩

/-- `body.effective_at or time.time()`. -/
def SkillPublishBody.effectiveFrom (body : SkillPublishBody) (now : Time) : Time :=
  if body.effectiveAt = 0 then now else body.effectiveAt

def SkillPublishBody.state (body : SkillPublishBody) (now : Time) : ReleaseState :=
  if body.rolloutPercent = 100 ∧ body.effectiveFrom now ≤ now then .published else .rollingOut

def Release.publishedBy (body : SkillPublishBody) (now : Time) (row : Release) : Release :=
  { row with
    state := body.state now
    rolloutChannel := body.rolloutChannel
    rolloutPercent := body.rolloutPercent
    effectiveAt := body.effectiveFrom now
    publishedAt := some (row.publishedAt.getD now) }

def SkillPublishBody.action (body : SkillPublishBody) (now : Time) : ReleaseAction :=
  if body.state now = .published then .published else .rolloutStarted

/-- The data that `_publish_skill_release` gives to the catalog. -/
def ReleaseStore.publicData (host : ReleaseHost) (store : ReleaseStore) (release : Release) : Json :=
  setField "min_app_version"
    (.str (if release.minAppVersion = "" then "0.0.0" else release.minAppVersion))
    (store.catalog.normalizeAppSkill host.toCatalogHost release.data)

def ReleaseStore.itemFor? (store : ReleaseStore) (release : Release) : Option CatalogItem :=
  (release.catalogItemId.bind fun itemId =>
    store.catalog.items.find? fun row => itemId ≠ "" ∧ row.id = itemId).orElse fun _ =>
      (store.catalog.rows "APP_SKILLS").find? fun row =>
        (row.data.get? "slug").any (isText release.slug)

def newItem (itemId : String) (data : Json) (sort : Int) : CatalogItem where
  id := itemId
  category := "APP_SKILLS"
  kind := ""
  data := data
  sort := sort
  version := 1
  enabled := true

inductive ReleaseRequest where
  | create (body : SkillReleaseBody) (account : Account)
  | test (releaseId : String) (body : SkillReleaseTestBody) (account : Account)
  | approve (releaseId : String) (account : Account)
  | publish (releaseId : String) (body : SkillPublishBody) (account : Account)
  | pause (releaseId : String) (account : Account)
  | withdraw (releaseId : String) (account : Account)
  | rollback (releaseId : String) (account : Account)

/-- The statement that `_publish_skill_release` comes to next. -/
inductive PublishStage where
  | item
  | update (itemId : String)
  | attach (itemId : String)
  | supersede
  | state

inductive ReleaseTicket where
  | create (draft : ReleaseDraft) (account : Account)
  | test (releaseId : String) (passed : Bool) (account : Account)
  | approve (releaseId : String) (account : Account)
  | publish (seen : Release) (body : SkillPublishBody) (account : Account) (stage : PublishStage)
  | pause (releaseId : String) (account : Account)
  | withdrawItem (releaseId itemId : String) (account : Account)
  | withdraw (releaseId : String) (account : Account)
  | copy (target : Release) (account : Account)
  | approveCopy (releaseId : String) (account : Account)

structure ReleaseInput where
  now : Time
  newId : String

section

variable (host : ReleaseHost) (store : ReleaseStore)

def requireAdmin (account : Account) : Except CatalogError Unit :=
  if account.isPlatformAdmin then .ok () else .error ⟨403, "platform admin only"⟩

def ReleaseStore.found (releaseId : String) : Except CatalogError Release :=
  match store.release? releaseId with
  | some release => .ok release
  | none => .error ⟨404, "skill release not found"⟩

/-- The item that `create_release` is given: a skill, with the slug of the definition. -/
def ReleaseStore.checkItem (itemId : String) (data : Json) : Except CatalogError Unit :=
  if itemId = "" then .ok ()
  else
    match (store.catalog.items.find? fun row => row.id = itemId).filter
        fun row => row.category = "APP_SKILLS" with
    | none => .error ⟨404, "skill catalog item not found"⟩
    | some item =>
      if item.data.strField host.toPyText "slug" ≠ "" ∧
          item.data.strField host.toPyText "slug" ≠ data.strField host.toPyText "slug" then
        .error ⟨409, "skill slug is immutable after creation"⟩
      else .ok ()

/-- `prior[0]["id"]` of `list_skill_releases(catalog_item_id=...)`. -/
def ReleaseStore.baseOf (body : SkillReleaseBody) : String :=
  if body.baseReleaseId ≠ "" then body.baseReleaseId
  else if body.catalogItemId = "" then ""
  else
    (((store.releases.filter fun row => row.catalogItemId = some body.catalogItemId).insertionSort
      fun left right => left.slug < right.slug ∨
        (left.slug = right.slug ∧ right.version ≤ left.version)).head?.map Release.id).getD ""

def ReleaseStore.checkCreate (body : SkillReleaseBody) (account : Account) :
    Except CatalogError ReleaseDraft := do
  requireAdmin account
  let normalized := store.catalog.normalizeAppSkill host.toCatalogHost body.data
  let data := setField "min_app_version" (.str (if body.minAppVersion ≠ "" then body.minAppVersion
    else textOr host.toCatalogHost "0.0.0" "min_app_version" normalized)) normalized
  validateAppSkill host.toCatalogHost store.catalog data body.catalogItemId
  store.checkItem host body.catalogItemId data
  refuseIf (store.baseOf body ≠ "" && (store.release? (store.baseOf body)).isNone) 404
    "base skill release not found"
  return ⟨data, body.sort, account.id, body.catalogItemId, store.baseOf body,
    body.minAppVersion, true⟩

def ReleaseStore.checkTest (releaseId : String) (body : SkillReleaseTestBody) (account : Account) :
    Except CatalogError ReleaseTicket := do
  let release ← store.found releaseId
  refuseIf (release.state ≠ .draft && release.state ≠ .testing) 409
    "only draft or testing release accepts test results"
  let report : CapabilityReport := ⟨body.appVersion, "", "0", body.supportedTools⟩
  let compatibility := store.catalog.skillCompatibility host.toCatalogHost release.data report
  return .test releaseId (body.passed && compatibility.compatible) account

def ReleaseStore.checkApprove (releaseId : String) (account : Account) :
    Except CatalogError ReleaseTicket := do
  requireAdmin account
  let release ← store.found releaseId
  refuseIf (release.state ≠ .testing || release.testStatus ≠ "passed") 409
    "a passing client test is required before approval"
  refuseIf (release.authorId = account.id) 409 "release author cannot approve their own release"
  return .approve releaseId account

def ReleaseStore.checkPublish (releaseId : String) (body : SkillPublishBody) (account : Account) :
    Except CatalogError ReleaseTicket := do
  requireAdmin account
  let release ← store.found releaseId
  refuseIf (release.state ≠ .approved || release.reviewerId = "") 409 "approved release required"
  return .publish release body account .item

def ReleaseStore.checkPause (releaseId : String) (account : Account) :
    Except CatalogError ReleaseTicket := do
  requireAdmin account
  refuseIf (!((store.release? releaseId).any fun release => release.state = .rollingOut)) 409
    "only a rolling release can be paused"
  return .pause releaseId account

def ReleaseStore.checkWithdraw (releaseId : String) (account : Account) :
    Except CatalogError ReleaseTicket := do
  requireAdmin account
  let release ← store.found releaseId
  refuseIf release.state.isClosed 409 "skill release is not active"
  return match release.catalogItemId.filter (· ≠ "") with
    | some itemId => .withdrawItem releaseId itemId account
    | none => .withdraw releaseId account

def ReleaseStore.checkRollback (releaseId : String) (account : Account) :
    Except CatalogError ReleaseTicket := do
  requireAdmin account
  let target ← store.found releaseId
  return .copy target account

def ReleaseStore.check : ReleaseRequest → Except CatalogError ReleaseTicket
  | .create body account => do
      let draft ← store.checkCreate host body account
      return .create draft account
  | .test releaseId body account => store.checkTest host releaseId body account
  | .approve releaseId account => store.checkApprove releaseId account
  | .publish releaseId body account => store.checkPublish releaseId body account
  | .pause releaseId account => store.checkPause releaseId account
  | .withdraw releaseId account => store.checkWithdraw releaseId account
  | .rollback releaseId account => store.checkRollback releaseId account

def releaseCall (request : ReleaseRequest) : Option (ReleaseStore × Option ReleaseTicket) :=
  some (store, (store.check host request).toOption)

/-- One statement of `_publish_skill_release`. -/
def publishResume (seen : Release) (body : SkillPublishBody) (account : Account)
    (stage : PublishStage) (input : ReleaseInput) : Option (ReleaseStore × Option ReleaseTicket) :=
  match stage with
  | .item =>
    match store.itemFor? seen with
    | some item => some (store, some (.publish seen body account (.update item.id)))
    | none =>
      if store.catalog.items.all (fun row => row.id ≠ input.newId) then
        some ({ store with catalog := { store.catalog with items := store.catalog.items ++
            [newItem input.newId (store.publicData host seen) seen.sort] } },
          some (.publish seen body account (.update input.newId)))
      else none
  | .update itemId =>
    some (store.updateItem itemId fun row => { row with
        data := store.publicData host seen, version := row.version + 1, sort := seen.sort
        enabled := true }, some (.publish seen body account (.attach itemId)))
  | .attach itemId =>
    some (store.attachItem seen.id itemId, some (.publish seen body account .supersede))
  | .supersede =>
    some (store.supersedeOthers seen.slug seen.id, some (.publish seen body account .state))
  | .state =>
    some (store.setState seen.id (Release.publishedBy body input.now) (body.action input.now)
      account, none)

def releaseResume (ticket : ReleaseTicket) (input : ReleaseInput) :
    Option (ReleaseStore × Option ReleaseTicket) :=
  match ticket with
  | .create draft account =>
    (store.createRelease host draft input.newId account).map fun next => (next, none)
  | .test releaseId passed account =>
    some (store.setState releaseId (Release.tested passed)
      (if passed then .clientTestPassed else .clientTestFailed) account, none)
  | .approve releaseId account =>
    some (store.setState releaseId (Release.approvedBy account) .approved account, none)
  | .publish seen body account stage => publishResume host store seen body account stage input
  | .pause releaseId account =>
    some (store.setState releaseId Release.paused .rolloutPaused account, none)
  | .withdrawItem releaseId itemId account =>
    some (store.updateItem itemId fun row => { row with enabled := false },
      some (.withdraw releaseId account))
  | .withdraw releaseId account =>
    some (store.setState releaseId Release.withdrawnNow .withdrawn account, none)
  | .copy target account =>
    (store.createRelease host ⟨target.data, target.sort, account.id,
      target.catalogItemId.getD "", target.id, target.minAppVersion, false⟩ input.newId
      account).map fun next => (next, some (.approveCopy input.newId account))
  | .approveCopy releaseId account =>
    let next := store.setState releaseId (Release.copyApproved account) .rollbackApproved account
    some (next, (next.release? releaseId).map fun restored =>
      .publish restored .default account .item)

end

def releaseRoutine (host : ReleaseHost) :
    Routine ReleaseStore ReleaseRequest ReleaseInput ReleaseTicket where
  call := releaseCall host
  resume := releaseResume host

def skillBucket (host : ReleaseHost) (accountId slug : String) : Nat :=
  host.sha256Head (accountId ++ ":" ++ slug) % 100

/-- `list_skill_releases(slug=slug) if slug else []`: the highest version comes first. -/
def ReleaseStore.slugReleases (store : ReleaseStore) (slug : String) : List Release :=
  if slug = "" then []
  else (store.releases.filter fun row => row.slug = slug).insertionSort
    fun left right => right.version ≤ left.version

def selectRelease (releases : List Release) (bucket : Nat) (now : Time) : Option Release :=
  match releases.find? fun row => row.state.isLive && row.effectiveAt ≤ now with
  | some active =>
    if active.state = .rollingOut ∧ active.rolloutPercent ≤ bucket then
      releases.find? fun row => row.state = .superseded && row.version < active.version
    else some active
  | none => releases.find? fun row => row.state = .superseded

/-- A catalog row that is sent down; one with a release names it. -/
structure ProjectedItem where
  item : CatalogItem
  releaseId : Option String

def ReleaseStore.releaseRow (host : ReleaseHost) (store : ReleaseStore) (original : CatalogItem)
    (selected : Release) : ProjectedItem where
  item := { original with
    data := setField "content_hash" (.str selected.contentHash)
      (setField "release_version" (.int selected.version) (setField "release_id" (.str selected.id)
          (store.catalog.normalizeAppSkill host.toCatalogHost selected.data)))
    version := selected.version }
  releaseId := some selected.id

/-- One turn of the loop of `_project_skill_releases`; `none` leaves the row out. -/
def ReleaseStore.projectRow (host : ReleaseHost) (store : ReleaseStore) (accountId : String)
    (now : Time) (original : CatalogItem) : Option ProjectedItem :=
  let slug := original.data.strField host.toPyText "slug"
  let releases := store.slugReleases slug
  if original.category ≠ "APP_SKILLS" ∨ isObject original.data = false ∨ releases.isEmpty ∨
      original.enabled = false then some ⟨original, none⟩
  else (selectRelease releases (skillBucket host accountId slug) now).map
    (store.releaseRow host original)

def ReleaseStore.projectSkillReleases (host : ReleaseHost) (store : ReleaseStore)
    (accountId : String) (now : Time) (items : List CatalogItem) : List ProjectedItem :=
  items.filterMap (store.projectRow host accountId now)

end AgentMate.SkillReleases
