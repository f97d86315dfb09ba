import AgentMate.FrontMatter
import AgentMate.LocalRunStore

/-!
# Skill candidates

A candidate is drafted from a Run, tested by another one, approved by its owner and installed as a
package. Each call reads the candidate, checks it, and writes it in a later statement; its package
is a directory that ordinary installs, edits and removals work on as well. The slug lock makes a
single step of the import of a package, and of the removal of one that was looked up.
-/

namespace AgentMate.SkillLearning

open PlainText FrontMatter Interleaving Table

structure SourceRun where
  id : String
  ownerId : String
  status : LocalRuns.RunStatus

structure RunArtifact where
  id : String
  runId : String
  ownerId : String
  path : String
  sha256 : String
  validation : Json
  validationStatus : String
  acceptanceStatus : LocalRuns.AcceptanceStatus

/-- An entry of the `evidence` column. -/
structure Evidence where
  kind : String
  id : String
  path : String
  sha256 : String
  validation : Json

inductive TargetScope where
  | localScope
  | platformScope
  deriving DecidableEq

inductive CandidateState where
  | draft | tested | approved | installed | rejected | rolledBack
  deriving DecidableEq

inductive Verdict where
  | safe | warning | dangerous
  deriving DecidableEq

structure ScanReport where
  verdict : Verdict
  trustLevel : String

/-- A row of `skill_candidates`. -/
structure Candidate where
  id : String
  ownerId : String
  sourceRunId : String
  testRunId : Option String
  targetScope : TargetScope
  slug : String
  name : String
  description : String
  instructions : String
  tools : List String
  evidence : List Evidence
  contentHash : String
  securityScan : ScanReport
  warningsAccepted : Bool
  state : CandidateState
  installedKey : String

/-- What an `UPDATE` of a candidate writes, with the details of the event that goes with it. -/
inductive CandidateChange where
  | testPassed (testRunId : String) (evidenceIds : List String)
  | ownerApproved (contentHash : String) (warningsAccepted : Bool)
  | rejected (reason : String)
  | installed (packageKey contentHash : String)
  | rolledBack (packageKey : String)
  deriving DecidableEq

inductive CandidateAction where
  | candidateCreated (sourceRunId : String) (evidenceIds : List String) (contentHash : String)
  | changed (change : CandidateChange)
  deriving DecidableEq

/-- A row of `skill_candidate_events`. -/
structure CandidateEvent where
  candidateId : String
  actorId : String
  action : CandidateAction
  deriving DecidableEq

/-- The state that the `UPDATE` sets. -/
def CandidateChange.state : CandidateChange → CandidateState
  | .testPassed _ _ => .tested
  | .ownerApproved _ _ => .approved
  | .rejected _ => .rejected
  | .installed _ _ => .installed
  | .rolledBack _ => .rolledBack

def CandidateChange.accepts : CandidateChange → CandidateState → Bool
  | .testPassed _ _, state => state = .draft
  | .ownerApproved _ _, state => state = .tested
  | .rejected _, state => state ≠ .installed && state ≠ .rolledBack
  | .installed _ _, state => state = .approved
  | .rolledBack _, state => state = .installed

def CandidateChange.assign (row : Candidate) : CandidateChange → Candidate
  | .testPassed testRunId _ => { row with testRunId := some testRunId, state := .tested }
  | .ownerApproved _ accepted => { row with warningsAccepted := accepted, state := .approved }
  | .rejected _ => { row with state := .rejected }
  | .installed packageKey _ => { row with installedKey := packageKey, state := .installed }
  | .rolledBack _ => { row with state := .rolledBack }

/-- A package directory, as `_info_from_dir` reads it. `maker` is history: the candidate whose
install wrote the directory. -/
structure SkillPackage where
  key : String
  slug : String
  name : String
  source : String
  contentHash : String
  hasMeta : Bool
  disabled : Bool
  maker : Option String
  deriving DecidableEq

structure SkillInstallation where
  ownerId : String
  slug : String
  packageKey : String
  contentHash : String
  enabled : Bool
  deleted : Bool
  deriving DecidableEq

/-- `passedRuns` is history: the owners and the Test Runs that were found eligible. -/
structure LearningStore where
  runs : List SourceRun
  artifacts : List RunArtifact
  /-- the skills that each project refers to -/
  projectSkills : List (List String)
  candidates : List Candidate
  events : List CandidateEvent
  packages : List SkillPackage
  installations : List SkillInstallation
  passedRuns : List (String × String)

/-- Text functions of the language and its libraries, the digest of a text, and what the modules
of tools and of security say: the tools that a skill may bind, and the scan of a `SKILL.md`. -/
structure LearningHost where
  lower : String → String
  sha256 : String → String
  floats : FloatText
  bindableTools : List String
  scanMarkdown : String → String → ScanReport

def localUserId : String := "00000000-0000-0000-0000-000000000001"

namespace LearningStore

variable (store : LearningStore)

def run? (runId : String) : Option SourceRun := lookup SourceRun.id runId store.runs

/-- `get_candidate`. -/
def candidate? (candidateId ownerId : String) : Option Candidate :=
  store.candidates.find? fun row => row.id = candidateId && row.ownerId = ownerId

def acceptedEvidence (runId : String) : List Evidence :=
  (store.artifacts.filter fun artifact => artifact.runId = runId &&
    artifact.validationStatus = "passed" && artifact.acceptanceStatus = .accepted).map
      fun artifact =>
        ⟨"artifact", artifact.id, artifact.path, artifact.sha256, artifact.validation⟩

/-- `_eligible_run`; `none` is the exception. -/
def eligibleRun (runId ownerId : String) : Option (List Evidence) :=
  match store.run? runId with
  | none => none
  | some run =>
    if run.ownerId ≠ ownerId then none
    else if run.status ≠ .completed ∧ run.status ≠ .accepted then none
    else if store.acceptedEvidence runId = [] then none
    else some (store.acceptedEvidence runId)

def evidenceHolds (candidate : Candidate) (evidence : Evidence) : Bool :=
  evidence.kind = "artifact" &&
    ((lookup RunArtifact.id evidence.id store.artifacts).any fun artifact =>
      artifact.runId = candidate.sourceRunId && artifact.ownerId = candidate.ownerId &&
        artifact.sha256 = evidence.sha256 && artifact.validationStatus = "passed" &&
        artifact.acceptanceStatus = .accepted)

/-- The `UPDATE` of a candidate and its event, in one transaction. -/
def change (candidate : Candidate) (change : CandidateChange) : LearningStore :=
  { store with
    candidates := updateWhere (fun row => row.id = candidate.id) change.assign store.candidates
    events := store.events ++ [⟨candidate.id, candidate.ownerId, .changed change⟩] }

/-- `skill_installation`. -/
def installation? (ownerId slug : String) : Option SkillInstallation :=
  store.installations.find? fun row => row.ownerId = ownerId && row.slug = slug

/-- `upsert_skill_installation`. -/
def upsertInstallation (row : SkillInstallation) : LearningStore :=
  { store with
    installations := (store.installations.filter fun old =>
      !(old.ownerId = row.ownerId && old.slug = row.slug)) ++ [row] }

/-- `skill_package_ref_count`. -/
def refCount (packageKey : String) : Nat :=
  (store.installations.filter fun row => row.packageKey = packageKey).length

/-- `skill_package_active_ref_count`. -/
def activeRefCount (packageKey : String) : Nat :=
  (store.installations.filter fun row => row.packageKey = packageKey && !row.deleted).length

def package? (key : String) : Option SkillPackage :=
  lookup SkillPackage.key key store.packages

def putPackage (package : SkillPackage) : LearningStore :=
  { store with
    packages := (store.packages.filter fun old => old.key ≠ package.key) ++ [package] }

/-- `uninstall` once the package is looked up; `moved` tells whether the directory could be moved
to the trash. -/
def removePackage (ownerId slug packageKey : String) (moved : Bool) : Option LearningStore :=
  if store.installations.any fun row =>
      row.ownerId = ownerId && row.slug = slug && !row.deleted then
    let deleted : LearningStore :=
      { store with
        installations := updateWhere
          (fun row => row.ownerId = ownerId ∧ row.slug = slug ∧ row.deleted = false)
          (fun row => { row with enabled := false, deleted := true }) store.installations }
    some (if deleted.activeRefCount packageKey = 0 ∧ moved ∧
        ¬store.projectSkills.any (fun skills => slug ∈ skills) then
      { deleted with packages := deleted.packages.filter fun package => package.key ≠ packageKey }
    else deleted)
  else none

end LearningStore

variable (host : LearningHost)

/-- `sorted(items, key=lambda item: item.name.lower())`. -/
def sortLower {Item : Type} (name : Item → String) (items : List Item) : List Item :=
  items.insertionSort fun left right => host.lower (name left) ≤ host.lower (name right)

def LearningStore.physicalPackages (store : LearningStore) : List SkillPackage :=
  sortLower host SkillPackage.key store.packages

def SkillPackage.adopted (ownerId : String) (package : SkillPackage) : SkillInstallation where
  ownerId := ownerId
  slug := package.slug
  packageKey := package.key
  contentHash := package.contentHash
  enabled := !package.disabled
  deleted := false

/-- The rows that the local user gets for packages that no row of theirs names. -/
def LearningStore.adoptions (store : LearningStore) (ownerId : String) : List SkillInstallation :=
  if ownerId = localUserId then
    let known := (store.installations.filter fun row => row.ownerId = ownerId).map
      SkillInstallation.slug
    let fresh := (store.physicalPackages host).filter fun package => package.slug ∉ known
    (fresh.map SkillPackage.slug).eraseDups.filterMap fun slug =>
      (fresh.reverse.find? fun package => package.slug = slug).map (SkillPackage.adopted ownerId)
  else []

/-- What `scan` writes. -/
def LearningStore.adopt (store : LearningStore) (ownerId : String) : LearningStore :=
  { store with installations := store.installations ++ store.adoptions host ownerId }

def LearningStore.scan (store : LearningStore) (ownerId : String) : List SkillPackage :=
  let active := (store.installations.filter fun row => row.ownerId = ownerId && !row.deleted)
    |>.insertionSort fun left right => left.slug ≤ right.slug
  sortLower host SkillPackage.name
    ((active ++ store.adoptions host ownerId).filterMap fun row => store.package? row.packageKey)

def LearningStore.named (store : LearningStore) (ownerId key : String) : Option SkillPackage :=
  (store.scan host ownerId).find? fun package => key ∈ [package.key, package.slug, package.name]

/-- The files of a package after their checks. -/
structure SkillUpload where
  slug : String
  name : String
  source : String
  /-- of the release manifest in it -/
  releaseHash : String
  /-- `releaseHash`, or the digest of the files -/
  contentHash : String

inductive ImportPlan where
  | reuse (package : SkillPackage)
  | write (key : String)
  | refuse

def LearningStore.importTarget (store : LearningStore) (ownerId slug : String) : String :=
  match store.installation? ownerId slug with
  | some row => if row.packageKey ≠ "" then row.packageKey else slug
  | none => slug

def LearningStore.writePlan (store : LearningStore) (target : String) (upload : SkillUpload)
    (replaceExisting : Bool) : ImportPlan :=
  match store.package? target with
  | none => .write target
  | some existing =>
    if replaceExisting = false ∨ existing.source ≠ "agentmate" ∨ upload.source ≠ "agentmate" then
      .refuse
    else if 1 < store.refCount target then
      .write (upload.slug ++ "--" ++ String.ofList (upload.contentHash.toList.take 12))
    else .write target

def LearningStore.importPlan (store : LearningStore) (ownerId : String) (upload : SkillUpload)
    (replaceExisting : Bool) : ImportPlan :=
  match (store.physicalPackages host).find? fun package =>
      package.slug = upload.slug && package.contentHash = upload.contentHash with
  | some package => .reuse package
  | none => store.writePlan (store.importTarget ownerId upload.slug) upload replaceExisting

/-- `_install_import_files_unlocked` after the checks of the files; the package that it answers
with. -/
def LearningStore.importPackage (store : LearningStore) (ownerId : String) (upload : SkillUpload)
    (replaceExisting : Bool) (maker : Option String) : Option (LearningStore × SkillPackage) :=
  match store.importPlan host ownerId upload replaceExisting with
  | .reuse package =>
    some (store.upsertInstallation
      ⟨ownerId, upload.slug, package.key, upload.contentHash, true, false⟩, package)
  | .write key =>
    let package : SkillPackage :=
      { key := key
        slug := upload.slug
        name := upload.name
        source := upload.source
        contentHash := upload.releaseHash
        hasMeta := true
        disabled := false
        maker := maker }
    let enabled := (store.installation? ownerId upload.slug).all SkillInstallation.enabled
    some ((store.putPackage package).upsertInstallation
      ⟨ownerId, upload.slug, key, upload.contentHash, enabled, false⟩, package)
  | .refuse => none

/-- `valid_slug`, of a stripped text. -/
def validSlug (slug : String) : Bool :=
  slug ≠ "" && ('.', '.') ∉ slug.toList.zip slug.toList.tail && slug.toList.head? ≠ some '-' &&
    slug.toList.all fun char => isKeyChar char || char = '.'

def ScanReport.requiresConfirmation (report : ScanReport) : Bool :=
  report.verdict = .warning && report.trustLevel ≠ "agentmate" && report.trustLevel ≠ "trusted"

def skillMarkdown (slug name description instructions : String) : String :=
  "---\nname: " ++ jsonDumps host.floats (.str name) ++ "\nslug: " ++ slug ++
    "\ndescription: " ++ jsonDumps host.floats (.str description) ++ "\n---\n\n" ++
    instructions ++ "\n"

/-- The text of `SKILL.md` as the import reads it; the name of the file gives the slug when the
front matter has no valid one. -/
def importedMarkdown (slug markdown : String) : Option SkillUpload :=
  let frontmatter := (parseFrontmatter host.floats markdown).1
  let field (key : String) : String :=
    match frontmatter.get? key with
    | some (.str value) => strip value
    | _ => ""
  if field "name" = "" ∨ field "description" = "" then none
  else some
    { slug := if validSlug (field "slug") then field "slug" else slug
      name := field "name"
      source := "local"
      releaseHash := ""
      contentHash := host.sha256 ("SKILL.md\x00" ++ markdown) }

/-- The checks of `create_skill` and of its import; `none` is the `SkillImportError`. The bounds are
too large to unfold in a proof. -/
@[irreducible]
def createdUpload (slug name description instructions : String) (accepted : Bool) :
    Option SkillUpload :=
  if !validSlug (strip slug) || strip name = "" || strip description = "" ||
      strip instructions = "" || 120 < (strip name).length || 500 < (strip description).length ||
      50000 < (strip instructions).length then none
  else
    let markdown := skillMarkdown host (strip slug) (strip name) (strip description)
      (strip instructions)
    let report := host.scanMarkdown markdown "local"
    if report.verdict = .dangerous ∨ (report.requiresConfirmation ∧ ¬accepted) then none
    else importedMarkdown host (strip slug) markdown

structure CandidateDraft where
  ownerId : String
  sourceRunId : String
  targetScope : String
  slug : String
  name : String
  description : String
  instructions : String
  tools : List String

def Candidate.definition (candidate : Candidate) : Json :=
  .obj [("name", .str candidate.name), ("description", .str candidate.description),
    ("instructions", .str candidate.instructions), ("tools", .arr (candidate.tools.map Json.str))]

/-- `_candidate_content_hash`. -/
def Candidate.digest (candidate : Candidate) : String :=
  host.sha256 (jsonDumps host.floats candidate.definition)

/-- `_assert_candidate_integrity`. -/
def LearningStore.intact (store : LearningStore) (candidate : Candidate) : Bool :=
  candidate.digest host = candidate.contentHash &&
    candidate.evidence.all (store.evidenceHolds candidate)

/-- `(target_scope or "local").strip().lower()`, when it is one of the two. -/
def readScope (text : String) : Option TargetScope :=
  let scope := host.lower (strip (if text = "" then "local" else text))
  if scope = "local" then some .localScope
  else if scope = "platform" then some .platformScope
  else none

/-- `create_candidate` up to the insert; the identifier is drawn there. -/
def LearningStore.draftCandidate (store : LearningStore) (draft : CandidateDraft) :
    Option Candidate := do
  let evidence ← store.eligibleRun draft.sourceRunId draft.ownerId
  let scope ← readScope host draft.targetScope
  let slug := strip draft.slug
  let name := strip draft.name
  let description := strip draft.description
  let instructions := strip draft.instructions
  let tools := (((draft.tools.map strip).filter (· ≠ "")).eraseDups).insertionSort (· ≤ ·)
  let markdown := skillMarkdown host slug name description instructions
  let report := host.scanMarkdown markdown (if scope = .localScope then "local" else "agentmate")
  let candidate : Candidate :=
    { id := ""
      ownerId := draft.ownerId
      sourceRunId := draft.sourceRunId
      testRunId := none
      targetScope := scope
      slug := slug
      name := name
      description := description
      instructions := instructions
      tools := tools
      evidence := evidence
      contentHash := ""
      securityScan := report
      warningsAccepted := false
      state := .draft
      installedKey := "" }
  if !validSlug slug || name = "" || description = "" || instructions = "" ||
      120 < name.length || 500 < description.length || 50000 < instructions.length ||
      !(tools.all (· ∈ host.bindableTools)) || (scope = .localScope && tools ≠ []) ||
      report.verdict = .dangerous then none
  else some { candidate with contentHash := candidate.digest host }

/-- `create_skill` as `install_local` calls it. -/
def Candidate.upload (candidate : Candidate) : Option SkillUpload :=
  createdUpload host candidate.slug candidate.name candidate.description candidate.instructions
    candidate.warningsAccepted

inductive LearningRequest where
  | createCandidate (draft : CandidateDraft)
  | recordTest (candidateId ownerId testRunId : String)
  | approve (candidateId ownerId : String) (acceptWarnings : Bool)
  | reject (candidateId ownerId reason : String)
  | installLocal (candidateId ownerId : String)
  | rollbackLocal (candidateId ownerId : String)
  | importFiles (ownerId : String) (upload : SkillUpload) (replaceExisting : Bool)
  | installHub (ownerId slug name metaHash contentHash : String)
  /-- an edit whose texts pass the checks, with the digest of the directory after it -/
  | updateSkill (ownerId key name contentHash : String)
  | uninstall (ownerId key : String)
  /-- work on Runs, artifacts and projects -/
  | otherWork (runs : List SourceRun) (artifacts : List RunArtifact)
      (projectSkills : List (List String))

inductive LearningTicket where
  | insert (candidate : Candidate)
  | testing (candidate : Candidate) (testRunId : String)
  | approving (candidate : Candidate) (acceptWarnings : Bool)
  | installing (candidate : Candidate)
  | creating (candidate : Candidate)
  | rollingBack (candidate : Candidate)
  | removing (candidate : Candidate) (slug packageKey : String)
  | write (candidate : Candidate) (change : CandidateChange)
  | editing (ownerId key slug name contentHash : String)
  | uninstalling (ownerId slug packageKey : String)

structure LearningInput where
  drawn : String
  moved : Bool

def callLearning (store : LearningStore) :
    LearningRequest → Option (LearningStore × Option LearningTicket)
  | .createCandidate draft => some (store, (store.draftCandidate host draft).map .insert)
  | .recordTest candidateId ownerId testRunId =>
    some (store, match store.candidate? candidateId ownerId with
      | some candidate =>
        if candidate.state = .draft then some (.testing candidate testRunId) else none
      | none => none)
  | .approve candidateId ownerId acceptWarnings =>
    some (store, match store.candidate? candidateId ownerId with
      | some candidate =>
        if candidate.state = .tested then some (.approving candidate acceptWarnings) else none
      | none => none)
  | .reject candidateId ownerId reason =>
    some (store, match store.candidate? candidateId ownerId with
      | some candidate =>
        if candidate.state = .installed ∨ candidate.state = .rolledBack then none
        else some (.write candidate (.rejected (String.ofList ((strip reason).toList.take 500))))
      | none => none)
  | .installLocal candidateId ownerId =>
    some (store, match store.candidate? candidateId ownerId with
      | some candidate =>
        if candidate.state = .approved ∧ candidate.targetScope = .localScope then
          some (.installing candidate)
        else none
      | none => none)
  | .rollbackLocal candidateId ownerId =>
    some (store, match store.candidate? candidateId ownerId with
      | some candidate =>
        if candidate.state = .installed ∧ candidate.installedKey ≠ "" then
          some (.rollingBack candidate)
        else none
      | none => none)
  | .importFiles ownerId upload replaceExisting =>
    some (((store.importPackage host ownerId upload replaceExisting none).map
      Prod.fst).getD store, none)
  | .installHub ownerId slug name metaHash contentHash =>
    match store.package? slug with
    | some package =>
      some (store.upsertInstallation ⟨ownerId, package.slug, package.key,
        if package.contentHash ≠ "" then package.contentHash else contentHash, true, false⟩,
        none)
    | none =>
      let package : SkillPackage :=
        { key := slug
          slug := slug
          name := name
          source := "skillhub"
          contentHash := metaHash
          hasMeta := true
          disabled := false
          maker := none }
      some ((store.putPackage package).upsertInstallation
        ⟨ownerId, slug, slug, contentHash, true, false⟩, none)
  | .updateSkill ownerId key name contentHash =>
    let text := strip key
    some (store.adopt host ownerId, match store.named host ownerId text with
      | some package =>
        if package.source = "agentmate" ∨
            1 < (store.adopt host ownerId).refCount package.key then none
        else some (.editing ownerId package.key package.slug name contentHash)
      | none => none)
  | .uninstall ownerId key =>
    some (store.adopt host ownerId, (store.named host ownerId key).map fun package =>
      .uninstalling ownerId package.slug package.key)
  | .otherWork runs artifacts projectSkills =>
    some ({ store with
      runs := runs, artifacts := artifacts, projectSkills := projectSkills }, none)

/-- `create_candidate` from the insert on. -/
def insertCandidate (store : LearningStore) (candidate : Candidate) (drawn : String) :
    Option (LearningStore × Option LearningTicket) :=
  if drawn ∈ store.candidates.map Candidate.id then none
  else some ({ store with
    candidates := store.candidates ++ [{ candidate with id := drawn }]
    events := store.events ++ [⟨drawn, candidate.ownerId, .candidateCreated
      candidate.sourceRunId (candidate.evidence.map Evidence.id) candidate.contentHash⟩] }, none)

/-- The checks of `record_test`. -/
def checkTest (store : LearningStore) (candidate : Candidate) (testRunId : String) :
    Option (LearningStore × Option LearningTicket) :=
  if store.intact host candidate = false ∨ testRunId = candidate.sourceRunId then some (store, none)
  else match store.eligibleRun testRunId candidate.ownerId with
    | some evidence =>
      some ({ store with passedRuns := (candidate.ownerId, testRunId) :: store.passedRuns },
        some (.write candidate (.testPassed testRunId (evidence.map Evidence.id))))
    | none => some (store, none)

/-- The checks of `approve`. -/
def checkApproval (store : LearningStore) (candidate : Candidate) (acceptWarnings : Bool) :
    Option LearningTicket :=
  if store.intact host candidate = false ∨
      store.eligibleRun (candidate.testRunId.getD "") candidate.ownerId = none ∨
      (candidate.securityScan.requiresConfirmation ∧ ¬acceptWarnings) then none
  else some (.write candidate (.ownerApproved candidate.contentHash acceptWarnings))

/-- The checks of `install_local`. -/
def checkInstall (store : LearningStore) (candidate : Candidate) :
    Option (LearningStore × Option LearningTicket) :=
  if store.intact host candidate = false then some (store, none)
  else some (store.adopt host candidate.ownerId,
    if (store.scan host candidate.ownerId).any fun package =>
        package.slug = candidate.slug then none
    else some (.creating candidate))

def createPackage (store : LearningStore) (candidate : Candidate) :
    Option (LearningStore × Option LearningTicket) :=
  match (candidate.upload host).bind fun upload =>
      store.importPackage host candidate.ownerId upload false (some candidate.id) with
  | some (next, package) =>
    some (next, some (.write candidate (.installed package.key package.contentHash)))
  | none => some (store, none)

def removeInstalled (store : LearningStore) (candidate : Candidate) (slug packageKey : String)
    (moved : Bool) : Option (LearningStore × Option LearningTicket) :=
  match store.removePackage candidate.ownerId slug packageKey moved with
  | some next => some (next, some (.write candidate (.rolledBack candidate.installedKey)))
  | none => some (store, none)

/-- `update_skill` from the write of the manifest on; a directory that is gone ends the call. -/
def writeEdit (store : LearningStore) (ownerId key slug name contentHash : String) :
    Option (LearningStore × Option LearningTicket) :=
  if store.package? key = none then some (store, none)
  else
    let edited : LearningStore :=
      { store with
        packages := updateWhere (fun package => package.key = key) (fun package => { package with
            name := strip name
            contentHash := if package.hasMeta then contentHash else package.contentHash })
          store.packages }
    some (edited.upsertInstallation ⟨ownerId, slug, key, contentHash,
      (store.installation? ownerId slug).all SkillInstallation.enabled, false⟩, none)

def resumeLearning (store : LearningStore) (ticket : LearningTicket) (input : LearningInput) :
    Option (LearningStore × Option LearningTicket) :=
  match ticket with
  | .insert candidate => insertCandidate store candidate input.drawn
  | .testing candidate testRunId => checkTest host store candidate testRunId
  | .approving candidate acceptWarnings =>
    some (store, checkApproval host store candidate acceptWarnings)
  | .installing candidate => checkInstall host store candidate
  | .creating candidate => createPackage host store candidate
  | .rollingBack candidate =>
    some (store.adopt host candidate.ownerId,
      (store.named host candidate.ownerId candidate.installedKey).map fun package =>
        .removing candidate package.slug package.key)
  | .removing candidate slug packageKey =>
    removeInstalled store candidate slug packageKey input.moved
  | .write candidate change => some (store.change candidate change, none)
  | .editing ownerId key slug name contentHash => writeEdit store ownerId key slug name contentHash
  | .uninstalling ownerId slug packageKey =>
    some ((store.removePackage ownerId slug packageKey input.moved).getD store, none)

def learningRoutine : Routine LearningStore LearningRequest LearningInput LearningTicket where
  call := callLearning host
  resume := resumeLearning host

end AgentMate.SkillLearning
