import AgentMate.SkillCandidates

/-! # Lifecycle of skill candidates -/

namespace AgentMate.SkillLearning

open Interleaving TransitionSystem Table List Option

def CandidateState.next : CandidateState → List CandidateState
  | .draft => [.tested, .rejected]
  | .tested => [.approved, .rejected]
  | .approved => [.installed, .rejected]
  | .installed => [.rolledBack]
  | .rejected | .rolledBack => []

/-- A new candidate is a draft, and an old one keeps its state or takes one that may follow. -/
structure Follows (before after : LearningStore) : Prop where
  fresh : ∀ row ∈ after.candidates, row.id ∉ before.candidates.map Candidate.id → row.state = .draft
  changes : ∀ old ∈ before.candidates, ∀ row ∈ after.candidates, row.id = old.id →
    row.state = old.state ∨ row.state ∈ old.state.next

def Tested (store : LearningStore) (row : Candidate) : Prop :=
  ∃ testRunId evidenceIds, testRunId ≠ row.sourceRunId ∧
    (row.ownerId, testRunId) ∈ store.passedRuns ∧
    ⟨row.id, row.ownerId, .changed (.testPassed testRunId evidenceIds)⟩ ∈ store.events

def Approved (store : LearningStore) (row : Candidate) : Prop :=
  ∃ contentHash accepted,
    ⟨row.id, row.ownerId, .changed (.ownerApproved contentHash accepted)⟩ ∈ store.events

def CandidateAction.isRejection : CandidateAction → Bool
  | .changed (.rejected _) => true
  | _ => false

def Unrejected (store : LearningStore) (row : Candidate) : Prop :=
  ∀ event ∈ store.events, event.candidateId = row.id → event.action.isRejection = false

def Warranted (store : LearningStore) : Prop :=
  ∀ row ∈ store.candidates, row.state = .installed →
    Tested store row ∧ Approved store row ∧ Unrejected store row

/-- A Run that counts as passed was eligible at that time. -/
def PassedEligible (before after : LearningStore) : Prop :=
  ∀ passed ∈ after.passedRuns, passed ∈ before.passedRuns ∨
    (before.eligibleRun passed.2 passed.1).isSome

def LearningStore.Uses (store : LearningStore) (ownerId key : String) : Prop :=
  ∃ row ∈ store.installations, row.ownerId = ownerId ∧ row.deleted = false ∧ row.packageKey = key

def Removed (before after : LearningStore) (ownerId : String) (package : SkillPackage) : Prop :=
  package ∈ before.packages ∧ (package ∉ after.packages ∨
    (before.Uses ownerId package.key ∧ ¬after.Uses ownerId package.key))

def LearningTicket.rollback : LearningTicket → Option Candidate
  | .rollingBack candidate | .removing candidate _ _ | .write candidate (.rolledBack _) =>
    some candidate
  | _ => none

/-- A step of a rollback removes no package but one that the install of the candidate made. -/
def OwnRemoved (system after : System LearningStore LearningTicket) :
    Event LearningRequest LearningInput → Prop
  | .resume index _ => ∀ ticket ∈ system.pending[index]?, ∀ candidate ∈ ticket.rollback,
      ∀ package, Removed system.data after.data candidate.ownerId package →
        package.maker = some candidate.id
  | _ => True

/-- The row that is written passes the check that was made of the one that was read, unless a call
of the same kind has come before. -/
def CandidateChange.InOrder (store : LearningStore) (candidate : Candidate)
    (change : CandidateChange) : Prop :=
  ∀ row ∈ store.candidates, row.id = candidate.id →
    change.accepts row.state = true ∨ row.state = change.state

def LearningTicket.RowInOrder (store : LearningStore) : LearningTicket → Prop
  | .write candidate change => change.InOrder store candidate
  | _ => True

def RowsInOrder (system : System LearningStore LearningTicket) :
    Event LearningRequest LearningInput → Prop
  | .resume index _ => ∀ ticket ∈ system.pending[index]?, ticket.RowInOrder system.data
  | _ => True

/-- The key of the package that a pending call has made or is about to remove, and the candidate. -/
def LearningTicket.held : LearningTicket → Option (String × String)
  | .write candidate (.installed packageKey _) => some (packageKey, candidate.id)
  | .rollingBack candidate | .removing candidate _ _ => some (candidate.installedKey, candidate.id)
  | _ => none

def Free (system : System LearningStore LearningTicket) (key : String) (maker : Option String) :
    Prop :=
  (∀ row ∈ system.data.candidates, row.state = .installed → row.installedKey = key →
    maker = some row.id) ∧
  ∀ ticket ∈ system.pending, ∀ held ∈ ticket.held, held.1 = key → maker = some held.2

section

variable (host : LearningHost)

def ImportPlan.InOrder (system : System LearningStore LearningTicket) (maker : Option String) :
    ImportPlan → Prop
  | .write key => Free system key maker
  | _ => True

def ImportPlan.Own (candidateId : String) : ImportPlan → Prop
  | .reuse package => package.maker = some candidateId
  | _ => True

def LearningTicket.InOrder (system : System LearningStore LearningTicket) : LearningTicket → Prop
  | .creating candidate => ∀ upload ∈ candidate.upload host,
      let plan := system.data.importPlan host candidate.ownerId upload false
      plan.InOrder system (some candidate.id) ∧ plan.Own candidate.id
  | .rollingBack candidate =>
    ∀ package ∈ system.data.named host candidate.ownerId candidate.installedKey,
      package.key = candidate.installedKey
  | .removing candidate slug _ => ∀ row ∈ system.data.installations,
      row.ownerId = candidate.ownerId → row.slug = slug → row.deleted = false →
        row.packageKey = candidate.installedKey
  | _ => True

/-- Nothing takes the place of the package of an installed candidate. -/
def PackagesInOrder (system : System LearningStore LearningTicket) :
    Event LearningRequest LearningInput → Prop
  | .call (.importFiles ownerId upload replaceExisting) =>
    (system.data.importPlan host ownerId upload replaceExisting).InOrder system none
  | .call (.installHub _ slug _ _ _) => system.data.package? slug = none → Free system slug none
  | .resume index _ => ∀ ticket ∈ system.pending[index]?, ticket.InOrder host system
  | _ => True

def InOrder (system : System LearningStore LearningTicket)
    (event : Event LearningRequest LearningInput) : Prop :=
  RowsInOrder system event ∧ PackagesInOrder host system event

structure Candidate.Sound (store : LearningStore) (row : Candidate) : Prop where
  tested : row.state ∉ [.draft, .rejected] → Tested store row
  approved : row.state ∈ [.approved, .installed, .rolledBack] → Approved store row
  unrejected : row.state ≠ .rejected → Unrejected store row
  made : row.state = .installed → ∀ package ∈ store.packages, package.key = row.installedKey →
    package.maker = some row.id

structure LearningInv (store : LearningStore) : Prop where
  ids : UniqueKey Candidate.id store.candidates
  keys : UniqueKey SkillPackage.key store.packages
  events : ∀ event ∈ store.events, event.candidateId ∈ store.candidates.map Candidate.id
  rows : ∀ row ∈ store.candidates, row.Sound store

def Known (store : LearningStore) (candidate : Candidate) : Prop :=
  ∃ row ∈ store.candidates, row.id = candidate.id ∧ row.ownerId = candidate.ownerId ∧
    row.sourceRunId = candidate.sourceRunId

def Made (store : LearningStore) (key candidateId : String) : Prop :=
  ∀ package ∈ store.packages, package.key = key → package.maker = some candidateId

def LearningTicket.candidate? : LearningTicket → Option Candidate
  | .testing candidate _ | .approving candidate _ | .installing candidate | .creating candidate
  | .rollingBack candidate | .removing candidate _ _ | .write candidate _ => some candidate
  | _ => none

def LearningTicket.Checked (store : LearningStore) : LearningTicket → Prop
  | .insert candidate => candidate.state = .draft
  | .removing candidate _ packageKey => packageKey = candidate.installedKey
  | .write candidate (.testPassed testRunId _) => testRunId ≠ candidate.sourceRunId ∧
      (candidate.ownerId, testRunId) ∈ store.passedRuns
  | _ => True

structure LearningReady (store : LearningStore) (ticket : LearningTicket) : Prop where
  known : ∀ candidate ∈ ticket.candidate?, Known store candidate
  made : ∀ held ∈ ticket.held, Made store held.1 held.2
  checked : ticket.Checked store

structure PackagesKept (written : Option (String × Option String))
    (before after : LearningStore) : Prop where
  keys : UniqueKey SkillPackage.key before.packages → UniqueKey SkillPackage.key after.packages
  packages : ∀ package ∈ after.packages,
    (∃ old ∈ before.packages, old.key = package.key ∧ old.maker = package.maker) ∨
      written = some (package.key, package.maker)

structure Frame (written : Option (String × Option String)) (before after : LearningStore) :
    Prop where
  known : ∀ candidate, Known before candidate → Known after candidate
  passed : ∀ passed ∈ before.passedRuns, passed ∈ after.passedRuns
  kept : PackagesKept written before after

/-- A step that writes no candidate. -/
structure Quiet (written : Option (String × Option String)) (before after : LearningStore) :
    Prop where
  candidates : after.candidates = before.candidates
  events : after.events = before.events
  passed : ∀ passed ∈ before.passedRuns, passed ∈ after.passedRuns
  eligible : PassedEligible before after
  kept : PackagesKept written before after

variable {host} {store next : LearningStore} {written : Option (String × Option String)}

theorem packages_kept_same (same : next.packages = store.packages) :
    PackagesKept none store next := by
  constructor
  · intro unique
    rw [same]
    exact unique
  · intro package mem
    rw [same] at mem
    exact Or.inl ⟨package, mem, rfl, rfl⟩

theorem quiet_same (candidates : next.candidates = store.candidates)
    (events : next.events = store.events) (passed : next.passedRuns = store.passedRuns)
    (packages : next.packages = store.packages) : Quiet none store next := by
  constructor
  · exact candidates
  · exact events
  · intro pair mem
    rw [passed]
    exact mem
  · intro pair mem
    rw [passed] at mem
    exact Or.inl mem
  · exact packages_kept_same packages

theorem quiet_frame (quiet : Quiet written store next) : Frame written store next := by
  constructor
  · intro candidate known
    rw [Known, quiet.candidates]
    exact known
  · exact quiet.passed
  · exact quiet.kept

theorem frame_made (frame : Frame written store next) {key candidateId : String}
    (free : ∀ pair ∈ written, pair.1 = key → pair.2 = some candidateId)
    (made : Made store key candidateId) : Made next key candidateId := by
  intro package mem same
  rcases frame.kept.packages package mem with ⟨old, oldMem, sameKey, sameMaker⟩ | new
  · rw [← sameMaker]
    exact made old oldMem (sameKey.trans same)
  · exact free _ new same

variable {ticket : LearningTicket} {upload : SkillUpload} {replaceExisting : Bool}
  {candidate : Candidate} {system : System LearningStore LearningTicket} {input : LearningInput}
  {later : Option LearningTicket}

theorem frame_ready (frame : Frame written store next)
    (free : ∀ pair ∈ written, ∀ held ∈ ticket.held, held.1 = pair.1 → pair.2 = some held.2)
    (ready : LearningReady store ticket) : LearningReady next ticket := by
  constructor
  · intro candidate mem
    exact frame.known candidate (ready.known candidate mem)
  · intro held mem
    apply frame_made frame _ (ready.made held mem)
    intro pair new same
    exact free pair new held mem same.symm
  · have checked := ready.checked
    cases ticket with
    | write candidate change =>
      cases change with
      | testPassed testRunId evidenceIds => exact ⟨checked.1, frame.passed _ checked.2⟩
      | _ => exact trivial
    | _ => exact checked

theorem quiet_inv (quiet : Quiet written store next) (inv : LearningInv store)
    (free : ∀ pair ∈ written, ∀ row ∈ store.candidates, row.state = .installed →
      row.installedKey = pair.1 → pair.2 = some row.id) : LearningInv next := by
  constructor
  · rw [quiet.candidates]
    exact inv.ids
  · exact quiet.kept.keys inv.keys
  · rw [quiet.candidates, quiet.events]
    exact inv.events
  · rw [quiet.candidates]
    intro row mem
    have sound := inv.rows row mem
    constructor
    · intro state
      obtain ⟨testRunId, evidenceIds, other, passed, event⟩ := sound.tested state
      refine ⟨testRunId, evidenceIds, other, quiet.passed _ passed, ?_⟩
      rw [quiet.events]
      exact event
    · intro state
      rw [Approved, quiet.events]
      exact sound.approved state
    · intro state
      rw [Unrejected, quiet.events]
      exact sound.unrejected state
    · intro state
      apply frame_made (quiet_frame quiet) _ (sound.made state)
      intro pair new same
      exact free pair new row mem state same.symm

theorem adopt_quiet (ownerId : String) : Quiet none store (store.adopt host ownerId) :=
  quiet_same rfl rfl rfl rfl

theorem put_keys (package : SkillPackage) (unique : UniqueKey SkillPackage.key store.packages) :
    UniqueKey SkillPackage.key (store.putPackage package).packages := by
  apply unique_key_append
  · exact (filter_sublist.map SkillPackage.key).nodup unique
  · simp

theorem put_kept (package : SkillPackage) :
    PackagesKept (some (package.key, package.maker)) store (store.putPackage package) := by
  constructor
  · exact put_keys package
  · intro other mem
    rcases mem_append.mp mem with old | new
    · exact Or.inl ⟨other, (mem_filter.mp old).1, rfl, rfl⟩
    · rw [mem_singleton.mp new]
      exact Or.inr rfl

theorem put_quiet (package : SkillPackage) (row : SkillInstallation) :
    Quiet (some (package.key, package.maker)) store
      ((store.putPackage package).upsertInstallation row) := by
  constructor
  · rfl
  · rfl
  · exact fun _ mem => mem
  · exact fun _ mem => Or.inl mem
  · exact ⟨(put_kept package).keys, (put_kept package).packages⟩

theorem put_only {package other : SkillPackage}
    (mem : other ∈ (store.putPackage package).packages) (same : other.key = package.key) :
    other = package := by
  rcases mem_append.mp mem with old | new
  · have apart := (mem_filter.mp old).2
    rw [decide_eq_true_eq] at apart
    exact absurd same apart
  · exact mem_singleton.mp new

theorem write_plan_reuse {target : String} (package : SkillPackage) :
    store.writePlan target upload replaceExisting ≠ .reuse package := by
  rw [LearningStore.writePlan]
  split
  · simp
  · split
    · simp
    · split <;> simp

theorem import_cases {ownerId : String} {maker : Option String} {package : SkillPackage}
    (taken : store.importPackage host ownerId upload replaceExisting maker = some (next, package)) :
    (store.importPlan host ownerId upload replaceExisting = .reuse package ∧
      package ∈ store.packages ∧ Quiet none store next) ∨
    (store.importPlan host ownerId upload replaceExisting = .write package.key ∧
      package.maker = maker ∧ Quiet (some (package.key, maker)) store next ∧
      ∀ other ∈ next.packages, other.key = package.key → other = package) := by
  rw [LearningStore.importPackage] at taken
  split at taken
  · next found plan =>
    cases taken
    refine Or.inl ⟨plan, ?_, quiet_same rfl rfl rfl rfl⟩
    rw [LearningStore.importPlan] at plan
    split at plan
    · next first =>
      cases plan
      have listed := mem_of_find?_eq_some first
      rwa [LearningStore.physicalPackages, sortLower, mem_insertionSort] at listed
    · exact absurd plan (write_plan_reuse package)
  · next key plan =>
    cases taken
    refine Or.inr ⟨plan, rfl, put_quiet _ _, ?_⟩
    intro other mem same
    exact put_only mem same
  · cases taken

theorem remove_spec {ownerId slug packageKey : String} {moved : Bool}
    (taken : store.removePackage ownerId slug packageKey moved = some next) :
    Quiet none store next ∧
      (∀ package ∈ store.packages, package ∉ next.packages → package.key = packageKey) ∧
      ∀ row ∈ store.installations, row.deleted = false →
        row ∈ next.installations ∨ (row.ownerId = ownerId ∧ row.slug = slug) := by
  rw [LearningStore.removePackage] at taken
  have installed {row : SkillInstallation} (mem : row ∈ store.installations)
      (active : row.deleted = false) :
      row ∈ updateWhere (fun row => row.ownerId = ownerId ∧ row.slug = slug ∧ row.deleted = false)
        (fun row => { row with enabled := false, deleted := true }) store.installations ∨
        (row.ownerId = ownerId ∧ row.slug = slug) := by
    by_cases own : row.ownerId = ownerId ∧ row.slug = slug
    · exact Or.inr own
    · apply Or.inl
      apply mem_update_of_not_chosen mem
      intro chosen
      exact own ⟨chosen.1, chosen.2.1⟩
  split at taken
  · cases taken
    split
    · refine ⟨⟨rfl, rfl, fun _ mem => mem, fun _ => Or.inl, ?_⟩, ?_, fun row => installed⟩
      · constructor
        · intro unique
          exact (filter_sublist.map SkillPackage.key).nodup unique
        · intro package mem
          exact Or.inl ⟨package, (mem_filter.mp mem).1, rfl, rfl⟩
      · intro package mem gone
        by_contra other
        exact gone (mem_filter.mpr ⟨mem, decide_eq_true other⟩)
    · exact ⟨quiet_same rfl rfl rfl rfl, fun package mem gone => absurd mem gone,
        fun row => installed⟩
  · cases taken

theorem candidate_known {candidateId ownerId : String}
    (found : store.candidate? candidateId ownerId = some candidate) :
    candidate ∈ store.candidates :=
  mem_of_find?_eq_some found

theorem known_of_mem (mem : candidate ∈ store.candidates) : Known store candidate :=
  ⟨candidate, mem, rfl, rfl, rfl⟩

theorem change_settled (change : CandidateChange) (state : CandidateState) :
    (change.accepts state = true ∨ state = change.state) ↔
      (change.state = state ∨ change.state ∈ state.next) := by
  cases change <;> cases state <;>
    simp [CandidateChange.accepts, CandidateChange.state, CandidateState.next]

section

variable {change : CandidateChange} {state : CandidateState}

theorem settled_test (settled : change.accepts state = true ∨ state = change.state)
    (later : change.state ∉ [.draft, .rejected]) (before : state ∈ [.draft, .rejected]) :
    ∃ testRunId evidenceIds, change = .testPassed testRunId evidenceIds := by
  cases change <;> cases state <;> simp_all [CandidateChange.accepts, CandidateChange.state]

theorem settled_approval (settled : change.accepts state = true ∨ state = change.state)
    (later : change.state ∈ [.approved, .installed, .rolledBack])
    (before : state ∉ [.approved, .installed, .rolledBack]) :
    ∃ contentHash accepted, change = .ownerApproved contentHash accepted := by
  cases change <;> cases state <;> simp_all [CandidateChange.accepts, CandidateChange.state]

theorem settled_unrejected (settled : change.accepts state = true ∨ state = change.state)
    (later : change.state ≠ .rejected) : state ≠ .rejected := by
  cases change <;> cases state <;> simp_all [CandidateChange.accepts, CandidateChange.state]

theorem not_rejection (later : change.state ≠ .rejected) :
    (CandidateAction.changed change).isRejection = false := by
  cases change <;> simp_all [CandidateChange.state, CandidateAction.isRejection]

theorem installs_of_state (later : change.state = .installed) :
    ∃ packageKey contentHash, change = .installed packageKey contentHash := by
  cases change <;> simp_all [CandidateChange.state]

end

theorem assign_columns (change : CandidateChange) (row : Candidate) :
    (change.assign row).id = row.id ∧ (change.assign row).ownerId = row.ownerId ∧
      (change.assign row).sourceRunId = row.sourceRunId ∧
      (change.assign row).state = change.state := by
  cases change <;> simp [CandidateChange.assign, CandidateChange.state]

theorem assign_id (change : CandidateChange) (row : Candidate) : (change.assign row).id = row.id :=
  (assign_columns change row).1

section

variable {candidate : Candidate} {change : CandidateChange}

variable {row : Candidate}

theorem mem_change (mem : row ∈ (store.change candidate change).candidates) :
    ∃ old ∈ store.candidates, (if old.id = candidate.id then change.assign old else old) = row :=
  mem_update_where.mp mem

theorem change_other (other : row.id ≠ candidate.id) (sound : row.Sound store) :
    row.Sound (store.change candidate change) := by
  constructor
  · intro state
    obtain ⟨testRunId, evidenceIds, apart, passed, event⟩ := sound.tested state
    exact ⟨testRunId, evidenceIds, apart, passed, mem_append_left _ event⟩
  · intro state
    obtain ⟨contentHash, accepted, event⟩ := sound.approved state
    exact ⟨contentHash, accepted, mem_append_left _ event⟩
  · intro state event mem same
    rcases mem_append.mp mem with old | new
    · exact sound.unrejected state event old same
    · rw [mem_singleton.mp new] at same
      exact absurd same.symm other
  · exact sound.made

theorem change_own (sound : row.Sound store) (own : row.id = candidate.id)
    (columns : row.ownerId = candidate.ownerId ∧ row.sourceRunId = candidate.sourceRunId)
    (ready : LearningReady store (.write candidate change))
    (settled : change.accepts row.state = true ∨ row.state = change.state) :
    (change.assign row).Sound (store.change candidate change) := by
  obtain ⟨id, owner, source, state⟩ := assign_columns change row
  have last : (⟨row.id, row.ownerId, .changed change⟩ : CandidateEvent) ∈
      (store.change candidate change).events := by
    rw [own, columns.1]
    exact mem_append_right _ (mem_singleton_self _)
  constructor
  · intro later
    rw [state] at later
    rw [Tested, id, owner, source]
    by_cases tests : row.state ∈ [.draft, .rejected]
    · obtain ⟨testRunId, evidenceIds, rfl⟩ := settled_test settled later tests
      obtain ⟨apart, passed⟩ := ready.checked
      rw [← columns.1] at passed
      rw [← columns.2] at apart
      exact ⟨testRunId, evidenceIds, apart, passed, last⟩
    · obtain ⟨testRunId, evidenceIds, apart, passed, event⟩ := sound.tested tests
      exact ⟨testRunId, evidenceIds, apart, passed, mem_append_left _ event⟩
  · intro later
    rw [state] at later
    rw [Approved, id, owner]
    by_cases approves : row.state ∈ [.approved, .installed, .rolledBack]
    · obtain ⟨contentHash, accepted, event⟩ := sound.approved approves
      exact ⟨contentHash, accepted, mem_append_left _ event⟩
    · obtain ⟨contentHash, accepted, rfl⟩ := settled_approval settled later approves
      exact ⟨contentHash, accepted, last⟩
  · intro later event mem same
    rw [state] at later
    rw [id] at same
    rcases mem_append.mp mem with old | new
    · exact sound.unrejected (settled_unrejected settled later) event old same
    · rw [mem_singleton.mp new]
      exact not_rejection later
  · intro later package mem same
    rw [state] at later
    rw [id]
    obtain ⟨packageKey, contentHash, rfl⟩ := installs_of_state later
    rw [own]
    exact ready.made (packageKey, candidate.id) rfl package mem same

theorem change_frame : Frame none store (store.change candidate change) := by
  constructor
  · intro other known
    obtain ⟨row, mem, id, owner, source⟩ := known
    by_cases own : row.id = candidate.id
    · obtain ⟨sameId, sameOwner, sameSource, _⟩ := assign_columns change row
      exact ⟨change.assign row, mem_update_of_chosen mem own, sameId.trans id,
        sameOwner.trans owner, sameSource.trans source⟩
    · exact ⟨row, mem_update_of_not_chosen mem own, id, owner, source⟩
  · exact fun _ mem => mem
  · exact packages_kept_same rfl

theorem change_inv (inv : LearningInv store) (ready : LearningReady store (.write candidate change))
    (inOrder : change.InOrder store candidate) :
    LearningInv (store.change candidate change) := by
  have sameIds : (store.change candidate change).candidates.map Candidate.id =
      store.candidates.map Candidate.id :=
    map_update_where Candidate.id (assign_id change)
  obtain ⟨known, knownMem, id, owner, source⟩ := ready.known candidate rfl
  constructor
  · rw [UniqueKey, sameIds]
    exact inv.ids
  · exact inv.keys
  · rw [sameIds]
    intro event mem
    rcases mem_append.mp mem with old | new
    · exact inv.events event old
    · rw [mem_singleton.mp new, ← id]
      exact List.mem_map_of_mem knownMem
  · intro row mem
    obtain ⟨old, oldMem, rfl⟩ := mem_change mem
    have sound := inv.rows old oldMem
    split
    · next own =>
      have same : old = known := unique_key_eq inv.ids oldMem knownMem (own.trans id.symm)
      subst same
      exact change_own sound own ⟨owner, source⟩ ready (inOrder old oldMem own)
    · next other => exact change_other other sound

theorem change_follows (inv : LearningInv store) :
    change.InOrder store candidate ↔ Follows store (store.change candidate change) := by
  constructor
  · intro inOrder
    constructor
    · intro row mem absent
      obtain ⟨old, oldMem, rfl⟩ := mem_change mem
      have sameId : (if old.id = candidate.id then change.assign old else old).id = old.id := by
        split
        · exact assign_id change old
        · rfl
      rw [sameId] at absent
      exact absurd (List.mem_map_of_mem oldMem) absent
    · intro old mem row later same
      obtain ⟨before, beforeMem, rfl⟩ := mem_change later
      split at same
      · next own =>
        rw [assign_id] at same
        have one := unique_key_eq inv.ids beforeMem mem same
        subst one
        rw [if_pos own, (assign_columns change before).2.2.2]
        exact (change_settled change before.state).mp (inOrder before mem own)
      · next other =>
        have one := unique_key_eq inv.ids beforeMem mem same
        subst one
        rw [if_neg other]
        exact Or.inl rfl
  · intro follows row mem own
    apply (change_settled change row.state).mpr
    have step := follows.changes row mem (change.assign row)
      (mem_update_of_chosen mem own) (assign_id change row)
    rwa [(assign_columns change row).2.2.2] at step

end

theorem drafted_state {draft : CandidateDraft}
    (drafted : store.draftCandidate host draft = some candidate) : candidate.state = .draft := by
  rw [LearningStore.draftCandidate, bind_eq_bind, bind_eq_some_iff] at drafted
  obtain ⟨evidence, _, rest⟩ := drafted
  rw [bind_eq_bind, bind_eq_some_iff] at rest
  obtain ⟨scope, _, rest⟩ := rest
  rw [← Option.some.inj (ite_none_left_eq_some.mp rest).2]

section

variable {row : Candidate} {event : CandidateEvent}

def LearningStore.add (store : LearningStore) (row : Candidate) (event : CandidateEvent) :
    LearningStore :=
  { store with candidates := store.candidates ++ [row], events := store.events ++ [event] }

theorem add_frame : Frame none store (store.add row event) := by
  constructor
  · intro candidate known
    obtain ⟨old, mem, columns⟩ := known
    exact ⟨old, mem_append_left _ mem, columns⟩
  · exact fun _ mem => mem
  · exact packages_kept_same rfl

theorem add_inv (inv : LearningInv store) (fresh : row.id ∉ store.candidates.map Candidate.id)
    (draft : row.state = .draft) (own : event.candidateId = row.id)
    (created : event.action.isRejection = false) : LearningInv (store.add row event) := by
  have ids : (store.add row event).candidates.map Candidate.id =
      store.candidates.map Candidate.id ++ [row.id] := by
    simp [LearningStore.add]
  constructor
  · rw [UniqueKey, ids, ← concat_eq_append]
    exact List.Nodup.concat fresh inv.ids
  · exact inv.keys
  · rw [ids]
    intro other mem
    rcases mem_append.mp mem with old | new
    · exact mem_append_left _ (inv.events other old)
    · rw [mem_singleton.mp new, own]
      exact mem_append_right _ (mem_singleton_self _)
  · intro other mem
    rcases mem_append.mp mem with old | new
    · have sound := inv.rows other old
      constructor
      · intro state
        obtain ⟨testRunId, evidenceIds, apart, passed, listed⟩ := sound.tested state
        exact ⟨testRunId, evidenceIds, apart, passed, mem_append_left _ listed⟩
      · intro state
        obtain ⟨contentHash, accepted, listed⟩ := sound.approved state
        exact ⟨contentHash, accepted, mem_append_left _ listed⟩
      · intro state later listed same
        rcases mem_append.mp listed with before | last
        · exact sound.unrejected state later before same
        · rw [mem_singleton.mp last]
          exact created
      · exact sound.made
    · rw [mem_singleton.mp new]
      constructor
      · intro state
        simp [draft] at state
      · intro state
        simp [draft] at state
      · intro _ later listed same
        rcases mem_append.mp listed with before | last
        · exact absurd (same ▸ inv.events later before) fresh
        · rw [mem_singleton.mp last]
          exact created
      · intro state
        rw [draft] at state
        cases state

theorem add_follows (inv : LearningInv store) (fresh : row.id ∉ store.candidates.map Candidate.id)
    (draft : row.state = .draft) : Follows store (store.add row event) := by
  constructor
  · intro other mem absent
    rcases mem_append.mp mem with old | new
    · exact absurd (List.mem_map_of_mem old) absent
    · rw [mem_singleton.mp new]
      exact draft
  · intro old mem other later same
    rcases mem_append.mp later with before | new
    · rw [unique_key_eq inv.ids before mem same]
      exact Or.inl rfl
    · rw [mem_singleton.mp new] at same
      exact absurd (same ▸ List.mem_map_of_mem mem) fresh

end

theorem quiet_follows (inv : LearningInv store) (quiet : Quiet written store next) :
    Follows store next := by
  constructor
  · intro row mem absent
    rw [quiet.candidates] at mem
    exact absurd (List.mem_map_of_mem mem) absent
  · intro old mem row later same
    rw [quiet.candidates] at later
    rw [unique_key_eq inv.ids later mem same]
    exact Or.inl rfl

section

variable {later : Option LearningTicket} {ticket : LearningTicket} {input : LearningInput}

variable {candidate : Candidate} {system : System LearningStore LearningTicket}
  {request : LearningRequest} {package : SkillPackage}

theorem ready_of_known (read : ticket.candidate? = some candidate) (known : Known store candidate)
    (holds : ticket.held = none) (checked : ticket.Checked store) :
    LearningReady store ticket := by
  constructor
  · intro other mem
    rw [read] at mem
    rw [← Option.some.inj mem]
    exact known
  · intro held mem
    rw [holds] at mem
    cases mem
  · exact checked

theorem free_none :
    ∀ pair ∈ (none : Option (String × Option String)), Free system pair.1 pair.2 := by
  intro pair mem
  cases mem

theorem call_quiet (taken : callLearning host store request = some (next, later)) :
    ∃ written, Quiet written store next ∧
      ∀ system : System LearningStore LearningTicket, system.data = store →
        PackagesInOrder host system (.call request) →
          ∀ pair ∈ written, Free system pair.1 pair.2 := by
  have same : ∃ written, Quiet written store store ∧
      ∀ system : System LearningStore LearningTicket, system.data = store →
        PackagesInOrder host system (.call request) → ∀ pair ∈ written, Free system pair.1 pair.2 :=
    ⟨none, quiet_same rfl rfl rfl rfl, fun _ _ _ => free_none⟩
  cases request with
  | createCandidate draft | recordTest candidateId ownerId testRunId
  | approve candidateId ownerId acceptWarnings | reject candidateId ownerId reason
  | installLocal candidateId ownerId | rollbackLocal candidateId ownerId =>
    cases taken
    exact same
  | importFiles ownerId upload replaceExisting =>
    cases taken
    cases imported : store.importPackage host ownerId upload replaceExisting none with
    | none => exact same
    | some result =>
      obtain ⟨after, package⟩ := result
      rcases import_cases imported with ⟨_, _, quiet⟩ | ⟨plan, _, quiet, _⟩
      · exact ⟨none, quiet, fun _ _ _ => free_none⟩
      · refine ⟨_, quiet, ?_⟩
        intro system is inOrder pair mem
        rw [PackagesInOrder, is, plan] at inOrder
        rw [← Option.some.inj mem]
        exact inOrder
  | installHub ownerId slug name metaHash contentHash =>
    rw [callLearning] at taken
    split at taken
    · cases taken
      exact ⟨none, quiet_same rfl rfl rfl rfl, fun _ _ _ => free_none⟩
    · next absent =>
      cases taken
      refine ⟨_, put_quiet _ _, ?_⟩
      intro system is inOrder pair mem
      rw [← Option.some.inj mem]
      rw [← is] at absent
      exact inOrder absent
  | updateSkill ownerId key name contentHash | uninstall ownerId key =>
    cases taken
    exact ⟨none, adopt_quiet ownerId, fun _ _ _ => free_none⟩
  | otherWork runs artifacts projectSkills =>
    cases taken
    exact ⟨none, quiet_same rfl rfl rfl rfl, fun _ _ _ => free_none⟩

theorem call_later (inv : LearningInv store)
    (taken : callLearning host store request = some (next, later)) :
    ∀ own ∈ later, LearningReady next own := by
  cases request with
  | createCandidate draft =>
    cases taken
    intro own mem
    obtain ⟨candidate, drafted, rfl⟩ := map_eq_some_iff.mp mem
    constructor
    · intro other read
      cases read
    · intro held holds
      cases holds
    · exact drafted_state drafted
  | recordTest candidateId ownerId testRunId =>
    cases taken
    intro own mem
    split at mem
    · next candidate found =>
      rw [← Option.some.inj (ite_none_right_eq_some.mp mem).2]
      exact ready_of_known rfl (known_of_mem (candidate_known found)) rfl trivial
    · cases mem
  | approve candidateId ownerId acceptWarnings =>
    cases taken
    intro own mem
    split at mem
    · next candidate found =>
      rw [← Option.some.inj (ite_none_right_eq_some.mp mem).2]
      exact ready_of_known rfl (known_of_mem (candidate_known found)) rfl trivial
    · cases mem
  | reject candidateId ownerId reason =>
    cases taken
    intro own mem
    split at mem
    · next candidate found =>
      rw [← Option.some.inj (ite_none_left_eq_some.mp mem).2]
      exact ready_of_known rfl (known_of_mem (candidate_known found)) rfl trivial
    · cases mem
  | installLocal candidateId ownerId =>
    cases taken
    intro own mem
    split at mem
    · next candidate found =>
      rw [← Option.some.inj (ite_none_right_eq_some.mp mem).2]
      exact ready_of_known rfl (known_of_mem (candidate_known found)) rfl trivial
    · cases mem
  | rollbackLocal candidateId ownerId =>
    cases taken
    intro own mem
    split at mem
    · next candidate found =>
      obtain ⟨⟨installed, _⟩, same⟩ := ite_none_right_eq_some.mp mem
      rw [← Option.some.inj same]
      constructor
      · intro other read
        rw [← Option.some.inj read]
        exact known_of_mem (candidate_known found)
      · intro held holds
        rw [← Option.some.inj holds]
        exact (inv.rows candidate (candidate_known found)).made installed
      · exact trivial
    · cases mem
  | updateSkill ownerId key name contentHash =>
    cases taken
    intro own mem
    split at mem
    · rw [← Option.some.inj (ite_none_left_eq_some.mp mem).2]
      constructor
      · intro other read
        cases read
      · intro held holds
        cases holds
      · exact trivial
    · cases mem
  | uninstall ownerId key =>
    cases taken
    intro own mem
    obtain ⟨package, _, rfl⟩ := map_eq_some_iff.mp mem
    constructor
    · intro other read
      cases read
    · intro held holds
      cases holds
    · exact trivial
  | importFiles ownerId upload replaceExisting =>
    cases taken
    intro own mem
    cases mem
  | installHub ownerId slug name metaHash contentHash =>
    rw [callLearning] at taken
    split at taken
    · cases taken
      intro own mem
      cases mem
    · cases taken
      intro own mem
      cases mem
  | otherWork runs artifacts projectSkills =>
    cases taken
    intro own mem
    cases mem

theorem resume_quiet (inserts : ∀ candidate, ticket ≠ .insert candidate)
    (writes : ∀ candidate change, ticket ≠ .write candidate change)
    (taken : resumeLearning host store ticket input = some (next, later)) :
    ∃ written, Quiet written store next ∧
      ∀ system : System LearningStore LearningTicket, system.data = store →
        ticket.InOrder host system → ∀ pair ∈ written, Free system pair.1 pair.2 := by
  have same : ∃ written, Quiet written store store ∧
      ∀ system : System LearningStore LearningTicket, system.data = store →
        ticket.InOrder host system → ∀ pair ∈ written, Free system pair.1 pair.2 :=
    ⟨none, quiet_same rfl rfl rfl rfl, fun _ _ _ => free_none⟩
  cases ticket with
  | insert candidate => exact absurd rfl (inserts candidate)
  | write candidate change => exact absurd rfl (writes candidate change)
  | testing candidate testRunId =>
    replace taken : checkTest host store candidate testRunId = some (next, later) := taken
    rw [checkTest] at taken
    split at taken
    · cases taken
      exact same
    · split at taken
      · next evidence eligible =>
        cases taken
        refine ⟨none, ?_, fun _ _ _ => free_none⟩
        constructor
        · rfl
        · rfl
        · exact fun _ mem => mem_cons_of_mem _ mem
        · intro passed mem
          rcases mem_cons.mp mem with rfl | old
          · exact Or.inr (by rw [eligible]; rfl)
          · exact Or.inl old
        · exact packages_kept_same rfl
      · cases taken
        exact same
  | approving candidate acceptWarnings =>
    cases taken
    exact same
  | installing candidate =>
    replace taken : checkInstall host store candidate = some (next, later) := taken
    rw [checkInstall] at taken
    split at taken
    · cases taken
      exact same
    · obtain ⟨rfl, rfl⟩ := Prod.mk.inj (Option.some.inj taken)
      exact ⟨none, adopt_quiet candidate.ownerId, fun _ _ _ => free_none⟩
  | creating candidate =>
    replace taken : createPackage host store candidate = some (next, later) := taken
    rw [createPackage] at taken
    split at taken
    · next after package made =>
      cases taken
      obtain ⟨upload, uploaded, imported⟩ := bind_eq_some_iff.mp made
      rcases import_cases imported with ⟨_, _, quiet⟩ | ⟨plan, _, quiet, _⟩
      · exact ⟨none, quiet, fun _ _ _ => free_none⟩
      · refine ⟨_, quiet, ?_⟩
        intro system is inOrder pair mem
        have free := (inOrder upload uploaded).1
        rw [is, plan] at free
        rw [← Option.some.inj mem]
        exact free
    · cases taken
      exact same
  | rollingBack candidate =>
    cases taken
    exact ⟨none, adopt_quiet candidate.ownerId, fun _ _ _ => free_none⟩
  | removing candidate slug packageKey =>
    replace taken : removeInstalled store candidate slug packageKey input.moved =
      some (next, later) := taken
    rw [removeInstalled] at taken
    split at taken
    · next removed =>
      cases taken
      exact ⟨none, (remove_spec removed).1, fun _ _ _ => free_none⟩
    · cases taken
      exact same
  | editing ownerId key slug name contentHash =>
    replace taken : writeEdit store ownerId key slug name contentHash = some (next, later) := taken
    rw [writeEdit] at taken
    split at taken
    · cases taken
      exact same
    · cases taken
      refine ⟨none, ?_, fun _ _ _ => free_none⟩
      constructor
      · rfl
      · rfl
      · exact fun _ mem => mem
      · exact fun _ mem => Or.inl mem
      · constructor
        · intro unique
          exact unique_key_update (fun _ => rfl) unique
        · intro package mem
          obtain ⟨old, oldMem, rfl⟩ := mem_update_where.mp mem
          refine Or.inl ⟨old, oldMem, ?_⟩
          split
          · exact ⟨rfl, rfl⟩
          · exact ⟨rfl, rfl⟩
  | uninstalling ownerId slug packageKey =>
    cases taken
    cases removed : store.removePackage ownerId slug packageKey input.moved with
    | none => exact same
    | some after => exact ⟨none, (remove_spec removed).1, fun _ _ _ => free_none⟩

theorem resume_later (inv : LearningInv store) (ready : LearningReady store ticket)
    (is : system.data = store) (inOrder : ticket.InOrder host system)
    (taken : resumeLearning host store ticket input = some (next, later)) :
    ∀ own ∈ later, LearningReady next own := by
  cases ticket with
  | insert candidate =>
    replace taken : insertCandidate store candidate input.drawn = some (next, later) := taken
    rw [insertCandidate] at taken
    split at taken
    · cases taken
    · cases taken
      intro own mem
      cases mem
  | testing candidate testRunId =>
    have known := ready.known candidate rfl
    replace taken : checkTest host store candidate testRunId = some (next, later) := taken
    rw [checkTest] at taken
    split at taken
    · cases taken
      intro own mem
      cases mem
    · next fresh =>
      split at taken
      · next evidence eligible =>
        cases taken
        intro own mem
        rw [← Option.some.inj mem]
        exact ready_of_known rfl known rfl ⟨fun same => fresh (Or.inr same), mem_cons_self⟩
      · cases taken
        intro own mem
        cases mem
  | approving candidate acceptWarnings =>
    cases taken
    intro own mem
    rw [mem_def, checkApproval] at mem
    rw [← Option.some.inj (ite_none_left_eq_some.mp mem).2]
    exact ready_of_known rfl (ready.known candidate rfl) rfl trivial
  | installing candidate =>
    replace taken : checkInstall host store candidate = some (next, later) := taken
    rw [checkInstall] at taken
    split at taken
    · cases taken
      intro own mem
      cases mem
    · obtain ⟨rfl, rfl⟩ := Prod.mk.inj (Option.some.inj taken)
      intro own mem
      rw [← Option.some.inj (ite_none_left_eq_some.mp mem).2]
      exact ready_of_known rfl (ready.known candidate rfl) rfl trivial
  | creating candidate =>
    have known := ready.known candidate rfl
    replace taken : createPackage host store candidate = some (next, later) := taken
    rw [createPackage] at taken
    split at taken
    · next after package made =>
      cases taken
      obtain ⟨upload, uploaded, imported⟩ := bind_eq_some_iff.mp made
      have own := (inOrder upload uploaded).2
      rw [is] at own
      intro ticket mem
      rw [← Option.some.inj mem]
      have whole : Known next candidate ∧ Made next package.key candidate.id := by
        rcases import_cases imported with ⟨plan, listed, quiet⟩ | ⟨_, maker, quiet, only⟩
        · refine ⟨(quiet_frame quiet).known candidate known, ?_⟩
          rw [plan] at own
          apply frame_made (quiet_frame quiet)
          · intro pair none
            cases none
          · intro other otherMem same
            rw [unique_key_eq inv.keys otherMem listed same]
            exact own
        · refine ⟨(quiet_frame quiet).known candidate known, ?_⟩
          intro other otherMem same
          rw [only other otherMem same]
          exact maker
      constructor
      · intro other read
        rw [← Option.some.inj read]
        exact whole.1
      · intro held holds
        rw [← Option.some.inj holds]
        exact whole.2
      · exact trivial
    · cases taken
      intro own mem
      cases mem
  | rollingBack candidate =>
    cases taken
    intro own mem
    obtain ⟨package, found, rfl⟩ := map_eq_some_iff.mp mem
    constructor
    · intro other read
      rw [← Option.some.inj read]
      exact ready.known candidate rfl
    · intro held holds
      rw [← Option.some.inj holds]
      exact ready.made (candidate.installedKey, candidate.id) rfl
    · rw [← is] at found
      exact inOrder package found
  | removing candidate slug packageKey =>
    replace taken : removeInstalled store candidate slug packageKey input.moved =
      some (next, later) := taken
    rw [removeInstalled] at taken
    split at taken
    · next removed =>
      cases taken
      intro own mem
      rw [← Option.some.inj mem]
      exact ready_of_known rfl
        ((quiet_frame (remove_spec removed).1).known candidate (ready.known candidate rfl))
        rfl trivial
    · cases taken
      intro own mem
      cases mem
  | write candidate change | uninstalling ownerId slug packageKey =>
    cases taken
    intro own mem
    cases mem
  | editing ownerId key slug name contentHash =>
    replace taken : writeEdit store ownerId key slug name contentHash = some (next, later) := taken
    rw [writeEdit] at taken
    split at taken
    · cases taken
      intro own mem
      cases mem
    · cases taken
      intro own mem
      cases mem

theorem kept_not_removed {ownerId : String} (packages : next.packages = store.packages)
    (installations : ∀ row ∈ store.installations, row ∈ next.installations)
    (removed : Removed store next ownerId package) : False := by
  obtain ⟨listed, gone | ⟨⟨row, mem, uses⟩, unused⟩⟩ := removed
  · rw [packages] at gone
    exact gone listed
  · exact unused ⟨row, installations row mem, uses⟩

theorem rollback_own (ready : LearningReady store ticket) (is : system.data = store)
    (inOrder : ticket.InOrder host system)
    (taken : resumeLearning host store ticket input = some (next, later))
    (rollback : ticket.rollback = some candidate)
    (removed : Removed store next candidate.ownerId package) :
    package.maker = some candidate.id := by
  cases ticket with
  | rollingBack other =>
    cases rollback
    cases taken
    have packages : (store.adopt host candidate.ownerId).packages = store.packages := rfl
    exact (kept_not_removed packages (fun row => mem_append_left _) removed).elim
  | removing other slug packageKey =>
    cases rollback
    have made : Made store candidate.installedKey candidate.id :=
      ready.made (candidate.installedKey, candidate.id) rfl
    have key : packageKey = candidate.installedKey := ready.checked
    replace taken : removeInstalled store candidate slug packageKey input.moved =
      some (next, later) := taken
    rw [removeInstalled] at taken
    split at taken
    · next removal =>
      cases taken
      obtain ⟨_, directory, installed⟩ := remove_spec removal
      obtain ⟨listed, gone | ⟨⟨row, mem, own, active, same⟩, unused⟩⟩ := removed
      · exact made package listed ((directory package listed gone).trans key)
      · rcases installed row mem active with kept | ⟨_, named⟩
        · exact absurd ⟨row, kept, own, active, same⟩ unused
        · rw [← is] at mem
          exact made package listed (same.symm.trans (inOrder row mem own named active))
    · cases taken
      exact (kept_not_removed rfl (fun _ => id) removed).elim
  | write other change =>
    cases taken
    exact (kept_not_removed rfl (fun _ => id) removed).elim
  | _ => cases rollback

end

theorem resume_keeps {index : Nat} (inv : LearningInv system.data)
    (ready : LearningReady system.data ticket) (rows : ticket.RowInOrder system.data)
    (inOrder : ticket.InOrder host system)
    (taken : resumeLearning host system.data ticket input = some (next, later)) :
    LearningInv next ∧ ∀ other ∈ system.pending.eraseIdx index,
      LearningReady system.data other → LearningReady next other := by
  have others (frame : Frame none system.data next) : ∀ other ∈ system.pending.eraseIdx index,
      LearningReady system.data other → LearningReady next other := by
    intro other _ held
    apply frame_ready frame _ held
    intro pair none
    cases none
  by_cases inserts : ∃ candidate, ticket = .insert candidate
  · obtain ⟨candidate, rfl⟩ := inserts
    replace taken : insertCandidate system.data candidate input.drawn = some (next, later) := taken
    rw [insertCandidate] at taken
    split at taken
    · cases taken
    · next fresh =>
      cases taken
      exact ⟨add_inv inv fresh ready.checked rfl rfl, others add_frame⟩
  by_cases writes : ∃ candidate change, ticket = .write candidate change
  · obtain ⟨candidate, change, rfl⟩ := writes
    cases taken
    exact ⟨change_inv inv ready rows, others change_frame⟩
  · obtain ⟨written, quiet, free⟩ := resume_quiet (fun candidate same => inserts ⟨candidate, same⟩)
      (fun candidate change same => writes ⟨candidate, change, same⟩) taken
    have allowed := free system rfl inOrder
    constructor
    · apply quiet_inv quiet inv
      intro pair mem row listed state key
      exact (allowed pair mem).1 row listed state key
    · intro other mem
      apply frame_ready (quiet_frame quiet)
      intro pair new held holds same
      exact (allowed pair new).2 other (mem_of_mem_eraseIdx mem) held holds same

theorem resume_follows (inv : LearningInv store) (ready : LearningReady store ticket)
    (taken : resumeLearning host store ticket input = some (next, later)) :
    (ticket.RowInOrder store ↔ Follows store next) ∧ PassedEligible store next := by
  by_cases inserts : ∃ candidate, ticket = .insert candidate
  · obtain ⟨candidate, rfl⟩ := inserts
    replace taken : insertCandidate store candidate input.drawn = some (next, later) := taken
    rw [insertCandidate] at taken
    split at taken
    · cases taken
    · next fresh =>
      cases taken
      exact ⟨iff_of_true trivial (add_follows inv fresh ready.checked), fun _ => Or.inl⟩
  by_cases writes : ∃ candidate change, ticket = .write candidate change
  · obtain ⟨candidate, change, rfl⟩ := writes
    cases taken
    exact ⟨change_follows inv, fun _ => Or.inl⟩
  · obtain ⟨written, quiet, _⟩ := resume_quiet (fun candidate same => inserts ⟨candidate, same⟩)
      (fun candidate change same => writes ⟨candidate, change, same⟩) taken
    have ordered : ticket.RowInOrder store := by
      cases ticket with
      | write candidate change => exact absurd ⟨candidate, change, rfl⟩ writes
      | _ => exact trivial
    exact ⟨iff_of_true ordered (quiet_follows inv quiet), quiet.eligible⟩

theorem learning_keeps : Keeps (learningRoutine host) (InOrder host) LearningInv LearningReady := by
  constructor
  · intro system request data ticket inv inOrder taken
    obtain ⟨written, quiet, free⟩ := call_quiet taken
    have allowed := free system rfl inOrder.2
    refine ⟨?_, call_later inv taken, ?_⟩
    · apply quiet_inv quiet inv
      intro pair mem row listed state key
      exact (allowed pair mem).1 row listed state key
    · intro other mem
      apply frame_ready (quiet_frame quiet)
      intro pair new held holds same
      exact (allowed pair new).2 other mem held holds same
  · intro system index input ticket data later inv ready inOrder found taken
    have packages := inOrder.2 ticket found
    obtain ⟨next, others⟩ := resume_keeps inv ready (inOrder.1 ticket found) packages taken
    exact ⟨next, resume_later inv ready rfl packages taken, others⟩

structure LearningStart (store : LearningStore) : Prop where
  candidates : store.candidates = []
  events : store.events = []
  keys : UniqueKey SkillPackage.key store.packages
  others : ∀ package ∈ store.packages, package.maker = none

theorem start_inv (start : LearningStart store) : LearningInv store := by
  constructor
  · rw [UniqueKey, start.candidates]
    exact nodup_nil
  · exact start.keys
  · rw [start.events]
    intro event mem
    cases mem
  · rw [start.candidates]
    intro row mem
    cases mem

def learningMachine (host : LearningHost) :
    Machine (System LearningStore LearningTicket) (Event LearningRequest LearningInput) :=
  (learningRoutine host).machine LearningStart

theorem learning_holds (reachable : (learningMachine host).Reachable (InOrder host) system) :
    Holds LearningInv LearningReady system :=
  reachable_holds learning_keeps (fun _ => start_inv) reachable

theorem inv_warranted (inv : LearningInv store) : Warranted store := by
  intro row mem state
  have sound := inv.rows row mem
  refine ⟨sound.tested ?_, sound.approved ?_, sound.unrejected ?_⟩
  · simp [state]
  · simp [state]
  · simp [state]

/-- In every run in order only tested, approved and never rejected candidates are installed. There
a step follows the lifecycle exactly if the row that it writes is in order, a Run counts as passed
only when it is eligible, and a rollback removes no package but that of its candidate. -/
theorem candidate_lifecycle (host : LearningHost) :
    (∀ system, (learningMachine host).Reachable (InOrder host) system → Warranted system.data) ∧
    ∀ system event after, (learningMachine host).Reachable (InOrder host) system →
      (learningMachine host).Step system event after →
        (RowsInOrder system event ↔ Follows system.data after.data) ∧
        PassedEligible system.data after.data ∧
        (PackagesInOrder host system event → OwnRemoved system after event) := by
  constructor
  · intro system reachable
    exact inv_warranted (learning_holds reachable).data
  · intro system event after reachable step
    have holds := learning_holds reachable
    have inv := holds.data
    cases next_move step with
    | call request data ticket taken =>
      obtain ⟨written, quiet, _⟩ := call_quiet taken
      exact ⟨iff_of_true trivial (quiet_follows inv quiet), quiet.eligible, fun _ => trivial⟩
    | crash index =>
      have quiet : Quiet none system.data system.data := quiet_same rfl rfl rfl rfl
      exact ⟨iff_of_true trivial (quiet_follows inv quiet), quiet.eligible, fun _ => trivial⟩
    | resume index input ticket data later found taken =>
      have ready := holds.pending ticket (mem_of_getElem? found)
      obtain ⟨follows, eligible⟩ := resume_follows inv ready taken
      have one : (∀ own ∈ system.pending[index]?, own.RowInOrder system.data) ↔
          ticket.RowInOrder system.data := by
        rw [found]
        simp
      refine ⟨one.trans follows, eligible, ?_⟩
      intro packages other same candidate rollback package removed
      rw [mem_def, found] at same
      cases same
      exact rollback_own ready rfl (packages ticket found) taken rollback removed

end

instance (store : LearningStore) (candidate : Candidate) (change : CandidateChange) :
    Decidable (change.InOrder store candidate) :=
  inferInstanceAs (Decidable (∀ row ∈ store.candidates, _))

instance (store : LearningStore) (ticket : LearningTicket) : Decidable (ticket.RowInOrder store) :=
  match ticket with
  | .write candidate change => inferInstanceAs (Decidable (change.InOrder store candidate))
  | .insert _ | .testing _ _ | .approving _ _ | .installing _ | .creating _ | .rollingBack _
  | .removing _ _ _ | .editing _ _ _ _ _ | .uninstalling _ _ _ => inferInstanceAs (Decidable True)

instance (system : System LearningStore LearningTicket)
    (event : Event LearningRequest LearningInput) : Decidable (RowsInOrder system event) :=
  match event with
  | .resume index _ =>
    inferInstanceAs (Decidable (∀ ticket ∈ system.pending[index]?, _))
  | .call _ | .crash _ => inferInstanceAs (Decidable True)

instance (system : System LearningStore LearningTicket) (key : String) (maker : Option String) :
    Decidable (Free system key maker) :=
  inferInstanceAs (Decidable ((∀ row ∈ system.data.candidates, _) ∧ ∀ ticket ∈ system.pending,
    ∀ held ∈ ticket.held, _))

instance (system : System LearningStore LearningTicket) (maker : Option String)
    (plan : ImportPlan) : Decidable (plan.InOrder system maker) :=
  match plan with
  | .write key => inferInstanceAs (Decidable (Free system key maker))
  | .reuse _ | .refuse => inferInstanceAs (Decidable True)

instance (candidateId : String) (plan : ImportPlan) : Decidable (plan.Own candidateId) :=
  match plan with
  | .reuse package => inferInstanceAs (Decidable (package.maker = some candidateId))
  | .write _ | .refuse => inferInstanceAs (Decidable True)

instance (host : LearningHost) (system : System LearningStore LearningTicket)
    (ticket : LearningTicket) : Decidable (ticket.InOrder host system) :=
  match ticket with
  | .creating candidate =>
    inferInstanceAs (Decidable (∀ upload ∈ candidate.upload host,
      (system.data.importPlan host candidate.ownerId upload false).InOrder system
        (some candidate.id) ∧
      (system.data.importPlan host candidate.ownerId upload false).Own candidate.id))
  | .rollingBack _ => inferInstanceAs (Decidable (∀ package ∈ LearningStore.named _ _ _ _, _))
  | .removing _ _ _ => inferInstanceAs (Decidable (∀ row ∈ system.data.installations, _))
  | .insert _ | .testing _ _ | .approving _ _ | .installing _ | .write _ _ | .editing _ _ _ _ _
  | .uninstalling _ _ _ => inferInstanceAs (Decidable True)

instance (host : LearningHost) (system : System LearningStore LearningTicket)
    (event : Event LearningRequest LearningInput) : Decidable (PackagesInOrder host system event) :=
  match event with
  | .call (.importFiles _ _ _) => inferInstanceAs (Decidable (ImportPlan.InOrder _ _ _))
  | .call (.installHub _ slug _ _ _) =>
    inferInstanceAs (Decidable (system.data.package? slug = none → Free system slug none))
  | .resume index _ => inferInstanceAs (Decidable (∀ ticket ∈ system.pending[index]?, _))
  | .crash _ | .call (.createCandidate _) | .call (.recordTest _ _ _) | .call (.approve _ _ _)
  | .call (.reject _ _ _) | .call (.installLocal _ _) | .call (.rollbackLocal _ _)
  | .call (.updateSkill _ _ _ _) | .call (.uninstall _ _) | .call (.otherWork _ _ _) =>
    inferInstanceAs (Decidable True)

instance (host : LearningHost) (system : System LearningStore LearningTicket)
    (event : Event LearningRequest LearningInput) : Decidable (InOrder host system event) :=
  inferInstanceAs (Decidable (RowsInOrder system event ∧ PackagesInOrder host system event))

/-- Case folding on ASCII, the digests of the texts that the runs have, and a scan that finds
nothing. -/
def sampleLearningHost : LearningHost where
  lower text := String.ofList (text.toList.map Char.toLower)
  sha256 text :=
    if text =
        "\x7b\"description\":\"d\",\"instructions\":\"i\",\"name\":\"W\",\"tools\":[]\x7d" then
      "4d6eb7be4eb0fc5a5cb73eea3d1ff007e73957d3e0df995c74c51cdbc390a083"
    else if text = "SKILL.md\x00---\nname: \"W\"\nslug: s\ndescription: \"d\"\n---\n\ni\n" then
      "0a904d752a769babbcd17c238def35e5ede78fe767399f9d52aa5cee982f3105"
    else "unlisted:" ++ text
  floats := ratioFloats
  bindableTools := []
  scanMarkdown _ trustLevel := ⟨.safe, trustLevel⟩

def sampleLearning : LearningStore where
  runs := [⟨"r1", "u", .completed⟩, ⟨"r2", "u", .completed⟩]
  artifacts := [⟨"a1", "r1", "u", "p", "h", .null, "passed", .accepted⟩,
    ⟨"a2", "r2", "u", "p", "h", .null, "passed", .accepted⟩]
  projectSkills := []
  candidates := []
  events := []
  packages := []
  installations := []
  passedRuns := []

theorem sample_learning_start : LearningStart sampleLearning :=
  ⟨rfl, rfl, nodup_nil, forall_mem_nil _⟩

def stepFirst (drawn : String) : Event LearningRequest LearningInput := .resume 0 ⟨drawn, true⟩

def approvedCandidate : List (Event LearningRequest LearningInput) :=
  [.call (.createCandidate ⟨"u", "r1", "local", "s", "W", "d", "i", []⟩), stepFirst "c",
    .call (.recordTest "c" "u" "r2"), stepFirst "", stepFirst "",
    .call (.approve "c" "u" false), stepFirst "", stepFirst ""]

def installedCandidate : List (Event LearningRequest LearningInput) :=
  approvedCandidate ++ [.call (.installLocal "c" "u"), stepFirst "", stepFirst "", stepFirst ""]

def rejectedInstall : List (Event LearningRequest LearningInput) :=
  approvedCandidate ++ [.call (.installLocal "c" "u"), stepFirst "", stepFirst "",
    .call (.reject "c" "u" ""), .resume 1 ⟨"", true⟩]

def namedLikeKey : List (Event LearningRequest LearningInput) :=
  installedCandidate ++ [.call (.importFiles "u" ⟨"t", "s", "local", "", "x"⟩ false),
    .call (.rollbackLocal "c" "u"), stepFirst ""]

def learningRun
    (guard : System LearningStore LearningTicket → Event LearningRequest LearningInput → Bool)
    (check : System LearningStore LearningTicket → Bool)
    (events : List (Event LearningRequest LearningInput)) : Option Bool :=
  ((learningRoutine sampleLearningHost).run guard sampleLearning events).map check

theorem learning_run_reachable
    {guard : System LearningStore LearningTicket → Event LearningRequest LearningInput → Bool}
    {check : System LearningStore LearningTicket → Bool}
    {events : List (Event LearningRequest LearningInput)} {found : Bool}
    (ran : learningRun guard check events = some found) :
    ∃ system, (learningMachine sampleLearningHost).Reachable
      (fun system event => guard system event = true) system ∧ check system = found := by
  obtain ⟨system, finished, checked⟩ := map_eq_some_iff.mp ran
  exact ⟨system, run_reachable guard sample_learning_start finished, checked⟩

def nextCheck (check : System LearningStore LearningTicket → System LearningStore LearningTicket →
    Bool) (system : System LearningStore LearningTicket) : Bool :=
  ((learningRoutine sampleLearningHost).next system (stepFirst "")).any (check system)

theorem next_check {check : System LearningStore LearningTicket →
    System LearningStore LearningTicket → Bool} {system : System LearningStore LearningTicket}
    (found : nextCheck check system = true) :
    ∃ after, (learningMachine sampleLearningHost).Step system (stepFirst "") after ∧
      check system after = true := by
  rw [nextCheck] at found
  cases taken : (learningRoutine sampleLearningHost).next system (stepFirst "") with
  | none =>
    rw [taken] at found
    cases found
  | some after =>
    rw [taken] at found
    exact ⟨after, taken, found⟩

def installsRejected (system after : System LearningStore LearningTicket) : Bool :=
  system.data.candidates.any fun old => after.data.candidates.any fun row =>
    row.id = old.id && old.state = .rejected && row.state = .installed &&
      after.data.events.any fun event => event.candidateId = row.id && event.action.isRejection

def removesOther (system after : System LearningStore LearningTicket) : Bool :=
  ((system.pending[0]?).bind LearningTicket.rollback).isSome &&
    system.data.packages.any fun package =>
      package.maker = none && package ∉ after.data.packages

theorem candidate_lifecycle_broken :
    (∃ system event after, (learningMachine sampleLearningHost).Reachable Anything system ∧
      (learningMachine sampleLearningHost).Step system event after ∧
      ¬Follows system.data after.data ∧ ¬Warranted after.data) ∧
    ∃ system event after, (learningMachine sampleLearningHost).Reachable Anything system ∧
      (learningMachine sampleLearningHost).Step system event after ∧
      ¬OwnRemoved system after event := by
  have rejected : learningRun (fun _ _ => true) (nextCheck installsRejected) rejectedInstall =
      some true := by
    decide +kernel
  have other : learningRun (fun _ _ => true) (nextCheck removesOther) namedLikeKey = some true := by
    decide +kernel
  constructor
  · obtain ⟨system, reachable, checked⟩ := learning_run_reachable rejected
    obtain ⟨after, step, found⟩ := next_check checked
    refine ⟨system, _, after, reachable_weaken (fun _ _ _ => trivial) reachable, step, ?_⟩
    simp only [installsRejected, List.any_eq_true, Bool.and_eq_true, decide_eq_true_eq] at found
    obtain ⟨old, mem, row, later, ⟨⟨same, before⟩, installed⟩, event, listed, own, rejects⟩ :=
      found
    constructor
    · intro follows
      have change := follows.changes old mem row later same
      rw [before, installed] at change
      simp [CandidateState.next] at change
    · intro warranted
      have unrejected := (warranted row later installed).2.2 event listed own
      rw [rejects] at unrejected
      cases unrejected
  · obtain ⟨system, reachable, checked⟩ := learning_run_reachable other
    obtain ⟨after, step, found⟩ := next_check checked
    refine ⟨system, _, after, reachable_weaken (fun _ _ _ => trivial) reachable, step, ?_⟩
    simp only [removesOther, List.any_eq_true, Bool.and_eq_true, decide_eq_true_eq] at found
    obtain ⟨pending, package, listed, unmade, gone⟩ := found
    obtain ⟨candidate, rolls⟩ := isSome_iff_exists.mp pending
    obtain ⟨ticket, first, rollback⟩ := bind_eq_some_iff.mp rolls
    intro own
    have made := own ticket first candidate rollback package ⟨listed, Or.inl gone⟩
    rw [unmade] at made
    cases made

theorem candidate_installed :
    ∃ system, (learningMachine sampleLearningHost).Reachable (InOrder sampleLearningHost) system ∧
      (∃ row ∈ system.data.candidates, row.state = .installed) ∧ Warranted system.data := by
  have ran : learningRun (fun system event => decide (InOrder sampleLearningHost system event))
      (fun system => system.data.candidates.any fun row => row.state = .installed)
      (installedCandidate ++ [.call (.rollbackLocal "c" "u"), stepFirst "", stepFirst ""]) =
        some true := by
    decide +kernel
  obtain ⟨system, reached, found⟩ := learning_run_reachable ran
  have reachable := reachable_weaken (fun _ _ => of_decide_eq_true) reached
  simp only [List.any_eq_true, decide_eq_true_eq] at found
  exact ⟨system, reachable, found, (candidate_lifecycle sampleLearningHost).1 system reachable⟩

end AgentMate.SkillLearning
