import AgentMate.PlainText
import AgentMate.RunStore
import Mathlib.Logic.Function.Basic

/-!
# The mirror of Server projects

The projects and members that a client keeps of the Server, with the tombstones of members that
were removed locally and the ledger of conflicts. A table is a function of its primary key. A
ledger row belongs to a project or to a member of one; the time of its detection is left out.
-/

namespace AgentMate.ServerMirror

open PlainText List

structure ProjectValue where
  name : String
  instruction : String
  connectors : List String
  experts : List String
  skills : List String
  deriving DecidableEq, Repr

/-- The dictionaries `local` and `remote_compare`. -/
structure ProjectData where
  ownerId : String
  value : ProjectValue
  deriving DecidableEq, Repr

structure ProjectRow where
  data : ProjectData
  knowledgeIds : List String
  orgId : Option String
  createdAt : Time
  updatedAt : Time
  origin : String
  serverUpdatedAt : Time
  serverDirty : Bool
  deriving DecidableEq

inductive ConflictReason where
  | idCollision | concurrentUpdate | localAhead | localDeleted | permissionConflict
  deriving DecidableEq, Repr

inductive ConflictData where
  | project (data : ProjectData)
  | whole (data : ProjectData) (orgId : Option String) (knowledgeIds : List String)
  | member (role name : String)
  | role (role : String)
  | deleted
  deriving DecidableEq, Repr

structure SyncConflict where
  reason : ConflictReason
  localUpdatedAt : Time
  remoteUpdatedAt : Time
  localData : ConflictData
  remoteData : ConflictData
  deriving DecidableEq

def SyncConflict.content (conflict : SyncConflict) : ConflictReason × ConflictData × ConflictData :=
  (conflict.reason, conflict.localData, conflict.remoteData)

structure ProjectCell where
  row : Option ProjectRow
  conflict : Option SyncConflict
  deriving DecidableEq

structure MemberRow where
  role : String
  createdAt : Time
  updatedAt : Time
  serverUpdatedAt : Time
  serverDirty : Bool
  deriving DecidableEq

structure Tombstone where
  localDeletedAt : Time
  serverUpdatedAt : Time
  deriving DecidableEq

structure MemberCell where
  row : Option MemberRow
  tombstone : Option Tombstone
  conflict : Option SyncConflict
  deriving DecidableEq

structure Mirror where
  projects : String → ProjectCell
  members : String → String → MemberCell

structure RemoteProject where
  id : String
  name : String
  ownerId : String
  instruction : String
  orgId : Option String
  connectors : List String
  experts : List String
  skills : List String
  knowledgeIds : List String
  createdAt : Option Time
  updatedAt : Option Time

/-- `value or other` of a time. -/
def orTime (value : Option Time) (other : Time) : Time := (value.filter (· ≠ 0)).getD other

section

variable (remote : RemoteProject) (now : Time)

def RemoteProject.time : Time := orTime remote.updatedAt now

def RemoteProject.data : ProjectData where
  ownerId := remote.ownerId
  value := ⟨clip 120 remote.name, remote.instruction, remote.connectors, remote.experts,
    remote.skills⟩

def RemoteProject.org : Option String :=
  if strip (remote.orgId.getD "") = "" then none else some (strip (remote.orgId.getD ""))

/-- `list(dict.fromkeys(knowledge_ids or []))[:20]`. -/
def RemoteProject.knowledge : List String := remote.knowledgeIds.eraseDups.take 20

def RemoteProject.inserted : ProjectRow where
  data := remote.data
  knowledgeIds := remote.knowledge
  orgId := remote.org
  createdAt := orTime remote.createdAt (remote.time now)
  updatedAt := remote.time now
  origin := "server"
  serverUpdatedAt := remote.time now
  serverDirty := false

def RemoteProject.kept (row : ProjectRow) : ProjectRow :=
  { row with
    data := ⟨remote.ownerId, row.data.value⟩
    orgId := remote.org
    knowledgeIds := remote.knowledge
    serverUpdatedAt := remote.time now
    serverDirty := true }

def RemoteProject.replaced (row : ProjectRow) : ProjectRow :=
  { row with
    data := remote.data
    orgId := remote.org
    knowledgeIds := remote.knowledge
    updatedAt := remote.time now
    origin := "server"
    serverUpdatedAt := remote.time now
    serverDirty := false }

def ProjectRow.isDirty (row : ProjectRow) : Bool :=
  row.serverDirty ||
    (row.serverUpdatedAt = 0 && row.data ≠ remote.data && remote.time now < row.updatedAt)

def ProjectRow.conflicts (row : ProjectRow) : Bool :=
  row.isDirty remote now && row.data ≠ remote.data

def ProjectRow.collision (row : ProjectRow) : SyncConflict :=
  ⟨.idCollision, row.updatedAt, remote.time now, .project row.data,
    .whole remote.data remote.org remote.knowledge⟩

def ProjectRow.conflict (row : ProjectRow) : SyncConflict :=
  ⟨if row.serverUpdatedAt < remote.time now then .concurrentUpdate else .localAhead,
    row.updatedAt, remote.time now, .project row.data, .project remote.data⟩

/-- What `mirror_server_project` writes after it has read the row `seen`; `none` is an insert of
a key that is there. -/
def mirrorWrite (seen : Option ProjectRow) (cell : ProjectCell) : Option ProjectCell :=
  match seen with
  | none => if cell.row.isNone then some ⟨some (remote.inserted now), none⟩ else none
  | some row =>
    if row.origin ≠ "server" then some ⟨cell.row, some (row.collision remote now)⟩
    else if row.conflicts remote now then
      some ⟨cell.row.map (remote.kept now), some (row.conflict remote now)⟩
    else some ⟨cell.row.map (remote.replaced now), none⟩

/-- `mirror_server_project` without interference. -/
def mirrorCell (cell : ProjectCell) : ProjectCell :=
  match cell.row with
  | none => ⟨some (remote.inserted now), none⟩
  | some row =>
    if row.origin ≠ "server" then ⟨some row, some (row.collision remote now)⟩
    else if row.conflicts remote now then
      ⟨some (remote.kept now row), some (row.conflict remote now)⟩
    else ⟨some (remote.replaced now row), none⟩

def Mirror.mirrorProject (mirror : Mirror) : Mirror :=
  { mirror with
    projects := Function.update mirror.projects remote.id
      (mirrorCell remote now (mirror.projects remote.id)) }

end

structure RemoteMember where
  accountId : String
  name : String
  isOwner : Bool
  role : Option String
  createdAt : Option Time
  updatedAt : Option Time

/-- `Role(m.get("role", "Member")).value`, and `Member` for a text that is no role. -/
def RemoteMember.roleValue (remote : RemoteMember) : String :=
  if remote.role.getD "Member" ∈ ["Owner", "Admin", "Member", "Viewer"] then
    remote.role.getD "Member"
  else "Member"

def RemoteMember.time (remote : RemoteMember) (now : Time) : Time :=
  orTime remote.updatedAt (orTime remote.createdAt now)

section

variable (acknowledge : List String) (remote : RemoteMember) (now : Time)

def MemberRow.taken (row : MemberRow) : MemberRow :=
  { row with
    role := remote.roleValue
    updatedAt := remote.time now
    serverUpdatedAt := remote.time now
    serverDirty := false }

def MemberRow.conflicts (row : MemberRow) : Bool :=
  (row.serverDirty || (row.serverUpdatedAt = 0 && row.role ≠ remote.roleValue &&
    remote.time now < row.updatedAt)) && row.role ≠ remote.roleValue

/-- One turn of the loop of `replace_server_project_members`, for an account that has an id. -/
def memberCell (cell : MemberCell) : MemberCell :=
  if remote.isOwner then { cell with conflict := none }
  else
    match cell.row, cell.tombstone with
    | none, some tombstone =>
      ⟨none, some { tombstone with serverUpdatedAt := remote.time now },
        some ⟨.localDeleted, tombstone.localDeletedAt, remote.time now, .deleted,
          .member remote.roleValue remote.name⟩⟩
    | none, none =>
      ⟨some ⟨remote.roleValue, orTime remote.createdAt (remote.time now), remote.time now,
        remote.time now, false⟩, none, none⟩
    | some row, tombstone =>
      if row.conflicts remote now then
        ⟨some (row.taken remote now), tombstone, some ⟨.permissionConflict, row.updatedAt,
          remote.time now, .member row.role remote.name,
          .member remote.roleValue remote.name⟩⟩
      else
        ⟨some (row.taken remote now), none, cell.conflict.filter fun conflict =>
          remote.accountId ∉ acknowledge ∧ conflict.reason = .permissionConflict⟩

/-- The rest of `replace_server_project_members`, for an account that is not in the snapshot. -/
def missingCell (cell : MemberCell) : MemberCell :=
  let conflict := match cell.row with
    | none => cell.conflict
    | some row =>
      if row.serverDirty ∨ row.serverUpdatedAt = 0 then
        some ⟨.permissionConflict, row.updatedAt, 0, .role row.role, .deleted⟩
      else none
  ⟨none, none, if cell.tombstone.isSome then none else conflict⟩

end

def Mirror.setMember (mirror : Mirror) (projectId accountId : String)
    (assign : MemberCell → MemberCell) : Mirror :=
  { mirror with
    members := Function.update mirror.members projectId
      (Function.update (mirror.members projectId) accountId
        (assign (mirror.members projectId accountId))) }

def Mirror.mergeMember (acknowledge : List String) (projectId : String) (now : Time)
    (mirror : Mirror) (remote : RemoteMember) : Mirror :=
  if remote.accountId = "" then mirror
  else mirror.setMember projectId remote.accountId (memberCell acknowledge remote now)

/-- `remote_ids`. -/
def accountIds (members : List RemoteMember) : List String :=
  (members.map RemoteMember.accountId).filter (· ≠ "")

def Mirror.replaceMembers (mirror : Mirror) (projectId : String) (members : List RemoteMember)
    (acknowledge : List String) (now : Time) : Mirror :=
  let merged := members.foldl (Mirror.mergeMember acknowledge projectId now) mirror
  { merged with
    members := Function.update merged.members projectId fun accountId =>
      if accountId ∈ accountIds members then merged.members projectId accountId
      else missingCell (merged.members projectId accountId) }

structure RemoteEntry where
  project : RemoteProject
  members : Option (List RemoteMember)

structure Snapshot where
  entries : List RemoteEntry
  projectIds : (entries.map fun entry => entry.project.id).Nodup
  accounts : ∀ entry ∈ entries, ∀ members ∈ entry.members,
    (members.map RemoteMember.accountId).Nodup

def Mirror.pullEntry (now : Time) (mirror : Mirror) (entry : RemoteEntry) : Mirror :=
  if entry.project.id = "" then mirror
  else
    match entry.members with
    | none => mirror.mirrorProject entry.project now
    | some members =>
      (mirror.mirrorProject entry.project now).replaceMembers entry.project.id members [] now

def syncedIds (entries : List RemoteEntry) : List String :=
  (entries.map fun entry => entry.project.id).filter (· ≠ "")

def Mirror.isRevoked (mirror : Mirror) (accountId : String) (remoteIds : List String)
    (projectId : String) : Bool :=
  (mirror.projects projectId).row.any fun row =>
    row.origin = "server" && projectId ∉ remoteIds &&
      (row.data.ownerId = accountId || (mirror.members projectId accountId).row.isSome)

def Mirror.isOwned (mirror : Mirror) (accountId projectId : String) : Bool :=
  (mirror.projects projectId).row.any fun row => row.data.ownerId = accountId

/-- `reconcile_server_project_access`. -/
def Mirror.reconcile (mirror : Mirror) (accountId : String) (remoteIds : List String) : Mirror where
  projects projectId :=
    if mirror.isRevoked accountId remoteIds projectId && mirror.isOwned accountId projectId then
      { mirror.projects projectId with row := none }
    else mirror.projects projectId
  members projectId memberId :=
    let cell := mirror.members projectId memberId
    if mirror.isRevoked accountId remoteIds projectId then
      { cell with
        row := if mirror.isOwned accountId projectId || memberId = accountId then none
          else cell.row
        tombstone := if memberId = accountId then none else cell.tombstone }
    else cell

/-- `pull`, for the account of the token. -/
def Mirror.pull (mirror : Mirror) (snapshot : Snapshot) (accountId : Option String)
    (now : Time) : Mirror :=
  let pulled := snapshot.entries.foldl (Mirror.pullEntry now) mirror
  match accountId with
  | some account => pulled.reconcile account (syncedIds snapshot.entries)
  | none => pulled

structure ProjectCell.Agrees (left right : ProjectCell) : Prop where
  row : left.row = right.row
  conflict : left.conflict.map SyncConflict.content = right.conflict.map SyncConflict.content

structure MemberCell.Agrees (left right : MemberCell) : Prop where
  row : left.row = right.row
  conflict : left.conflict.map SyncConflict.content = right.conflict.map SyncConflict.content

section

variable {remote : RemoteProject} {first second : Time}

theorem replaced_clean (row : ProjectRow) (time other : Time) :
    (remote.replaced time row).conflicts remote other = false := by
  simp [ProjectRow.conflicts, RemoteProject.replaced]

theorem inserted_clean (time other : Time) :
    (remote.inserted time).conflicts remote other = false := by
  simp [ProjectRow.conflicts, RemoteProject.inserted]

/-- The condition for one project: the snapshot gives its time, so that the clock is not read, and
where the local values are kept the owner is the same and the remote version is not newer. -/
def ProjectCell.Quiet (cell : ProjectCell) (remote : RemoteProject) (first second : Time) : Prop :=
  (∃ row ∈ cell.row, row.origin ≠ "server") ∨ (remote.time first = remote.time second ∧
      ∀ row ∈ cell.row, row.conflicts remote first = true →
        row.data.ownerId = remote.ownerId ∧ remote.time first ≤ row.serverUpdatedAt)

variable {row : ProjectRow}

theorem replaced_again (origin : row.origin = "server")
    (clean : row.conflicts remote second = false) :
    mirrorCell remote second ⟨some row, none⟩ = ⟨some (remote.replaced second row), none⟩ := by
  simp [mirrorCell, origin, clean]

theorem kept_conflicts_iff (row : ProjectRow) :
    (remote.kept first row).conflicts remote second = true ↔ row.data.value ≠ remote.data.value := by
  have owner : remote.data.ownerId = remote.ownerId := rfl
  simp only [ProjectRow.conflicts, ProjectRow.isDirty, RemoteProject.kept, Bool.true_or,
    Bool.true_and]
  constructor
  · intro different same
    apply of_decide_eq_true different
    rw [same, ← owner]
  · intro different
    exact decide_eq_true fun same => different (by rw [← same])

theorem conflicts_differs {now : Time} (conflicts : row.conflicts remote now = true) :
    row.data ≠ remote.data := by
  simp only [ProjectRow.conflicts, Bool.and_eq_true, decide_eq_true_eq] at conflicts
  exact conflicts.2

theorem data_ext {left right : ProjectData} (owner : left.ownerId = right.ownerId)
    (value : left.value = right.value) : left = right := by
  cases left
  cases right
  cases owner
  cases value
  rfl

theorem kept_again_iff (origin : row.origin = "server")
    (conflicts : row.conflicts remote first = true) :
    (mirrorCell remote second ⟨some (remote.kept first row),
        some (row.conflict remote first)⟩).Agrees
        ⟨some (remote.kept first row), some (row.conflict remote first)⟩ ↔
      remote.time first = remote.time second ∧ row.data.ownerId = remote.ownerId ∧
        remote.time first ≤ row.serverUpdatedAt := by
  have same : (remote.kept first row).origin = "server" := origin
  by_cases value : row.data.value = remote.data.value
  · -- only the owner differed, so that the second write finds nothing to keep
    have clean : (remote.kept first row).conflicts remote second = false := by
      rw [Bool.eq_false_iff, ne_eq, kept_conflicts_iff]
      exact not_not.mpr value
    apply iff_of_false
    · intro agrees
      have rows := agrees.row
      simp only [mirrorCell, same, clean, Bool.false_eq_true, if_false, ne_eq, not_true_eq_false,
        Option.some.injEq] at rows
      have dirty := congrArg ProjectRow.serverDirty rows
      simp [RemoteProject.replaced, RemoteProject.kept] at dirty
    · intro quiet
      exact conflicts_differs conflicts (data_ext quiet.2.1 value)
  · have again : (remote.kept first row).conflicts remote second = true :=
      (kept_conflicts_iff row).mpr value
    simp only [mirrorCell, same, again, ne_eq, not_true_eq_false, if_false, if_true]
    constructor
    · intro agrees
      have rows := agrees.row
      have ledger := agrees.conflict
      simp only [Option.some.injEq] at rows
      have times := congrArg ProjectRow.serverUpdatedAt rows
      change remote.time second = remote.time first at times
      simp only [Option.map_some, Option.some.injEq, SyncConflict.content, ProjectRow.conflict,
        Prod.mk.injEq, ConflictData.project.injEq, and_true] at ledger
      obtain ⟨reason, data⟩ := ledger
      refine ⟨times.symm, (congrArg ProjectData.ownerId data).symm, ?_⟩
      by_contra newer
      have local' : ¬(remote.kept first row).serverUpdatedAt < remote.time second := by
        rw [times]
        exact lt_irrefl _
      rw [if_neg local', if_pos (not_le.mp newer)] at reason
      cases reason
    · rintro ⟨times, owner, older⟩
      have data : (remote.kept first row).data = row.data := data_ext owner.symm rfl
      constructor
      · show some (remote.kept second (remote.kept first row)) = some (remote.kept first row)
        simp [RemoteProject.kept, times]
      · have local' : ¬(remote.kept first row).serverUpdatedAt < remote.time second := by
          show ¬remote.time first < remote.time second
          rw [times]
          exact lt_irrefl _
        simp only [Option.map_some, SyncConflict.content, ProjectRow.conflict]
        rw [if_neg local', if_neg (not_lt.mpr older), data]

theorem mirror_again_iff (cell : ProjectCell) :
    (mirrorCell remote second (mirrorCell remote first cell)).Agrees
        (mirrorCell remote first cell) ↔ cell.Quiet remote first second := by
  have fresh : ∀ row : ProjectRow, row.origin = "server" →
      row.conflicts remote second = false → row.updatedAt = remote.time first →
      remote.replaced first row = row →
      ((mirrorCell remote second ⟨some row, none⟩).Agrees ⟨some row, none⟩ ↔
        remote.time first = remote.time second) := by
    intro row origin clean updated taken
    rw [replaced_again origin clean]
    constructor
    · intro agrees
      have rows := agrees.row
      simp only [Option.some.injEq] at rows
      have times := congrArg ProjectRow.updatedAt rows
      rw [updated] at times
      exact times.symm
    · intro times
      refine ⟨?_, rfl⟩
      show some (remote.replaced second row) = some row
      rw [RemoteProject.replaced, ← times]
      exact congrArg some taken
  cases found : cell.row with
  | none =>
    have step : mirrorCell remote first cell = ⟨some (remote.inserted first), none⟩ := by
      rw [mirrorCell, found]
    rw [step, fresh _ rfl (inserted_clean first second) rfl rfl]
    simp [ProjectCell.Quiet, found]
  | some row =>
    by_cases origin : row.origin = "server"
    · cases conflicts : row.conflicts remote first with
      | true =>
        have step : mirrorCell remote first cell =
            ⟨some (remote.kept first row), some (row.conflict remote first)⟩ := by
          simp [mirrorCell, found, origin, conflicts]
        rw [step, kept_again_iff origin conflicts]
        simp [ProjectCell.Quiet, found, origin, conflicts]
      | false =>
        have step : mirrorCell remote first cell = ⟨some (remote.replaced first row), none⟩ := by
          simp [mirrorCell, found, origin, conflicts]
        rw [step, fresh _ rfl (replaced_clean row first second) rfl rfl]
        simp [ProjectCell.Quiet, found, origin, conflicts]
    · have step : ∀ time, mirrorCell remote time cell =
          ⟨some row, some (row.collision remote time)⟩ := by
        intro time
        simp [mirrorCell, found, origin]
      have again : mirrorCell remote second ⟨some row, some (row.collision remote first)⟩ =
          ⟨some row, some (row.collision remote second)⟩ := by
        simp [mirrorCell, origin]
      rw [step, again]
      refine iff_of_true ⟨rfl, rfl⟩ (.inl ⟨row, found, origin⟩)

end

section

variable {remote : RemoteMember} {first second : Time}

def MemberCell.Quiet (cell : MemberCell) (remote : RemoteMember) (first second : Time) : Prop :=
  remote.isOwner = true ∨ (cell.row = none ∧ cell.tombstone ≠ none) ∨
    remote.time first = remote.time second

theorem taken_clean (row : MemberRow) (time other : Time) :
    (row.taken remote time).conflicts remote other = false := by
  simp [MemberRow.conflicts, MemberRow.taken]

theorem taken_again_iff (first second : Time) {row : MemberRow} {tombstone : Option Tombstone}
    {conflict : Option SyncConflict} (mem : remote.isOwner = false)
    (clean : row.conflicts remote second = false) (taken : row.taken remote first = row)
    (ledger : ∀ entry ∈ conflict, entry.reason = .permissionConflict) :
    (memberCell [] remote second ⟨some row, tombstone, conflict⟩).Agrees
        ⟨some row, tombstone, conflict⟩ ↔ remote.time first = remote.time second := by
  have step : memberCell [] remote second ⟨some row, tombstone, conflict⟩ =
      ⟨some (row.taken remote second), none, conflict.filter fun entry =>
        remote.accountId ∉ ([] : List String) ∧ entry.reason = .permissionConflict⟩ := by
    simp [memberCell, mem, clean]
  have kept : (conflict.filter fun entry =>
      remote.accountId ∉ ([] : List String) ∧ entry.reason = .permissionConflict) = conflict := by
    cases conflict with
    | none => rfl
    | some entry => simp [ledger entry rfl]
  rw [step, kept]
  constructor
  · intro agrees
    have rows := agrees.row
    simp only [Option.some.injEq] at rows
    have times := congrArg MemberRow.updatedAt rows
    rw [← taken] at times
    exact times.symm
  · intro times
    refine ⟨?_, rfl⟩
    show some (row.taken remote second) = some row
    rw [MemberRow.taken, ← times]
    exact congrArg some taken

theorem member_again_iff (cell : MemberCell) :
    (memberCell [] remote second (memberCell [] remote first cell)).Agrees
        (memberCell [] remote first cell) ↔ cell.Quiet remote first second := by
  obtain ⟨row, tombstone, conflict⟩ := cell
  cases owner : remote.isOwner with
  | true =>
    have step : ∀ (cell : MemberCell) time,
        memberCell [] remote time cell = { cell with conflict := none } := by
      intro cell time
      rw [memberCell, if_pos owner]
    rw [step, step]
    exact iff_of_true ⟨rfl, rfl⟩ (.inl owner)
  | false =>
    cases row with
    | none =>
      cases tombstone with
      | some stone =>
        have step : ∀ (stone : Tombstone) conflict time,
            memberCell [] remote time ⟨none, some stone, conflict⟩ =
              ⟨none, some { stone with serverUpdatedAt := remote.time time },
                some ⟨.localDeleted, stone.localDeletedAt, remote.time time, .deleted,
                  .member remote.roleValue remote.name⟩⟩ := by
          intro stone conflict time
          simp [memberCell, owner]
        rw [step, step]
        exact iff_of_true ⟨rfl, rfl⟩ (.inr (.inl ⟨rfl, by simp⟩))
      | none =>
        have step : memberCell [] remote first ⟨none, none, conflict⟩ =
            ⟨some ⟨remote.roleValue, orTime remote.createdAt (remote.time first),
              remote.time first, remote.time first, false⟩, none, none⟩ := by
          simp [memberCell, owner]
        rw [step, taken_again_iff first second owner]
        · simp [MemberCell.Quiet, owner]
        · simp [MemberRow.conflicts]
        · rfl
        · simp
    | some row =>
      cases conflicts : row.conflicts remote first with
      | true =>
        have step : memberCell [] remote first ⟨some row, tombstone, conflict⟩ =
            ⟨some (row.taken remote first), tombstone, some ⟨.permissionConflict,
              row.updatedAt, remote.time first, .member row.role remote.name,
              .member remote.roleValue remote.name⟩⟩ := by
          simp [memberCell, owner, conflicts]
        rw [step, taken_again_iff first second owner (taken_clean row first second) rfl]
        · simp [MemberCell.Quiet, owner]
        · simp
      | false =>
        have step : memberCell [] remote first ⟨some row, tombstone, conflict⟩ =
            ⟨some (row.taken remote first), none, conflict.filter fun entry =>
              remote.accountId ∉ ([] : List String) ∧ entry.reason = .permissionConflict⟩ := by
          simp [memberCell, owner, conflicts]
        rw [step, taken_again_iff first second owner (taken_clean row first second) rfl]
        · simp [MemberCell.Quiet, owner]
        · intro entry listed
          exact (of_decide_eq_true (Option.filter_eq_some_iff.mp listed).2).2

theorem missing_again (cell : MemberCell) : missingCell (missingCell cell) = missingCell cell := by
  simp [missingCell]

end

section

variable {mirror : Mirror} {now : Time} {projectId accountId : String}

structure SameProject (projectId : String) (left right : Mirror) : Prop where
  project : left.projects projectId = right.projects projectId
  members : left.members projectId = right.members projectId

structure SameProjectContent (projectId : String) (left right : Mirror) : Prop where
  project : (left.projects projectId).Agrees (right.projects projectId)
  members : ∀ accountId,
    (left.members projectId accountId).Agrees (right.members projectId accountId)

theorem set_member_same (assign : MemberCell → MemberCell) :
    (mirror.setMember projectId accountId assign).members projectId accountId =
      assign (mirror.members projectId accountId) := by
  simp [Mirror.setMember]

variable {otherAccount otherProject : String} {members : List RemoteMember}

theorem set_member_other (assign : MemberCell → MemberCell)
    (different : otherProject ≠ projectId ∨ otherAccount ≠ accountId) :
    (mirror.setMember projectId accountId assign).members otherProject otherAccount =
      mirror.members otherProject otherAccount := by
  by_cases project : otherProject = projectId
  · have account := different.resolve_left (not_not.mpr project)
    rw [Mirror.setMember, project]
    simp [account]
  · simp [Mirror.setMember, project]

theorem merge_projects (acknowledge : List String) (members : List RemoteMember) :
    (members.foldl (Mirror.mergeMember acknowledge projectId now) mirror).projects =
      mirror.projects := by
  induction members generalizing mirror with
  | nil => rfl
  | cons remote rest ih =>
    rw [foldl_cons, ih, Mirror.mergeMember]
    split <;> rfl

theorem merge_other (acknowledge : List String)
    (different : otherProject ≠ projectId ∨ otherAccount ∉ accountIds members) :
    (members.foldl (Mirror.mergeMember acknowledge projectId now) mirror).members otherProject
      otherAccount = mirror.members otherProject otherAccount := by
  induction members generalizing mirror with
  | nil => rfl
  | cons remote rest ih =>
    have later : otherProject ≠ projectId ∨ otherAccount ∉ accountIds rest := by
      refine different.imp_right fun absent listed => absent ?_
      rw [accountIds, mem_filter] at listed ⊢
      exact ⟨mem_cons_of_mem _ listed.1, listed.2⟩
    rw [foldl_cons, ih later, Mirror.mergeMember]
    split
    · rfl
    · next given =>
      apply set_member_other
      refine different.imp_right fun absent own => absent ?_
      rw [accountIds, mem_filter]
      exact ⟨by simp [own], by simp [own, given]⟩

theorem merge_own {remote : RemoteMember} (acknowledge : List String)
    (distinct : (members.map RemoteMember.accountId).Nodup) (listed : remote ∈ members)
    (given : remote.accountId ≠ "") :
    (members.foldl (Mirror.mergeMember acknowledge projectId now) mirror).members projectId
      remote.accountId =
        memberCell acknowledge remote now (mirror.members projectId remote.accountId) := by
  induction members generalizing mirror with
  | nil => cases listed
  | cons first rest ih =>
    rw [map_cons, nodup_cons] at distinct
    rw [foldl_cons]
    rcases mem_cons.mp listed with rfl | later
    · rw [merge_other, Mirror.mergeMember, if_neg given, set_member_same]
      refine .inr fun named => distinct.1 ?_
      exact mem_of_mem_filter named
    · rw [ih distinct.2 later, Mirror.mergeMember]
      split
      · rfl
      · rw [set_member_other]
        refine .inr fun same => distinct.1 ?_
        rw [← same]
        exact mem_map_of_mem later

def RemoteEntry.member (entry : RemoteEntry) (now : Time) (accountId : String)
    (cell : MemberCell) : MemberCell :=
  match entry.members with
  | none => cell
  | some members =>
    match members.find? fun remote => remote.accountId = accountId ∧ accountId ≠ "" with
    | some remote => memberCell [] remote now cell
    | none => missingCell cell

section

variable (mirror now)

variable {entry : RemoteEntry} {entries : List RemoteEntry}

theorem pull_entry_own (given : entry.project.id ≠ "")
    (distinct : ∀ members ∈ entry.members, (members.map RemoteMember.accountId).Nodup) :
    (mirror.pullEntry now entry).projects entry.project.id =
        mirrorCell entry.project now (mirror.projects entry.project.id) ∧
      ∀ accountId, (mirror.pullEntry now entry).members entry.project.id accountId =
        entry.member now accountId (mirror.members entry.project.id accountId) := by
  rw [Mirror.pullEntry, if_neg given]
  cases members : entry.members with
  | none =>
    refine ⟨by simp [Mirror.mirrorProject], fun accountId => ?_⟩
    simp [RemoteEntry.member, members, Mirror.mirrorProject]
  | some members' =>
    constructor
    · dsimp only
      rw [Mirror.replaceMembers]
      simp only [merge_projects]
      simp [Mirror.mirrorProject]
    · intro accountId
      simp only [Mirror.replaceMembers, Function.update_self, RemoteEntry.member, members]
      cases found : members'.find? fun remote =>
          remote.accountId = accountId ∧ accountId ≠ "" with
      | some remote =>
        have listed := mem_of_find?_eq_some found
        have chosen := find?_some found
        obtain ⟨own, nonempty⟩ := of_decide_eq_true chosen
        subst own
        have named : remote.accountId ∈ accountIds members' :=
          mem_filter.mpr ⟨mem_map_of_mem listed, decide_eq_true nonempty⟩
        rw [if_pos named, merge_own [] (distinct members' members) listed nonempty]
        rfl
      | none =>
        have absent : accountId ∉ accountIds members' := by
          intro named
          obtain ⟨listed, nonempty⟩ := mem_filter.mp named
          obtain ⟨remote, mem, own⟩ := mem_map.mp listed
          have refused := find?_eq_none.mp found remote mem
          exact refused (decide_eq_true ⟨own, of_decide_eq_true nonempty⟩)
        rw [if_neg absent, merge_other [] (.inr absent)]
        rfl

theorem pull_entry_other (different : projectId ≠ entry.project.id) :
    SameProject projectId (mirror.pullEntry now entry) mirror := by
  rw [Mirror.pullEntry]
  split
  · exact ⟨rfl, rfl⟩
  · split
    · exact ⟨by simp [Mirror.mirrorProject, different], rfl⟩
    · next members _ =>
      constructor
      · simp only [Mirror.replaceMembers, merge_projects]
        simp [Mirror.mirrorProject, different]
      · funext accountId
        simp only [Mirror.replaceMembers]
        rw [Function.update_of_ne different, merge_other [] (.inl different)]
        rfl

theorem same_project_trans {left middle right : Mirror} (first : SameProject projectId left middle)
    (second : SameProject projectId middle right) : SameProject projectId left right :=
  ⟨first.project.trans second.project, first.members.trans second.members⟩

theorem entries_other (absent : ∀ entry ∈ entries, entry.project.id ≠ projectId) :
    SameProject projectId (entries.foldl (Mirror.pullEntry now) mirror) mirror := by
  induction entries generalizing mirror with
  | nil => exact ⟨rfl, rfl⟩
  | cons entry rest ih =>
    rw [foldl_cons]
    apply same_project_trans (ih _ fun other listed => absent other (mem_cons_of_mem _ listed))
    exact pull_entry_other _ _ (Ne.symm (absent entry mem_cons_self))

theorem entries_unnamed (absent : projectId ∉ syncedIds entries) :
    SameProject projectId (entries.foldl (Mirror.pullEntry now) mirror) mirror := by
  induction entries generalizing mirror with
  | nil => exact ⟨rfl, rfl⟩
  | cons entry rest ih =>
    have later : projectId ∉ syncedIds rest := by
      intro listed
      apply absent
      rw [syncedIds, map_cons, filter_cons]
      split
      · exact mem_cons_of_mem _ listed
      · exact listed
    rw [foldl_cons]
    apply same_project_trans (ih _ later)
    by_cases own : projectId = entry.project.id
    · by_cases given : entry.project.id = ""
      · rw [Mirror.pullEntry, if_pos given]
        exact ⟨rfl, rfl⟩
      · refine absurd ?_ absent
        rw [syncedIds, mem_filter, own]
        exact ⟨by simp, decide_eq_true given⟩
    · exact pull_entry_other _ _ own

theorem entries_own (ids : (entries.map fun entry => entry.project.id).Nodup)
    (accounts : ∀ entry ∈ entries, ∀ members ∈ entry.members,
      (members.map RemoteMember.accountId).Nodup)
    (listed : entry ∈ entries) (given : entry.project.id ≠ "") :
    (entries.foldl (Mirror.pullEntry now) mirror).projects entry.project.id =
        mirrorCell entry.project now (mirror.projects entry.project.id) ∧
      ∀ accountId,
        (entries.foldl (Mirror.pullEntry now) mirror).members entry.project.id accountId =
          entry.member now accountId (mirror.members entry.project.id accountId) := by
  induction entries generalizing mirror with
  | nil => cases listed
  | cons first rest ih =>
    rw [map_cons, nodup_cons] at ids
    rw [foldl_cons]
    rcases mem_cons.mp listed with rfl | later
    · have absent : ∀ other ∈ rest, other.project.id ≠ entry.project.id := by
        intro other mem same
        exact ids.1 (mem_map.mpr ⟨other, mem, same⟩)
      have still := entries_other (mirror.pullEntry now entry) now absent
      rw [still.project, still.members]
      exact pull_entry_own _ _ given (accounts entry mem_cons_self)
    · have different : entry.project.id ≠ first.project.id := by
        intro same
        exact ids.1 (mem_map.mpr ⟨entry, later, same⟩)
      have before := pull_entry_other mirror now different
      rw [← before.project, ← before.members]
      exact ih _ ids.2 (fun other mem => accounts other (mem_cons_of_mem _ mem)) later

end

end

variable (mirror : Mirror) {snapshot : Snapshot} (account : Option String) (now : Time)

variable {left right : Mirror} {projectId : String} {remoteIds : List String} {entry : RemoteEntry}

theorem revoked_congr (same : SameProject projectId left right) (accountId : String)
    (remoteIds : List String) :
    left.isRevoked accountId remoteIds projectId =
      right.isRevoked accountId remoteIds projectId := by
  rw [Mirror.isRevoked, Mirror.isRevoked, same.project, same.members]

theorem owned_congr (same : SameProject projectId left right) (accountId : String) :
    left.isOwned accountId projectId = right.isOwned accountId projectId := by
  rw [Mirror.isOwned, Mirror.isOwned, same.project]

theorem reconcile_congr (accountId : String) (remoteIds : List String)
    (same : SameProject projectId left right) :
    SameProject projectId (left.reconcile accountId remoteIds)
      (right.reconcile accountId remoteIds) := by
  have revoked := revoked_congr same accountId remoteIds
  have owned := owned_congr same accountId
  constructor
  · simp only [Mirror.reconcile, revoked, owned, same.project]
  · funext memberId
    simp only [Mirror.reconcile, revoked, owned, same.members]

theorem reconcile_unrevoked {accountId projectId : String}
    (kept : mirror.isRevoked accountId remoteIds projectId = false) :
    SameProject projectId (mirror.reconcile accountId remoteIds) mirror := by
  constructor
  · simp [Mirror.reconcile, kept]
  · funext memberId
    simp [Mirror.reconcile, kept]

theorem reconcile_kept (accountId : String) (listed : projectId ∈ remoteIds) :
    SameProject projectId (mirror.reconcile accountId remoteIds) mirror := by
  apply reconcile_unrevoked
  rw [Mirror.isRevoked]
  cases (mirror.projects projectId).row with
  | none => rfl
  | some row => simp [listed]

theorem reconcile_again (mirror : Mirror) (accountId : String) (remoteIds : List String)
    (projectId : String) :
    SameProject projectId ((mirror.reconcile accountId remoteIds).reconcile accountId remoteIds)
      (mirror.reconcile accountId remoteIds) := by
  apply reconcile_unrevoked
  cases revoked : mirror.isRevoked accountId remoteIds projectId with
  | false =>
    rw [← revoked]
    exact revoked_congr (reconcile_unrevoked mirror revoked) accountId remoteIds
  | true =>
    cases owned : mirror.isOwned accountId projectId with
    | true =>
      have row : ((mirror.reconcile accountId remoteIds).projects projectId).row = none := by
        simp [Mirror.reconcile, revoked, owned]
      rw [Mirror.isRevoked, row]
      rfl
    | false =>
      have row : ((mirror.reconcile accountId remoteIds).projects projectId).row =
          (mirror.projects projectId).row := by
        simp [Mirror.reconcile, owned]
      have mem : ((mirror.reconcile accountId remoteIds).members projectId
          accountId).row = none := by
        simp [Mirror.reconcile, revoked]
      rw [Mirror.isRevoked, row, mem]
      rw [Mirror.isOwned] at owned
      cases found : (mirror.projects projectId).row with
      | none => rfl
      | some stored =>
        rw [found] at owned
        simp only [Option.any_some, decide_eq_false_iff_not] at owned
        simp [owned]

def Mirror.reconciled (mirror : Mirror) (account : Option String) (remoteIds : List String) :
    Mirror :=
  match account with
  | some accountId => mirror.reconcile accountId remoteIds
  | none => mirror

theorem pull_eq : mirror.pull snapshot account now =
    (snapshot.entries.foldl (Mirror.pullEntry now) mirror).reconciled account
      (syncedIds snapshot.entries) := by
  cases account <;> rfl

theorem pull_own (listed : entry ∈ snapshot.entries) (given : entry.project.id ≠ "") :
    (mirror.pull snapshot account now).projects entry.project.id =
        mirrorCell entry.project now (mirror.projects entry.project.id) ∧
      ∀ accountId, (mirror.pull snapshot account now).members entry.project.id accountId =
        entry.member now accountId (mirror.members entry.project.id accountId) := by
  have own := entries_own mirror now snapshot.projectIds snapshot.accounts listed given
  rw [pull_eq]
  cases account with
  | none => exact own
  | some accountId =>
    have synced : entry.project.id ∈ syncedIds snapshot.entries :=
      mem_filter.mpr ⟨mem_map.mpr ⟨entry, listed, rfl⟩, decide_eq_true given⟩
    have kept := reconcile_kept (snapshot.entries.foldl (Mirror.pullEntry now) mirror) accountId
      synced
    simp only [Mirror.reconciled]
    rw [kept.project, kept.members]
    exact own

theorem pull_other (absent : projectId ∉ syncedIds snapshot.entries) :
    SameProject projectId (mirror.pull snapshot account now)
      (mirror.reconciled account (syncedIds snapshot.entries)) := by
  have others := entries_unnamed mirror now absent
  rw [pull_eq]
  cases account with
  | none => exact others
  | some accountId => exact reconcile_congr accountId _ others

theorem pull_other_again (later : Time) (absent : projectId ∉ syncedIds snapshot.entries) :
    SameProject projectId ((mirror.pull snapshot account now).pull snapshot account later)
      (mirror.pull snapshot account now) := by
  have first := pull_other mirror account now absent
  have second := pull_other (mirror.pull snapshot account now) account later absent
  cases account with
  | none => exact second
  | some accountId =>
    have again := reconcile_again mirror accountId (syncedIds snapshot.entries) projectId
    have moved := reconcile_congr accountId (syncedIds snapshot.entries) first
    have back : SameProject projectId (mirror.reconcile accountId (syncedIds snapshot.entries))
        (mirror.pull snapshot (some accountId) now) := ⟨first.project.symm, first.members.symm⟩
    exact same_project_trans (same_project_trans second moved) (same_project_trans again back)

/-- The mirrors have the same projects and members, and their ledgers say the same. -/
structure SameContent (left right : Mirror) : Prop where
  projects : ∀ projectId, (left.projects projectId).Agrees (right.projects projectId)
  members : ∀ projectId accountId,
    (left.members projectId accountId).Agrees (right.members projectId accountId)

/-- The snapshot brings no project or member that a second pull at a later time sees otherwise. -/
def Mirror.Quiet (mirror : Mirror) (snapshot : Snapshot) (first second : Time) : Prop :=
  ∀ entry ∈ snapshot.entries, entry.project.id ≠ "" →
    (mirror.projects entry.project.id).Quiet entry.project first second ∧
      ∀ members ∈ entry.members, ∀ remote ∈ members, remote.accountId ≠ "" →
        (mirror.members entry.project.id remote.accountId).Quiet remote first second

theorem find_account {members : List RemoteMember} {remote : RemoteMember}
    (distinct : (members.map RemoteMember.accountId).Nodup) (listed : remote ∈ members)
    (given : remote.accountId ≠ "") :
    members.find? (fun other => other.accountId = remote.accountId ∧ remote.accountId ≠ "") =
      some remote := by
  induction members with
  | nil => cases listed
  | cons first rest ih =>
    rw [map_cons, nodup_cons] at distinct
    rcases mem_cons.mp listed with rfl | later
    · exact find?_cons_of_pos (decide_eq_true ⟨rfl, given⟩)
    · have different : first.accountId ≠ remote.accountId := by
        intro same
        apply distinct.1
        rw [same]
        exact mem_map_of_mem later
      rw [find?_cons_of_neg (by simp [different])]
      exact ih distinct.2 later

theorem entry_member_again_iff {first second : Time}
    (distinct : ∀ members ∈ entry.members, (members.map RemoteMember.accountId).Nodup)
    (cells : String → MemberCell) :
    (∀ accountId, (entry.member second accountId (entry.member first accountId
        (cells accountId))).Agrees (entry.member first accountId (cells accountId))) ↔
      ∀ members ∈ entry.members, ∀ remote ∈ members, remote.accountId ≠ "" →
        (cells remote.accountId).Quiet remote first second := by
  cases found : entry.members with
  | none =>
    have same : ∀ time accountId cell, entry.member time accountId cell = cell := by
      intro time accountId cell
      rw [RemoteEntry.member, found]
    refine iff_of_true (fun accountId => ?_) (fun members given => ?_)
    · rw [same, same]
      exact ⟨rfl, rfl⟩
    · cases given
  | some members =>
    constructor
    · intro agrees members' given remote listed nonempty
      cases given
      have chosen := find_account (distinct members found) listed nonempty
      have same : ∀ time cell, entry.member time remote.accountId cell =
          memberCell [] remote time cell := by
        intro time cell
        rw [RemoteEntry.member, found]
        simp only [chosen]
      have own := agrees remote.accountId
      rw [same, same] at own
      exact (member_again_iff _).mp own
    · intro quiet accountId
      cases chosen : members.find? fun remote =>
          remote.accountId = accountId ∧ accountId ≠ "" with
      | none =>
        have same : ∀ time cell, entry.member time accountId cell = missingCell cell := by
          intro time cell
          rw [RemoteEntry.member, found]
          simp only [chosen]
        rw [same, same, missing_again]
        exact ⟨rfl, rfl⟩
      | some remote =>
        have same : ∀ time cell, entry.member time accountId cell =
            memberCell [] remote time cell := by
          intro time cell
          rw [RemoteEntry.member, found]
          simp only [chosen]
        have named := find?_some chosen
        obtain ⟨own, nonempty⟩ := of_decide_eq_true named
        subst own
        rw [same, same]
        refine (member_again_iff _).mpr ?_
        exact quiet members rfl remote (mem_of_find?_eq_some chosen) nonempty

theorem pull_again_iff (first second : Time) :
    SameContent ((mirror.pull snapshot account first).pull snapshot account second)
        (mirror.pull snapshot account first) ↔
      mirror.Quiet snapshot first second := by
  constructor
  · intro same entry listed given
    have once := pull_own mirror account first listed given
    have twice := pull_own (mirror.pull snapshot account first) account second listed given
    constructor
    · have project := same.projects entry.project.id
      rw [twice.1, once.1] at project
      exact (mirror_again_iff _).mp project
    · apply (entry_member_again_iff (snapshot.accounts entry listed)
        (mirror.members entry.project.id)).mp
      intro accountId
      have mem := same.members entry.project.id accountId
      rw [twice.2, once.2] at mem
      exact mem
  · intro quiet
    have projects : ∀ projectId, SameProjectContent projectId
        ((mirror.pull snapshot account first).pull snapshot account second)
        (mirror.pull snapshot account first) := by
      intro projectId
      by_cases synced : projectId ∈ syncedIds snapshot.entries
      · obtain ⟨named, nonempty⟩ := mem_filter.mp synced
        obtain ⟨entry, listed, own⟩ := mem_map.mp named
        have given : entry.project.id ≠ "" := by
          rw [own]
          exact of_decide_eq_true nonempty
        rw [← own]
        have once := pull_own mirror account first listed given
        have twice := pull_own (mirror.pull snapshot account first) account second listed given
        have calm := quiet entry listed given
        constructor
        · rw [twice.1, once.1]
          exact (mirror_again_iff _).mpr calm.1
        · intro accountId
          rw [twice.2, once.2]
          exact (entry_member_again_iff (snapshot.accounts entry listed)
            (mirror.members entry.project.id)).mpr calm.2 accountId
      · have still := pull_other_again mirror account first second synced
        constructor
        · rw [still.project]
          exact ⟨rfl, rfl⟩
        · intro accountId
          rw [still.members]
          exact ⟨rfl, rfl⟩
    exact ⟨fun projectId => (projects projectId).project,
      fun projectId => (projects projectId).members⟩

end AgentMate.ServerMirror
