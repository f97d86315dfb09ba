import AgentMate.Interleaving
import AgentMate.ServerMirror

/-!
# Local edits between two pulls

A pull of one project reads the row and then writes it in a step of its own, so that an edit may
lie between the two. Beside the mirror the data keeps what an edit of a Server project left there
until the Server has the same values, and the values that were mirrored last since that edit.
-/

namespace AgentMate.ServerMirror

open PlainText Interleaving TransitionSystem Option

/-- The arguments of `update_project`; a missing one is left as it is. -/
structure ProjectPatch where
  name : Option String
  instruction : Option String
  connectors : Option (List String)
  experts : Option (List String)
  skills : Option (List String)
  knowledgeIds : Option (List String)
  deriving DecidableEq

/-- `server_fields_changed`. -/
def ProjectPatch.serverFields (patch : ProjectPatch) : Bool :=
  patch.name.isSome || patch.instruction.isSome || patch.connectors.isSome ||
    patch.experts.isSome || patch.skills.isSome

def ProjectPatch.value (patch : ProjectPatch) (old : ProjectValue) : ProjectValue where
  name := (patch.name.map (clip 120)).getD old.name
  instruction := patch.instruction.getD old.instruction
  connectors := patch.connectors.getD old.connectors
  experts := patch.experts.getD old.experts
  skills := patch.skills.getD old.skills

/-- `update_project`. -/
def ProjectPatch.apply (patch : ProjectPatch) (now : Time) (row : ProjectRow) : ProjectRow :=
  { row with
    data := ⟨row.data.ownerId, patch.value row.data.value⟩
    knowledgeIds := patch.knowledgeIds.getD row.knowledgeIds
    serverDirty := if patch.serverFields ∧ row.origin = "server" then true else row.serverDirty
    updatedAt := now }

structure EditedMirror where
  cells : String → ProjectCell
  /-- What the last edit of a Server project left, until the Server has the same. -/
  edited : String → Option ProjectValue
  /-- The remote values that were mirrored last since the edit. -/
  pulled : String → Option ProjectData

inductive EditRequest where
  | mirror (remote : RemoteProject) (now : Time)
  | edit (projectId : String) (patch : ProjectPatch) (now : Time)

structure MirrorTicket where
  remote : RemoteProject
  now : Time
  seen : Option ProjectRow

section

variable (data : EditedMirror)

def EditedMirror.edit (projectId : String) (patch : ProjectPatch) (now : Time) : EditedMirror :=
  match (data.cells projectId).row with
  | none => data
  | some row =>
    let written := patch.apply now row
    let cells := Function.update data.cells projectId
      { data.cells projectId with row := some written }
    if patch.serverFields ∧ row.origin = "server" then
      ⟨cells, Function.update data.edited projectId (some written.data.value),
        Function.update data.pulled projectId none⟩
    else { data with cells := cells }

def EditedMirror.mirrored (remote : RemoteProject) (cell : ProjectCell) : EditedMirror where
  cells := Function.update data.cells remote.id cell
  edited := Function.update data.edited remote.id
    ((data.edited remote.id).filter (· ≠ remote.data.value))
  pulled := Function.update data.pulled remote.id (some remote.data)

/-- An insert of a key that is there raises and leaves the data. -/
def EditedMirror.finish (ticket : MirrorTicket) : EditedMirror :=
  match mirrorWrite ticket.remote ticket.now ticket.seen (data.cells ticket.remote.id) with
  | none => data
  | some cell => data.mirrored ticket.remote cell

end

def mirrorRoutine : Routine EditedMirror EditRequest Unit MirrorTicket where
  call data request :=
    match request with
    | .mirror remote now => some (data, some ⟨remote, now, (data.cells remote.id).row⟩)
    | .edit projectId patch now => some (data.edit projectId patch now, none)
  resume data ticket _ := some (data.finish ticket, none)

def ProjectCell.dirtyValue (cell : ProjectCell) : Option ProjectValue :=
  (cell.row.filter fun row => row.origin = "server" ∧ row.serverDirty).map fun row => row.data.value

/-- Any mirror; its dirty values were edited before. -/
structure AtStart (data : EditedMirror) : Prop where
  edited : ∀ projectId, data.edited projectId = (data.cells projectId).dirtyValue
  pulled : ∀ projectId, data.pulled projectId = none

def mirrorMachine : Machine (System EditedMirror MirrorTicket) (Event EditRequest Unit) :=
  mirrorRoutine.machine AtStart

def ProjectCell.HasValue (cell : ProjectCell) (value : ProjectValue) : Prop :=
  ∃ row ∈ cell.row, row.origin = "server" ∧ row.serverDirty = true ∧ row.data.value = value

def ProjectCell.Listed (cell : ProjectCell) (value : ProjectValue) (remote : ProjectData) : Prop :=
  ∃ conflict ∈ cell.conflict, ∃ ownerId,
    conflict.localData = .project ⟨ownerId, value⟩ ∧ conflict.remoteData = .project remote

/-- A local edit that the Server does not have is not overwritten, and after a pull it is in the
ledger. -/
structure EditKept (cell : ProjectCell) (edited : Option ProjectValue)
    (pulled : Option ProjectData) : Prop where
  value : ∀ value ∈ edited, cell.HasValue value
  listed : ∀ value ∈ edited, ∀ remote ∈ pulled, value ≠ remote.value ∧ cell.Listed value remote

def EditsKept (data : EditedMirror) : Prop :=
  ∀ projectId, EditKept (data.cells projectId) (data.edited projectId) (data.pulled projectId)

def MirrorTicket.Undisturbed (ticket : MirrorTicket) (cell : ProjectCell) : Prop :=
  ∀ row ∈ cell.row, row.serverDirty = true → ∀ old ∈ ticket.seen,
    old.serverDirty = true ∧ old.data.value = row.data.value

instance (ticket : MirrorTicket) (cell : ProjectCell) : Decidable (ticket.Undisturbed cell) :=
  inferInstanceAs (Decidable (∀ row ∈ cell.row, row.serverDirty = true → ∀ old ∈ ticket.seen,
    old.serverDirty = true ∧ old.data.value = row.data.value))

def NoEditBetween (system : System EditedMirror MirrorTicket) : Event EditRequest Unit → Prop
  | .resume index _ => ∀ ticket ∈ system.pending[index]?,
      ticket.Undisturbed (system.data.cells ticket.remote.id)
  | _ => True

instance (system : System EditedMirror MirrorTicket) (event : Event EditRequest Unit) :
    Decidable (NoEditBetween system event) :=
  match event with
  | .call _ => inferInstanceAs (Decidable True)
  | .resume index _ => inferInstanceAs (Decidable (∀ ticket ∈ system.pending[index]?,
      ticket.Undisturbed (system.data.cells ticket.remote.id)))
  | .crash _ => inferInstanceAs (Decidable True)

def MirrorTicket.Ready (data : EditedMirror) (ticket : MirrorTicket) : Prop :=
  ∀ old ∈ ticket.seen, ∃ row ∈ (data.cells ticket.remote.id).row, row.origin = old.origin

def RowsKept (data after : EditedMirror) : Prop :=
  ∀ projectId, ∀ row ∈ (data.cells projectId).row,
    ∃ later ∈ (after.cells projectId).row, later.origin = row.origin

theorem ready_kept {data after : EditedMirror} {ticket : MirrorTicket}
    (ready : ticket.Ready data) (kept : RowsKept data after) : ticket.Ready after := by
  intro old read
  obtain ⟨row, found, origin⟩ := ready old read
  obtain ⟨later, stored, same⟩ := kept ticket.remote.id row found
  exact ⟨later, stored, same.trans origin⟩

section

variable {data : EditedMirror} {projectId : String} {patch : ProjectPatch} {now : Time}

theorem edit_other (data : EditedMirror) (patch : ProjectPatch) (now : Time) {other : String}
    (different : other ≠ projectId) :
    (data.edit projectId patch now).cells other = data.cells other ∧
      (data.edit projectId patch now).edited other = data.edited other ∧
        (data.edit projectId patch now).pulled other = data.pulled other := by
  rw [EditedMirror.edit]
  cases (data.cells projectId).row with
  | none => exact ⟨rfl, rfl, rfl⟩
  | some row =>
    dsimp only
    split <;> simp [different]

theorem edit_row {row : ProjectRow} (found : (data.cells projectId).row = some row) :
    ((data.edit projectId patch now).cells projectId).row = some (patch.apply now row) := by
  rw [EditedMirror.edit, found]
  dsimp only
  split <;> simp

theorem edit_rows_kept : RowsKept data (data.edit projectId patch now) := by
  intro other row found
  by_cases own : other = projectId
  · subst own
    exact ⟨patch.apply now row, edit_row found, rfl⟩
  · rw [(edit_other _ _ _ own).1]
    exact ⟨row, found, rfl⟩

theorem apply_unsent (now : Time) (unsent : patch.serverFields = false) (row : ProjectRow) :
    (patch.apply now row).data = row.data ∧
      (patch.apply now row).serverDirty = row.serverDirty := by
  simp only [ProjectPatch.serverFields, Bool.or_eq_false_iff, isSome_eq_false_iff,
    isNone_iff_eq_none] at unsent
  simp [ProjectPatch.apply, ProjectPatch.value, ProjectPatch.serverFields, unsent]

theorem edit_keeps (kept : EditsKept data) : EditsKept (data.edit projectId patch now) := by
  intro other
  by_cases own : other = projectId
  · subst own
    have before := kept other
    rw [EditedMirror.edit]
    cases found : (data.cells other).row with
    | none => exact before
    | some row =>
      dsimp only
      split
      · next sent =>
        -- the ledger has the values of an earlier edit until the next pull
        simp only [Function.update_self]
        constructor
        · intro value written
          cases written
          exact ⟨_, rfl, sent.2, if_pos sent, rfl⟩
        · intro value written remote mirrored
          cases mirrored
      · next unsent =>
        simp only [Function.update_self]
        constructor
        · intro value edited
          obtain ⟨old, stored, origin, dirty, same⟩ := before.value value edited
          cases stored.symm.trans found
          have fields : patch.serverFields = false := by
            simpa [origin] using unsent
          obtain ⟨same', flag⟩ := apply_unsent now fields row
          exact ⟨_, rfl, origin, flag.trans dirty, by rw [same', same]⟩
        · exact before.listed
  · obtain ⟨cells, edited, pulled⟩ := edit_other data patch now own
    rw [cells, edited, pulled]
    exact kept other

end

section

variable {data : EditedMirror} {ticket : MirrorTicket}

theorem finish_other (data : EditedMirror) {other : String} (different : other ≠ ticket.remote.id) :
    (data.finish ticket).cells other = data.cells other ∧
      (data.finish ticket).edited other = data.edited other ∧
        (data.finish ticket).pulled other = data.pulled other := by
  rw [EditedMirror.finish]
  split
  · exact ⟨rfl, rfl, rfl⟩
  · simp [EditedMirror.mirrored, different]

theorem write_row {remote : RemoteProject} {now : Time} {seen : Option ProjectRow}
    {cell after : ProjectCell} (wrote : mirrorWrite remote now seen cell = some after)
    (ready : ∀ old ∈ seen, ∃ row ∈ cell.row, row.origin = old.origin) {row : ProjectRow}
    (found : cell.row = some row) : ∃ later ∈ after.row, later.origin = row.origin := by
  cases seen with
  | none =>
    rw [mirrorWrite, found] at wrote
    cases wrote
  | some old =>
    obtain ⟨current, stored, origin⟩ := ready old rfl
    cases stored.symm.trans found
    simp only [mirrorWrite] at wrote
    split at wrote
    · cases wrote
      exact ⟨row, found, rfl⟩
    · next server =>
      split at wrote
      · cases wrote
        exact ⟨remote.kept now row, by rw [found]; rfl, rfl⟩
      · cases wrote
        refine ⟨remote.replaced now row, by rw [found]; rfl, ?_⟩
        rw [origin]
        exact (not_not.mp server).symm

theorem finish_rows_kept (ready : ticket.Ready data) : RowsKept data (data.finish ticket) := by
  intro other row found
  by_cases own : other = ticket.remote.id
  · subst own
    rw [EditedMirror.finish]
    cases wrote : mirrorWrite ticket.remote ticket.now ticket.seen
        (data.cells ticket.remote.id) with
    | none => exact ⟨row, found, rfl⟩
    | some after =>
      simp only [EditedMirror.mirrored, Function.update_self]
      exact write_row wrote ready found
  · rw [(finish_other _ own).1]
    exact ⟨row, found, rfl⟩

theorem write_keeps {value : ProjectValue} {after : ProjectCell} (ready : ticket.Ready data)
    (undisturbed : ticket.Undisturbed (data.cells ticket.remote.id))
    (held : (data.cells ticket.remote.id).HasValue value)
    (wrote : mirrorWrite ticket.remote ticket.now ticket.seen (data.cells ticket.remote.id) =
      some after)
    (differs : value ≠ ticket.remote.data.value) :
    after.HasValue value ∧ after.Listed value ticket.remote.data := by
  obtain ⟨row, found, origin, dirty, same⟩ := held
  cases read : ticket.seen with
  | none =>
    rw [read, mirrorWrite, found] at wrote
    cases wrote
  | some old =>
    obtain ⟨oldDirty, oldValue⟩ := undisturbed row found dirty old read
    obtain ⟨current, stored, oldOrigin⟩ := ready old read
    cases stored.symm.trans found
    have server : old.origin = "server" := oldOrigin.symm.trans origin
    have conflicts : old.conflicts ticket.remote ticket.now = true := by
      simp only [ProjectRow.conflicts, ProjectRow.isDirty, oldDirty, Bool.true_or, Bool.true_and]
      apply decide_eq_true
      intro equal
      apply differs
      rw [← equal, oldValue, same]
    rw [read] at wrote
    simp only [mirrorWrite, server, conflicts, ne_eq, not_true_eq_false, if_false, if_true,
      Option.some.injEq] at wrote
    rw [← wrote]
    constructor
    · exact ⟨ticket.remote.kept ticket.now row, by rw [found]; rfl, origin, rfl, same⟩
    · refine ⟨old.conflict ticket.remote ticket.now, rfl, old.data.ownerId, ?_, rfl⟩
      rw [← same, ← oldValue]
      rfl

theorem finish_keeps (kept : EditsKept data) (ready : ticket.Ready data)
    (undisturbed : ticket.Undisturbed (data.cells ticket.remote.id)) :
    EditsKept (data.finish ticket) := by
  intro other
  by_cases own : other = ticket.remote.id
  · subst own
    have before := kept ticket.remote.id
    rw [EditedMirror.finish]
    cases wrote : mirrorWrite ticket.remote ticket.now ticket.seen
        (data.cells ticket.remote.id) with
    | none => exact before
    | some after =>
      simp only [EditedMirror.mirrored, Function.update_self]
      have values : ∀ value ∈ (data.edited ticket.remote.id).filter
          (· ≠ ticket.remote.data.value), value ≠ ticket.remote.data.value ∧
            after.HasValue value ∧ after.Listed value ticket.remote.data := by
        intro value still
        obtain ⟨edited, differs⟩ := filter_eq_some_iff.mp still
        have different := of_decide_eq_true differs
        exact ⟨different, write_keeps ready undisturbed (before.value value edited) wrote different⟩
      constructor
      · intro value still
        exact (values value still).2.1
      · intro value still remote mirrored
        cases mirrored
        exact ⟨(values value still).1, (values value still).2.2⟩
  · obtain ⟨cells, edited, pulled⟩ := finish_other data own
    rw [cells, edited, pulled]
    exact kept other

end

theorem edits_keeps : Keeps mirrorRoutine NoEditBetween EditsKept MirrorTicket.Ready := by
  constructor
  · intro system request data ticket kept guarded taken
    cases request with
    | mirror remote now =>
      cases taken
      refine ⟨kept, ?_, fun other _ ready => ready⟩
      intro own started
      cases started
      exact fun old read => ⟨old, read, rfl⟩
    | edit projectId patch now =>
      cases taken
      refine ⟨edit_keeps kept, ?_, fun other _ ready => ready_kept ready edit_rows_kept⟩
      intro own started
      cases started
  · intro system index input ticket data later kept ready guarded pending taken
    cases taken
    refine ⟨finish_keeps kept ready (guarded ticket pending), ?_,
      fun other _ before => ready_kept before (finish_rows_kept ready)⟩
    intro own started
    cases started

theorem start_kept (data : EditedMirror) (start : AtStart data) : EditsKept data := by
  intro projectId
  constructor
  · intro value edited
    rw [start.edited, ProjectCell.dirtyValue] at edited
    obtain ⟨row, found, same⟩ := map_eq_some_iff.mp edited
    obtain ⟨stored, dirty⟩ := filter_eq_some_iff.mp found
    obtain ⟨origin, flag⟩ := of_decide_eq_true dirty
    exact ⟨row, stored, origin, flag, same⟩
  · intro value edited remote mirrored
    rw [start.pulled] at mirrored
    cases mirrored

/-- Where no edit lies between the read and the write of a pull, the edits are kept; and a second
pull of one snapshot changes nothing exactly when the mirror is quiet for it. -/
theorem pull_preserves (mirror : Mirror) (snapshot : Snapshot) (account : Option String)
    (first second : Time) :
    (∀ system, mirrorMachine.Reachable NoEditBetween system → EditsKept system.data) ∧
      (SameContent ((mirror.pull snapshot account first).pull snapshot account second)
          (mirror.pull snapshot account first) ↔
        mirror.Quiet snapshot first second) := by
  constructor
  · intro system reachable
    exact (reachable_holds edits_keeps start_kept reachable).data
  · exact pull_again_iff mirror account first second

def plannedRow : ProjectRow where
  data := ⟨"owner", ⟨"Plan", "", [], [], []⟩⟩
  knowledgeIds := []
  orgId := none
  createdAt := 1
  updatedAt := 1
  origin := "server"
  serverUpdatedAt := 1
  serverDirty := false

def renamedPlan : RemoteProject where
  id := "project"
  name := "Server plan"
  ownerId := "owner"
  instruction := ""
  orgId := none
  connectors := []
  experts := []
  skills := []
  knowledgeIds := []
  createdAt := some 1
  updatedAt := some 2

def localName : ProjectPatch := ⟨some "Local plan", none, none, none, none, none⟩

def onePlan : EditedMirror where
  cells _ := ⟨some plannedRow, none⟩
  edited _ := none
  pulled _ := none

theorem one_plan_start : AtStart onePlan := ⟨fun _ => rfl, fun _ => rfl⟩

def editedPlan : EditRequest := .edit "project" localName 3

def pulledPlan : EditRequest := .mirror renamedPlan 4

def EditedMirror.names (data : EditedMirror) :
    Option String × Option String × Option ConflictReason :=
  ((data.cells "project").row.map fun row => row.data.value.name,
    (data.edited "project").map ProjectValue.name,
    (data.cells "project").conflict.map SyncConflict.reason)

def editedMirror : Mirror where
  projects _ := ⟨some (localName.apply 3 plannedRow), none⟩
  members _ _ := ⟨none, none, none⟩

def planEntries : List RemoteEntry := [⟨renamedPlan, none⟩]

theorem plan_ids : (planEntries.map fun entry => entry.project.id).Nodup := List.nodup_singleton _

theorem plan_accounts : ∀ entry ∈ planEntries, ∀ members ∈ entry.members,
    (members.map RemoteMember.accountId).Nodup := by
  simp [planEntries]

def planSnapshot : Snapshot := ⟨planEntries, plan_ids, plan_accounts⟩

theorem edit_survives_pull : ∃ system,
    mirrorRoutine.run (fun system event => decide (NoEditBetween system event)) onePlan
        [.call editedPlan, .call pulledPlan, .resume 0 ()] = some system ∧
      system.data.names = (some "Local plan", some "Local plan", some .concurrentUpdate) ∧
      EditsKept system.data := by
  have ran : (mirrorRoutine.run (fun system event => decide (NoEditBetween system event)) onePlan
      [.call editedPlan, .call pulledPlan, .resume 0 ()]).map (fun system => system.data.names) =
        some (some "Local plan", some "Local plan", some .concurrentUpdate) := by
    decide +kernel
  obtain ⟨system, done, names⟩ := map_eq_some_iff.mp ran
  refine ⟨system, done, names, (pull_preserves editedMirror planSnapshot none 3 4).1 system ?_⟩
  apply reachable_weaken _ (run_reachable _ one_plan_start done)
  intro state event guarded
  exact of_decide_eq_true guarded

theorem pull_loses_edit :
    (∃ system, mirrorMachine.Reachable Anything system ∧ ¬EditsKept system.data) ∧
      ∃ (mirror : Mirror) (snapshot : Snapshot) (account : Option String) (first second : Time),
        ¬SameContent ((mirror.pull snapshot account first).pull snapshot account second)
          (mirror.pull snapshot account first) := by
  constructor
  · have ran : (mirrorRoutine.run (fun _ _ => true) onePlan
        [.call pulledPlan, .call editedPlan, .resume 0 ()]).map (fun system =>
          system.data.names) = some (some "Server plan", some "Local plan", none) := by
      decide +kernel
    obtain ⟨system, done, names⟩ := map_eq_some_iff.mp ran
    refine ⟨system, reachable_weaken (fun _ _ _ => trivial)
      (run_reachable _ one_plan_start done), ?_⟩
    intro kept
    simp only [EditedMirror.names, Prod.mk.injEq] at names
    obtain ⟨row, found, name⟩ := map_eq_some_iff.mp names.1
    obtain ⟨value, edited, other⟩ := map_eq_some_iff.mp names.2.1
    obtain ⟨current, stored, -, -, same⟩ := (kept "project").value value edited
    cases stored.symm.trans found
    rw [same, other] at name
    revert name
    decide
  · refine ⟨editedMirror, planSnapshot, none, 4, 5, ?_⟩
    intro same
    have ledger := (same.projects "project").conflict
    revert ledger
    decide +kernel

end AgentMate.ServerMirror
