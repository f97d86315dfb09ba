import AgentMate.AssetObjectStore

/-! # Committed uploads are final -/

namespace AgentMate

open TransitionSystem Interleaving FileLinks List Option

variable {settings : UploadSettings} {sha256 : Bytes → String} {store next : ObjectStore}
  {ticket : UploadTicket} {later : Option UploadTicket} {input : UploadInput}

/-- The step may still change the file at the object path: a completion that writes to
this file, or one that found the path empty and goes on to fill it. -/
def UploadTicket.touches (object : Option Nat) : UploadTicket → Bool
  | .copyParts _ assembly => object = some assembly.file
  | .replaceObject _ => true
  | _ => false

def UploadTicket.isCommit : UploadTicket → Bool
  | .commit _ => true
  | _ => false

structure UploadTicket.Ready (store : ObjectStore) (ticket : UploadTicket) : Prop where
  leaves : store.upload.state = .committed → ticket.touches (store.disk.link .object) = false
  placed : ticket.isCommit = true → (store.disk.link .object).isSome = true

/-- A step that leaves the upload's state, its versions and its object alone. -/
structure ObjectStore.Quiet (store next : ObjectStore) : Prop where
  state : next.upload.state = store.upload.state
  version : next.upload.objectVersionId = store.upload.objectVersionId
  versions : next.versions = store.versions
  link : next.disk.link .object = store.disk.link .object
  read : next.disk.read? .object = store.disk.read? .object

def UploadTicket.isCalm (ticket : UploadTicket) : Bool :=
  match ticket with
  | .copyParts .. | .replaceObject _ | .commit _ => false
  | _ => true

inductive UploadEffect (store : ObjectStore) : UploadTicket → ObjectStore →
    Option UploadTicket → Prop
  | quiet (ticket : UploadTicket) (next : ObjectStore) (later : Option UploadTicket)
      (quiet : store.Quiet next) (calm : ∀ own ∈ later, own.isCalm = true) :
      UploadEffect store ticket next later
  | opened (upload : Upload) (next : ObjectStore) (assembly : Assembly)
      (quiet : store.Quiet next) (own : next.disk.link .object ≠ some assembly.file) :
      UploadEffect store (.openAssembled upload) next (some (.copyParts upload assembly))
  | copied (upload : Upload) (assembly : Assembly) (bytes : Bytes) :
      UploadEffect store (.copyParts upload assembly)
        { store with disk := store.disk.writeAt assembly.file assembly.read.length bytes }
        (some (.copyParts upload ⟨assembly.file, assembly.read ++ bytes, assembly.number + 1⟩))
  | found (upload : Upload) (next : ObjectStore) (quiet : store.Quiet next)
      (present : (next.disk.link .object).isSome = true) :
      UploadEffect store (.findObject upload) next (some (.commit upload))
  | missing (upload : Upload) (absent : store.disk.read? .object = none) :
      UploadEffect store (.findObject upload) store (some (.replaceObject upload))
  | replaced (upload : Upload) (disk : Disk UploadPath)
      (present : (disk.link .object).isSome = true) :
      UploadEffect store (.replaceObject upload) { store with disk := disk } (some (.commit upload))
  | committed (upload : Upload) (next : ObjectStore) (versionId : String)
      (active : store.upload.state = .uploading) (state : next.upload.state = .committed)
      (disk : next.disk = store.disk) (versions : store.versions <+: next.versions) :
      UploadEffect store (.commit upload) next (some .removeDirectory)
  | aborted (now : Time) :
      UploadEffect store .writeAbort (writeAbort store now) (some .removeDirectory)
  | expired (started : Time) :
      UploadEffect store (.writeExpired started) (writeExpired store started) none

theorem quiet_refl (store : ObjectStore) : store.Quiet store := ⟨rfl, rfl, rfl, rfl, rfl⟩

theorem unlink_assembled_quiet : store.Quiet store.unlinkAssembled :=
  ⟨rfl, rfl, rfl, unlink_link_kept rfl, read_unlink_kept rfl⟩

theorem remove_directory_quiet : store.Quiet store.removeDirectory :=
  ⟨rfl, rfl, rfl, unlink_link_kept rfl, read_unlink_kept rfl⟩

variable {request : PartRequest} {other : UploadTicket}
  {system after : System ObjectStore UploadTicket} {versionId : Option String}
  {content : Option Bytes} {versions : List ObjectVersion} {event : Event UploadRequest UploadInput}

theorem write_part_quiet : store.Quiet (store.writePart request) :=
  ⟨rfl, rfl, rfl, add_link_other nofun, read_add_other nofun⟩

theorem record_part_quiet {now : Time} :
    store.Quiet (recordPart settings sha256 store request now) := ⟨rfl, rfl, rfl, rfl, rfl⟩

theorem open_assembled_effect {upload : Upload} {opened : ObjectStore × Assembly}
    (done : openAssembled store = some opened) :
    UploadEffect store (.openAssembled upload) opened.1 (some (.copyParts upload opened.2)) := by
  rw [openAssembled, ite_none_right_eq_some] at done
  obtain ⟨-, same⟩ := done
  cases same
  apply UploadEffect.opened
  · exact ⟨rfl, rfl, rfl, truncate_link_other nofun, read_truncate_other nofun⟩
  · intro shared
    have one := (store.disk.truncate UploadPath.assembled).1.single _ _ _ shared truncate_link_self
    cases one

theorem commit_upload_effect {upload : Upload} {versionId : String} {now : Time}
    (done : commitUpload settings store upload versionId now = .ok next) :
    UploadEffect store (.commit upload) next (some .removeDirectory) := by
  rw [commitUpload] at done
  split at done
  · cases done
  · next active =>
    split at done
    · cases done
    · cases done
      exact .committed upload _ versionId (not_not.mp active) rfl rfl (prefix_append _ _)

theorem resume_upload_effect
    (done : resumeUpload settings sha256 store ticket input = some (next, later)) :
    UploadEffect store ticket next later := by
  cases ticket with
  | findPart request =>
    rw [resumeUpload] at done
    split at done <;> cases done <;> exact .quiet _ _ _ (quiet_refl store) (by simp [UploadTicket.isCalm])
  | writePart request =>
    cases done
    exact .quiet _ _ _ write_part_quiet (by simp [UploadTicket.isCalm])
  | recordPart request =>
    cases done
    exact .quiet _ _ _ record_part_quiet (by simp)
  | listParts upload =>
    rw [resumeUpload] at done
    split at done <;> cases done <;>
      exact .quiet _ _ _ (quiet_refl store) (by simp [UploadTicket.isCalm])
  | openAssembled upload =>
    rw [resumeUpload] at done
    split at done
    · next opened found =>
      cases done
      exact open_assembled_effect found
    · cases done
      exact .quiet _ _ _ (quiet_refl store) (by simp)
  | copyParts upload assembly =>
    rw [resumeUpload] at done
    split at done
    · split at done
      · next copied found =>
        cases done
        obtain ⟨bytes, -, rfl⟩ := map_eq_some_iff.mp found
        exact .copied upload assembly bytes
      · cases done
        exact .quiet _ _ _ (quiet_refl store) (by simp)
    · split at done
      · cases done
        exact .quiet _ _ _ (quiet_refl store) (by simp [UploadTicket.isCalm])
      · cases done
        exact .quiet _ _ _ unlink_assembled_quiet (by simp)
  | findObject upload =>
    rw [resumeUpload] at done
    split at done
    · next content found =>
      obtain ⟨file, linked, -⟩ := bind_eq_some_iff.mp found
      simp only [Option.some.injEq, Prod.mk.injEq] at done
      obtain ⟨rfl, rfl⟩ := done
      split
      · refine .found upload _ unlink_assembled_quiet ?_
        rw [unlink_assembled_quiet.link, linked]
        rfl
      · exact .quiet _ _ _ unlink_assembled_quiet (by simp)
    · next absent =>
      cases done
      exact .missing upload absent
  | replaceObject upload =>
    rw [resumeUpload] at done
    split at done
    · next disk renamed =>
      cases done
      exact .replaced upload disk (rename_link_target renamed).2
    · cases done
      exact .quiet _ _ _ (quiet_refl store) (by simp)
  | commit upload =>
    rw [resumeUpload] at done
    split at done
    · cases done
    · split at done
      · next committed =>
        cases done
        exact commit_upload_effect committed
      · cases done
        exact .quiet _ _ _ (quiet_refl store) (by simp)
  | removeDirectory =>
    cases done
    exact .quiet _ _ _ remove_directory_quiet (by simp)
  | writeAbort =>
    cases done
    exact .aborted input.now
  | removeExpired started =>
    cases done
    exact .quiet _ _ _ remove_directory_quiet (by simp [UploadTicket.isCalm])
  | writeExpired started =>
    cases done
    exact .expired started

/-- The condition under which finished uploads are final. An abort or a cleanup writes
its state only while the upload is not committed. A completion commits only while no
other one may still change the file at the object path. -/
def finishesAlone (system : System ObjectStore UploadTicket) :
    Event UploadRequest UploadInput → Bool
  | .resume index _ =>
    match system.pending[index]? with
    | some .writeAbort | some (.writeExpired _) =>
      decide (system.data.upload.state ≠ .committed)
    | some (.commit _) =>
      (system.pending.eraseIdx index).all fun other =>
        !other.touches (system.data.disk.link .object)
    | _ => true
  | _ => true

def FinishesAlone (system : System ObjectStore UploadTicket)
    (event : Event UploadRequest UploadInput) : Prop := finishesAlone system event = true

def ObjectStore.HasObject (store : ObjectStore) : Prop :=
  store.upload.state = .committed → (store.disk.link .object).isSome = true

theorem ready_same (ready : other.Ready store)
    (state : next.upload.state = .committed → store.upload.state = .committed)
    (link : next.disk.link .object = store.disk.link .object) : other.Ready next := by
  constructor
  · intro committed
    rw [link]
    exact ready.leaves (state committed)
  · rw [link]
    exact ready.placed

theorem calm_ready {own : UploadTicket} (calm : own.isCalm = true) : own.Ready store := by
  cases own <;> simp_all [UploadTicket.isCalm] <;> constructor <;>
    simp [UploadTicket.touches, UploadTicket.isCommit]

theorem quiet_keeps_state (quiet : store.Quiet next) (ready : other.Ready store) :
    other.Ready next :=
  ready_same ready (fun committed => quiet.state ▸ committed) quiet.link

theorem upload_effect_keeps {index : Nat} (has : system.data.HasObject)
    (ready : ticket.Ready system.data) (guarded : FinishesAlone system (.resume index input))
    (found : system.pending[index]? = some ticket)
    (effect : UploadEffect system.data ticket next later) :
    next.HasObject ∧ (∀ own ∈ later, own.Ready next) ∧
      ∀ other ∈ system.pending.eraseIdx index, other.Ready system.data → other.Ready next := by
  rw [FinishesAlone, finishesAlone, found] at guarded
  cases effect with
  | quiet ticket next later quiet calm =>
    refine ⟨?_, fun own listed => calm_ready (calm own listed), fun _ _ => quiet_keeps_state quiet⟩
    intro committed
    rw [quiet.link]
    exact has (quiet.state ▸ committed)
  | opened upload next assembly quiet own =>
    refine ⟨?_, ?_, fun _ _ => quiet_keeps_state quiet⟩
    · intro committed
      rw [quiet.link]
      exact has (quiet.state ▸ committed)
    · rintro _ ⟨⟩
      constructor
      · intro _
        simpa [UploadTicket.touches] using own
      · simp [UploadTicket.isCommit]
  | copied upload assembly bytes =>
    refine ⟨has, ?_, fun _ _ same => ready_same same id rfl⟩
    rintro _ ⟨⟩
    exact ⟨ready.leaves, by simp [UploadTicket.isCommit]⟩
  | found upload next quiet present =>
    refine ⟨?_, ?_, fun _ _ => quiet_keeps_state quiet⟩
    · intro _
      exact present
    · rintro _ ⟨⟩
      exact ⟨fun _ => rfl, fun _ => present⟩
  | missing upload absent =>
    refine ⟨has, ?_, fun _ _ same => same⟩
    rintro _ ⟨⟩
    constructor
    · intro committed
      obtain ⟨file, linked⟩ := isSome_iff_exists.mp (has committed)
      have bound := system.data.disk.linked _ file linked
      simp [Disk.read?, linked, bound] at absent
    · simp [UploadTicket.isCommit]
  | replaced upload disk present =>
    have open_ : system.data.upload.state ≠ .committed := by
      intro committed
      have leaves := ready.leaves committed
      cases leaves
    refine ⟨fun committed => absurd committed open_, ?_, ?_⟩
    · rintro _ ⟨⟩
      exact ⟨fun committed => absurd committed open_, fun _ => present⟩
    · intro other _ _
      exact ⟨fun committed => absurd committed open_, fun _ => present⟩
  | committed upload next versionId active state disk versions =>
    have object := ready.placed rfl
    refine ⟨?_, ?_, ?_⟩
    · intro _
      rw [disk]
      exact object
    · rintro _ ⟨⟩
      exact calm_ready rfl
    · intro other listed _
      have clear := List.all_eq_true.mp guarded other listed
      constructor
      · intro _
        rw [disk]
        simpa using clear
      · intro _
        rw [disk]
        exact object
  | aborted now =>
    refine ⟨fun committed => ?_, ?_, ?_⟩
    · cases committed
    · rintro _ ⟨⟩
      exact calm_ready rfl
    · intro other _ same
      exact ready_same same (fun committed => by cases committed) rfl
  | expired started =>
    refine ⟨fun committed => ?_, by simp, ?_⟩
    · cases committed
    · intro other _ same
      exact ready_same same (fun committed => by cases committed) rfl

theorem call_upload_calm {request : UploadRequest}
    (done : callUpload sha256 store request = some (next, later)) :
    store.Quiet next ∧ ∀ own ∈ later, own.isCalm = true := by
  have asset : ∀ now : Time,
      store.Quiet { store with asset := { store.asset with deletedAt := now } } :=
    fun _ => ⟨rfl, rfl, rfl, rfl, rfl⟩
  cases request with
  | deleteAsset now =>
    cases done
    exact ⟨asset now, by simp⟩
  | _ =>
    rw [callUpload] at done
    split at done <;> cases done <;> exact ⟨quiet_refl store, by simp [UploadTicket.isCalm]⟩

theorem upload_keeps : Keeps (uploadRoutine settings sha256) FinishesAlone
    ObjectStore.HasObject (fun store ticket => ticket.Ready store) := by
  constructor
  · intro system request data ticket has _ taken
    obtain ⟨quiet, calm⟩ := call_upload_calm taken
    refine ⟨?_, fun own listed => calm_ready (calm own listed), fun _ _ => quiet_keeps_state quiet⟩
    intro committed
    rw [quiet.link]
    exact has (quiet.state ▸ committed)
  · intro system index input ticket data later has ready guarded found taken
    exact upload_effect_keeps has ready guarded found (resume_upload_effect taken)

structure ObjectStore.Final (versionId : Option String) (content : Option Bytes)
    (versions : List ObjectVersion) (store : ObjectStore) : Prop where
  state : store.upload.state = .committed
  version : store.upload.objectVersionId = versionId
  object : store.disk.read? .object = content
  versions : versions <+: store.versions

theorem quiet_final (quiet : store.Quiet next) (final : store.Final versionId content versions) :
    next.Final versionId content versions :=
  ⟨quiet.state.trans final.state, quiet.version.trans final.version,
    quiet.read.trans final.object, quiet.versions ▸ final.versions⟩

theorem move_final
    (holds : Holds ObjectStore.HasObject (fun store ticket => ticket.Ready store) system)
    (guarded : FinishesAlone system event)
    (move : Move (uploadRoutine settings sha256) system event after)
    (final : system.data.Final versionId content versions) :
    after.data.Final versionId content versions := by
  cases move with
  | call request data ticket taken => exact quiet_final (call_upload_calm taken).1 final
  | crash index => exact final
  | resume index input ticket data later found taken =>
    have ready := holds.pending ticket (mem_of_getElem? found)
    rw [FinishesAlone, finishesAlone, found] at guarded
    have effect := resume_upload_effect taken
    cases effect with
    | quiet ticket next later quiet calm => exact quiet_final quiet final
    | opened upload next assembly quiet own => exact quiet_final quiet final
    | copied upload assembly bytes =>
      have apart : system.data.disk.link .object ≠ some assembly.file := by
        simpa [UploadTicket.touches] using ready.leaves final.state
      exact ⟨final.state, final.version, (read_modify_other apart).trans final.object,
        final.versions⟩
    | found upload next quiet present => exact quiet_final quiet final
    | missing upload absent => exact final
    | replaced upload disk present => cases ready.leaves final.state
    | committed upload next versionId active state disk versions =>
      rw [final.state] at active
      cases active
    | aborted now => exact absurd final.state (of_decide_eq_true guarded)
    | expired started => exact absurd final.state (of_decide_eq_true guarded)

def UploadState.isGivenUp : UploadState → Bool
  | .aborted | .expired => true
  | .uploading | .committed => false

theorem move_given_up (move : Move (uploadRoutine settings sha256) system event after)
    (given : system.data.upload.state.isGivenUp = true) :
    after.data.upload.state.isGivenUp = true := by
  cases move with
  | call request data ticket taken =>
    rw [(call_upload_calm taken).1.state]
    exact given
  | crash index => exact given
  | resume index input ticket data later found taken =>
    have effect := resume_upload_effect taken
    cases effect with
    | quiet ticket next later quiet calm =>
      rw [quiet.state]
      exact given
    | opened upload next assembly quiet own =>
      rw [quiet.state]
      exact given
    | copied upload assembly bytes => exact given
    | found upload next quiet present =>
      rw [quiet.state]
      exact given
    | missing upload absent => exact given
    | replaced upload disk present => exact given
    | committed upload next versionId active state disk versions =>
      rw [active] at given
      cases given
    | aborted now => rfl
    | expired started => rfl

theorem begun_has_object (begun : store.Begun) : store.HasObject := by
  intro committed
  rw [begun.uploading] at committed
  cases committed

/-- A committed upload keeps its state, its version and the bytes of its object, and an
upload that was aborted or has expired is never committed. -/
theorem committed_uploads_final (settings : UploadSettings) (sha256 : Bytes → String)
    {system later : System ObjectStore UploadTicket}
    (reachable : ((uploadRoutine settings sha256).machine ObjectStore.Begun).Reachable
      FinishesAlone system)
    (path : ((uploadRoutine settings sha256).machine ObjectStore.Begun).Path
      FinishesAlone system later) :
    (system.data.upload.state = .committed → later.data.upload.state = .committed ∧
        later.data.upload.objectVersionId = system.data.upload.objectVersionId ∧
        (∃ content, system.data.disk.read? .object = some content ∧
          later.data.disk.read? .object = some content) ∧
        ∀ version ∈ system.data.versions, version ∈ later.data.versions) ∧
    (system.data.upload.state.isGivenUp = true → later.data.upload.state ≠ .committed) := by
  have holds := reachable_holds upload_keeps (fun _ begun => begun_has_object begun) reachable
  constructor
  · intro committed
    obtain ⟨file, linked⟩ := isSome_iff_exists.mp (holds.data committed)
    have bound := system.data.disk.linked _ file linked
    have stored : system.data.disk.read? .object = some system.data.disk.contents[file] := by
      simp [Disk.read?, linked, bound]
    have final := path_keeps
      (ObjectStore.Final system.data.upload.objectVersionId (system.data.disk.read? .object)
        system.data.versions)
      upload_keeps (fun _ _ _ holding guarded move => move_final holding guarded move)
      holds ⟨committed, rfl, rfl, prefix_rfl⟩ path
    obtain ⟨-, state, version, object, versions⟩ := final
    exact ⟨state, version, ⟨_, stored, object.trans stored⟩,
      fun version listed => versions.subset listed⟩
  · intro given committed
    have still := path_keeps (fun store : ObjectStore => store.upload.state.isGivenUp = true)
      upload_keeps (fun _ _ _ _ _ move => move_given_up move) holds given path
    rw [committed] at still
    cases still.2

def abcDigest : String := "ba7816bf8f01cfea414140de5dae2223b00361a396177a9cb410ff61f20015ad"

def sampleDigest (bytes : Bytes) : String := if bytes = [97, 98, 99] then abcDigest else ""

def uploadDefaults : UploadSettings := ⟨86400, 2592000⟩

def begunUpload : ObjectStore where
  upload :=
    { id := "upload", assetId := "asset", ownerId := "owner", expectedSize := 3
      expectedSha256 := abcDigest, partSize := 4194304, state := .uploading
      objectVersionId := none, updatedAt := 0, expiresAt := 86400, completedAt := none }
  parts := []
  versions := []
  asset :=
    { id := "asset", ownerId := "owner", size := 3, sha256 := "", storageState := "metadata"
      objectRef := "", validationStatus := "pending", version := 1, updatedAt := 0
      deletedAt := 0 }
  directory := true
  disk := ⟨fun _ => none, [], nofun, nofun⟩

theorem begun_upload_begun : begunUpload.Begun := ⟨rfl, rfl, rfl, fun _ _ => rfl⟩

def readyToCommit : List (Event UploadRequest UploadInput) :=
  [.call (.putPart ⟨"owner", 0, [97, 98, 99], abcDigest⟩ 1), .resume 0 ⟨1, ""⟩,
    .resume 0 ⟨1, ""⟩, .resume 0 ⟨1, ""⟩, .call (.completeUpload "owner"),
    .resume 0 ⟨2, ""⟩, .resume 0 ⟨2, ""⟩, .resume 0 ⟨2, ""⟩, .resume 0 ⟨2, ""⟩,
    .resume 0 ⟨2, ""⟩, .resume 0 ⟨2, ""⟩]

theorem finished_upload_stays : ∃ system later : System ObjectStore UploadTicket,
    (uploadRoutine uploadDefaults sampleDigest).run finishesAlone begunUpload
        (readyToCommit ++ [.resume 0 ⟨3, "version"⟩]) = some system ∧
      (uploadRoutine uploadDefaults sampleDigest).next system (.resume 0 ⟨4, ""⟩) = some later ∧
      system.data.upload.state = .committed ∧
      later.data.upload.state = .committed ∧
      later.data.upload.objectVersionId = some "version" ∧
      later.data.disk.read? .object = some [97, 98, 99] := by
  have ran : ((uploadRoutine uploadDefaults sampleDigest).run finishesAlone begunUpload
      (readyToCommit ++ [.resume 0 ⟨3, "version"⟩])).map (fun system =>
        (finishesAlone system (.resume 0 ⟨4, ""⟩),
          ((uploadRoutine uploadDefaults sampleDigest).next system (.resume 0 ⟨4, ""⟩)).isSome,
          decide (system.data.upload.state = .committed),
          decide (system.data.upload.objectVersionId = some "version"),
          decide (system.data.disk.read? .object = some [97, 98, 99]))) =
      some (true, true, true, true, true) := by decide +kernel
  obtain ⟨system, done, computed⟩ := map_eq_some_iff.mp ran
  simp only [Prod.mk.injEq] at computed
  simp only [decide_eq_true_eq] at computed
  obtain ⟨guarded, possible, state, version, object⟩ := computed
  obtain ⟨later, step⟩ := isSome_iff_exists.mp possible
  have final := committed_uploads_final uploadDefaults sampleDigest
    (run_reachable _ begun_upload_begun done) (.step (.refl system) guarded step)
  obtain ⟨still, same, ⟨content, before, after⟩, -⟩ := final.1 state
  rw [object] at before
  exact ⟨system, later, done, step, state, still, same.trans version, after.trans before.symm⟩

theorem late_abort_reopens_commit : ∃ system later : System ObjectStore UploadTicket,
    ((uploadRoutine uploadDefaults sampleDigest).machine ObjectStore.Begun).Reachable
        Anything system ∧
      (uploadRoutine uploadDefaults sampleDigest).next system (.resume 0 ⟨4, ""⟩) = some later ∧
      system.data.upload.state = .committed ∧ later.data.upload.state = .aborted := by
  have ran : ((uploadRoutine uploadDefaults sampleDigest).run (fun _ _ => true) begunUpload
      (readyToCommit ++ [.call (.abortUpload "owner"), .resume 0 ⟨3, "version"⟩])).map
        (fun system => (decide (system.data.upload.state = .committed),
          ((uploadRoutine uploadDefaults sampleDigest).next system (.resume 0 ⟨4, ""⟩)).map
            fun later => decide (later.data.upload.state = .aborted))) =
      some (true, some true) := by decide +kernel
  obtain ⟨system, done, computed⟩ := map_eq_some_iff.mp ran
  obtain ⟨committed, written⟩ := Prod.mk.inj computed
  obtain ⟨later, step, aborted⟩ := map_eq_some_iff.mp written
  refine ⟨system, later, ?_, step, of_decide_eq_true committed, of_decide_eq_true aborted⟩
  exact reachable_weaken (fun _ _ _ => trivial) (run_reachable _ begun_upload_begun done)

end AgentMate
