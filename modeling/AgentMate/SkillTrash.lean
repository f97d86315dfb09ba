import AgentMate.RunStore
import AgentMate.TransitionSystem
import Mathlib.Logic.Function.Basic

/-!
# The trash of uninstalled skills

An uninstall renames the package into the trash, and every scan may purge it, also the scan
that an uninstall begins with. The age of a package in the trash is taken from the modification
time of its directory, which the rename keeps.

`movedAt` and `trashedAt` are history: when a directory was moved, and since when an owner's
installation waits in the trash.
-/

namespace AgentMate.SkillTrash

open TransitionSystem Option

def trashRetentionSeconds : Time := 7 * 24 * 60 * 60

/-- `f"{int(time.time())}-{package_key}"` -/
abbrev TrashName := Int × String

/-- A row of `skill_installations`. -/
structure Installation where
  packageKey : String
  deleted : Bool
  trashPath : Option TrashName

structure TrashDir where
  modified : Time
  movedAt : Time

structure SkillDisk where
  clock : Time
  lastTrashPurge : Time
  /-- by owner and slug -/
  rows : String × String → Option Installation
  /-- the modification times of the package directories -/
  live : String → Option Time
  trash : TrashName → Option TrashDir
  trashedAt : String × String → Option Time

def TrashDir.expired (now : Time) (dir : TrashDir) : Bool := trashRetentionSeconds ≤ now - dir.modified

/-- `_purge_expired_trash`; `removed` tells which directories `rmtree` got rid of. -/
def SkillDisk.purge (disk : SkillDisk) (removed : TrashName → Bool) (now : Time) : SkillDisk :=
  if now - disk.lastTrashPurge < 3600 then { disk with clock := now }
  else
    let gone name := removed name && (disk.trash name).any (TrashDir.expired now)
    { disk with
      clock := now
      lastTrashPurge := now
      trash := fun name => if gone name then none else disk.trash name
      rows := fun id => (disk.rows id).filter fun row => !(row.deleted && row.trashPath.any gone) }

def SkillDisk.install (disk : SkillDisk) (id : String × String) (key : String) (now : Time) :
    SkillDisk :=
  { disk with
    clock := now
    rows := Function.update disk.rows id (some ⟨key, false, none⟩)
    live := Function.update disk.live key (some ((disk.live key).getD now))
    trashedAt := Function.update disk.trashedAt id none }

def SkillDisk.edit (disk : SkillDisk) (key : String) (now : Time) : SkillDisk :=
  { disk with clock := now, live := Function.update disk.live key ((disk.live key).map fun _ => now) }

/-- `delete_skill_installation` -/
def SkillDisk.delete (disk : SkillDisk) (id : String × String) (row : Installation) (now : Time) :
    SkillDisk :=
  { disk with
    clock := now
    rows := Function.update disk.rows id (some ⟨row.packageKey, true, none⟩) }

/-- `os.replace` into the trash and `set_skill_package_trash`. -/
def SkillDisk.moveToTrash (disk : SkillDisk) (key : String) (modified now : Time) : SkillDisk :=
  let waits row := row.deleted && row.packageKey = key
  { disk with
    live := Function.update disk.live key none
    trash := Function.update disk.trash (⌊now⌋, key) (some ⟨modified, now⟩)
    rows := fun id => (disk.rows id).map fun row =>
      if waits row then { row with trashPath := some (⌊now⌋, key) } else row
    trashedAt := fun id => if (disk.rows id).any waits then some now else disk.trashedAt id }

def SkillDisk.activate (disk : SkillDisk) (id : String × String) (row : Installation) : SkillDisk :=
  { disk with
    rows := Function.update disk.rows id (some ⟨row.packageKey, false, none⟩)
    trashedAt := Function.update disk.trashedAt id none }

/-- `restore`; `none` is a refusal. -/
def SkillDisk.restore (disk : SkillDisk) (id : String × String) : Option SkillDisk := do
  let row ← (disk.rows id).filter (·.deleted)
  if (disk.live row.packageKey).isSome then return disk.activate id row
  else
    let name ← row.trashPath
    let dir ← disk.trash name
    return { disk.activate id row with
      live := Function.update disk.live row.packageKey (some dir.modified)
      trash := Function.update disk.trash name none }

/-- What an uninstall finds: the directories that `rmtree` gets rid of in its scan, whether a
project refers to the skill, and whether `os.replace` succeeds. -/
structure Uninstall where
  removed : TrashName → Bool
  referenced : Bool
  renames : Bool

inductive SkillAction where
  | install (id : String × String) (key : String)
  | edit (key : String)
  | uninstall (id : String × String) (found : Uninstall)
  | restore (id : String × String)
  | scan (removed : TrashName → Bool)
  | restart

/-- No active installation uses the package, no project refers to it and the name is free. -/
def SkillDisk.Movable (disk : SkillDisk) (key : String) (found : Uninstall) (now : Time) : Prop :=
  (∀ id row, disk.rows id = some row → row.packageKey = key → row.deleted = true) ∧
    found.referenced = false ∧ found.renames = true ∧ disk.trash (⌊now⌋, key) = none

/-- One operation at the time `now`. An uninstall deletes a row that its scan has listed: an
active one whose package is there. A scan that adopts packages is a `scan` and `install`s. -/
inductive SkillStep (disk : SkillDisk) (now : Time) : SkillAction → SkillDisk → Prop
  | install (id : String × String) (key : String) :
      SkillStep disk now (.install id key) (disk.install id key now)
  | edit (key : String) : SkillStep disk now (.edit key) (disk.edit key now)
  | keep (id : String × String) (found : Uninstall) (row : Installation)
      (listed : (disk.purge found.removed now).rows id = some row) (active : row.deleted = false)
      (there : (disk.live row.packageKey).isSome = true)
      (stays : ¬ ((disk.purge found.removed now).delete id row now).Movable row.packageKey found now) :
      SkillStep disk now (.uninstall id found) ((disk.purge found.removed now).delete id row now)
  | move (id : String × String) (found : Uninstall) (row : Installation) (modified : Time)
      (listed : (disk.purge found.removed now).rows id = some row) (active : row.deleted = false)
      (there : disk.live row.packageKey = some modified)
      (movable : ((disk.purge found.removed now).delete id row now).Movable row.packageKey found now) :
      SkillStep disk now (.uninstall id found)
        (((disk.purge found.removed now).delete id row now).moveToTrash row.packageKey modified now)
  | restore (id : String × String) (next : SkillDisk) (restored : disk.restore id = some next) :
      SkillStep disk now (.restore id) { next with clock := now }
  | scan (removed : TrashName → Bool) : SkillStep disk now (.scan removed) (disk.purge removed now)
  -- the time of the last purge is a variable of the process
  | restart : SkillStep disk now .restart { disk with clock := now, lastTrashPurge := 0 }

def skillMachine : Machine SkillDisk (Time × SkillAction) where
  Initial disk := (∀ id, disk.rows id = none) ∧ ∀ id, disk.trashedAt id = none
  Step disk action next := disk.clock ≤ action.1 ∧ SkillStep disk action.1 action.2 next

/-- A purge that is due removes no directory that was moved within the retention period. -/
def SkillDisk.PurgesAged (disk : SkillDisk) (removed : TrashName → Bool) (now : Time) : Prop :=
  3600 ≤ now - disk.lastTrashPurge → ∀ name dir, disk.trash name = some dir →
    removed name = true → dir.expired now = true → trashRetentionSeconds ≤ now - dir.movedAt

def OwnAge (disk : SkillDisk) (action : Time × SkillAction) : Prop :=
  match action.2 with
  | .scan removed => disk.PurgesAged removed action.1
  | .uninstall _ found => disk.PurgesAged found.removed action.1
  | _ => True

/-- What waits in the trash for less than the retention period can be restored. -/
def Restorable (disk : SkillDisk) : Prop :=
  ∀ id since, disk.trashedAt id = some since → disk.clock < since + trashRetentionSeconds →
    (disk.restore id).isSome = true

structure SkillDisk.Holds (disk : SkillDisk) (since : Time) (row : Installation) : Prop where
  deleted : row.deleted = true
  moved : ∀ name ∈ row.trashPath, ∀ dir, disk.trash name = some dir → since ≤ dir.movedAt
  place : (disk.live row.packageKey).isSome = true ∨
    ∃ name ∈ row.trashPath, (disk.trash name).isSome = true

structure TrashInv (disk : SkillDisk) : Prop where
  named : ∀ id row, disk.rows id = some row → ∀ name ∈ row.trashPath, name.2 = row.packageKey
  kept : ∀ id since, disk.trashedAt id = some since → disk.clock < since + trashRetentionSeconds →
    ∃ row, disk.rows id = some row ∧ disk.Holds since row

section

variable {disk next : SkillDisk} {now : Time}

theorem inv_restorable (inv : TrashInv disk) : Restorable disk := by
  intro id since waits young
  obtain ⟨row, found, deleted, -, place⟩ := inv.kept id since waits young
  rw [SkillDisk.restore, found, filter_some, deleted, if_pos rfl]
  by_cases live : (disk.live row.packageKey).isSome = true
  · simp [live]
  · obtain ⟨name, named, lies⟩ := place.resolve_left live
    obtain ⟨dir, lies⟩ := isSome_iff_exists.mp lies
    simp [live, mem_def.mp named, lies]

theorem inv_frame (inv : TrashInv disk) (later : disk.clock ≤ next.clock)
    (live : ∀ key, (disk.live key).isSome = true → (next.live key).isSome = true)
    (trash : ∀ name, next.trash name = disk.trash name ∨
      next.trash name = none ∧ (next.live name.2).isSome = true)
    (rows : ∀ id, next.rows id = disk.rows id ∧ next.trashedAt id = disk.trashedAt id ∨
      (∀ row ∈ next.rows id, row.trashPath = none) ∧ (next.trashedAt id = none ∨
        next.trashedAt id = disk.trashedAt id ∧ ∀ row ∈ disk.rows id, row.deleted = false)) :
    TrashInv next := by
  refine ⟨fun id row found name path => ?_, fun id since waits young => ?_⟩
  · obtain ⟨same, -⟩ | ⟨none, -⟩ := rows id
    · exact inv.named id row (same ▸ found) name path
    · rw [none row found] at path
      cases path
  · obtain ⟨same, unmoved⟩ | ⟨-, fresh | ⟨unmoved, active⟩⟩ := rows id
    · obtain ⟨row, found, deleted, moved, place⟩ :=
        inv.kept id since (unmoved ▸ waits) (later.trans_lt young)
      refine ⟨row, same.trans found, deleted, fun name path dir lies => ?_, ?_⟩
      · obtain kept | ⟨gone, -⟩ := trash name
        · exact moved name path dir (kept ▸ lies)
        · rw [gone] at lies
          cases lies
      · obtain there | ⟨name, path, lies⟩ := place
        · exact .inl (live _ there)
        · obtain kept | ⟨-, back⟩ := trash name
          · exact .inr ⟨name, path, kept ▸ lies⟩
          · exact .inl (inv.named id row found name path ▸ back)
    · rw [fresh] at waits
      cases waits
    · obtain ⟨row, found, deleted, -, -⟩ :=
        inv.kept id since (unmoved ▸ waits) (later.trans_lt young)
      rw [active row found] at deleted
      cases deleted

/-- Only the installation `id` changes, to one without a path. -/
theorem inv_single {id : String × String} {row : Installation} (inv : TrashInv disk)
    (later : disk.clock ≤ next.clock)
    (live : ∀ key, (disk.live key).isSome = true → (next.live key).isSome = true)
    (trash : ∀ name, next.trash name = disk.trash name ∨
      next.trash name = none ∧ (next.live name.2).isSome = true)
    (path : row.trashPath = none) (rows : next.rows = Function.update disk.rows id (some row))
    (waits : next.trashedAt = Function.update disk.trashedAt id none ∨
      next.trashedAt = disk.trashedAt ∧ ∀ old ∈ disk.rows id, old.deleted = false) :
    TrashInv next := by
  refine inv_frame inv later live trash fun other => ?_
  rw [rows]
  by_cases same : other = id
  · subst same
    refine .inr ⟨by simp [path], waits.imp (fun none => ?_) fun both => ⟨by rw [both.1], both.2⟩⟩
    rw [none, Function.update_self]
  · refine .inl ⟨Function.update_of_ne same .., ?_⟩
    obtain none | ⟨kept, -⟩ := waits
    · rw [none, Function.update_of_ne same]
    · rw [kept]

theorem purge_clock (removed : TrashName → Bool) : (disk.purge removed now).clock = now := by
  rw [SkillDisk.purge]
  split_ifs <;> rfl

theorem delete_inv {id : String × String} {row : Installation} (inv : TrashInv disk)
    (later : disk.clock ≤ now) (listed : disk.rows id = some row) (active : row.deleted = false) :
    TrashInv (disk.delete id row now) :=
  inv_single inv later (fun _ there => there) (fun _ => .inl rfl) rfl rfl
    (.inr ⟨rfl, by simp [listed, active]⟩)

theorem purge_inv (inv : TrashInv disk) (later : disk.clock ≤ now) (removed : TrashName → Bool)
    (aged : disk.PurgesAged removed now) : TrashInv (disk.purge removed now) := by
  rw [SkillDisk.purge]
  split_ifs with soon
  · exact inv_frame inv later (fun _ => id) (fun _ => .inl rfl) fun _ => .inl ⟨rfl, rfl⟩
  · have purges : 3600 ≤ now - disk.lastTrashPurge := not_lt.mp soon
    refine ⟨fun id row found name path => ?_, fun id since waits young => ?_⟩
    · exact inv.named id row (filter_eq_some_iff.mp found).1 name path
    · obtain ⟨row, found, deleted, moved, place⟩ := inv.kept id since waits (later.trans_lt young)
      have stays : ∀ name ∈ row.trashPath,
          (removed name && (disk.trash name).any (TrashDir.expired now)) = false := by
        intro name path
        by_contra gone
        rw [Bool.not_eq_false, Bool.and_eq_true, any_eq_true] at gone
        obtain ⟨chosen, dir, lies, old⟩ := gone
        have age := aged purges name dir lies chosen old
        have after := moved name path dir lies
        linarith
      refine ⟨row, filter_eq_some_iff.mpr ⟨found, ?_⟩, deleted, fun name path dir lies => ?_, ?_⟩
      · cases path : row.trashPath with
        | none => simp
        | some name => simp [stays name path]
      · simp only [stays name path, Bool.false_eq_true, if_false] at lies
        exact moved name path dir lies
      · refine place.imp (fun live => live) fun ⟨name, path, lies⟩ => ⟨name, path, ?_⟩
        simpa [stays name path] using lies

theorem move_inv {key : String} (inv : TrashInv disk) (modified now : Time) :
    TrashInv (disk.moveToTrash key modified now) := by
  refine ⟨fun id row found name path => ?_, fun id since waits young => ?_⟩
  · obtain ⟨old, before, rfl⟩ := map_eq_some_iff.mp found
    split_ifs at path ⊢ with waiting
    · cases path
      exact (by simpa using waiting : old.deleted = true ∧ old.packageKey = key).2.symm
    · exact inv.named id old before name path
  · have trash : (disk.moveToTrash key modified now).trash =
        Function.update disk.trash (⌊now⌋, key) (some ⟨modified, now⟩) := rfl
    have live : (disk.moveToTrash key modified now).live = Function.update disk.live key none := rfl
    simp only [SkillDisk.moveToTrash] at waits young
    cases before : disk.rows id with
    | none =>
      obtain ⟨row, found, -⟩ := inv.kept id since (by simpa [before] using waits) young
      rw [before] at found
      cases found
    | some row =>
      rw [before, any_some] at waits
      by_cases waiting : (row.deleted && row.packageKey = key) = true
      · rw [if_pos waiting] at waits
        obtain rfl := Option.some.inj waits
        rw [Bool.and_eq_true, decide_eq_true_eq] at waiting
        refine ⟨{ row with trashPath := some (⌊now⌋, key) },
          by simp [SkillDisk.moveToTrash, before, waiting],
          waiting.1, ?_, .inr ⟨_, rfl, by simp [trash]⟩⟩
        rintro name ⟨⟩ dir lies
        rw [trash, Function.update_self] at lies
        cases lies
        exact le_rfl
      · rw [if_neg waiting] at waits
        obtain ⟨same, found, deleted, moved, place⟩ := inv.kept id since waits young
        obtain rfl := Option.some.inj (before.symm.trans found)
        have other : row.packageKey ≠ key := by simpa [deleted] using waiting
        have apart : ∀ name ∈ row.trashPath, name ≠ (⌊now⌋, key) := fun name path same =>
          other (inv.named id row before name path ▸ congrArg Prod.snd same)
        have rows : (disk.moveToTrash key modified now).rows id = some row := by
          simp [SkillDisk.moveToTrash, before, other]
        refine ⟨row, rows, deleted, fun name path dir lies => ?_, ?_⟩
        · rw [trash, Function.update_of_ne (apart name path)] at lies
          exact moved name path dir lies
        · refine place.imp (fun there => ?_) fun ⟨name, path, lies⟩ => ⟨name, path, ?_⟩
          · rwa [live, Function.update_of_ne other]
          · rwa [trash, Function.update_of_ne (apart name path)]

theorem step_inv {action : Time × SkillAction} (inv : TrashInv disk) (aged : OwnAge disk action)
    (step : skillMachine.Step disk action next) : TrashInv next := by
  obtain ⟨now, action⟩ := action
  obtain ⟨later, step⟩ := step
  cases step with
  | install id key =>
    refine inv_single inv later (fun other there => ?_) (fun _ => .inl rfl) rfl rfl (.inl rfl)
    by_cases same : other = key <;> simp [SkillDisk.install, same, there]
  | edit key =>
    refine inv_frame inv later (fun other there => ?_) (fun _ => .inl rfl) fun _ => .inl ⟨rfl, rfl⟩
    by_cases same : other = key
    · subst same
      simpa [SkillDisk.edit] using there
    · simpa [SkillDisk.edit, Function.update_apply, same] using there
  | keep id found row listed active there stays =>
    exact delete_inv (purge_inv inv later found.removed aged) (purge_clock _).le listed active
  | move id found row modified listed active there movable =>
    have purged : TrashInv (disk.purge found.removed now) := purge_inv inv later found.removed aged
    exact move_inv (delete_inv purged (purge_clock _).le listed active) modified now
  | restore id restoredDisk restored =>
    obtain ⟨row, waiting, restored⟩ := bind_eq_some_iff.mp restored
    have found := (filter_eq_some_iff.mp waiting).1
    split_ifs at restored with live
    · cases restored
      exact inv_single inv later (fun _ there => there) (fun _ => .inl rfl) rfl rfl (.inl rfl)
    · obtain ⟨name, path, restored⟩ := bind_eq_some_iff.mp restored
      obtain ⟨dir, lies, restored⟩ := bind_eq_some_iff.mp restored
      cases restored
      refine inv_single inv later (fun other there => ?_) (fun other => ?_) rfl rfl (.inl rfl)
      · by_cases same : other = row.packageKey <;> simp [same, there]
      · by_cases same : other = name
        · exact .inr (by simp [same, inv.named id row found name path])
        · exact .inl (by simp [same])
  | scan removed => exact purge_inv inv later removed aged
  | restart => exact inv_frame inv later (fun _ => id) (fun _ => .inl rfl) fun _ => .inl ⟨rfl, rfl⟩

end

theorem trash_restorable {disk : SkillDisk} (reachable : skillMachine.Reachable OwnAge disk) :
    Restorable disk := by
  refine inv_restorable (reachable_invariant TrashInv (fun start initial => ?_)
    (fun _ _ _ inv aged step => step_inv inv aged step) reachable)
  constructor
  · intro id row found
    rw [initial.1 id] at found
    cases found
  · intro id since waits
    rw [initial.2 id] at waits
    cases waits

def emptyDisk : SkillDisk := ⟨0, 0, fun _ => none, fun _ => none, fun _ => none, fun _ => none⟩

def skill : String × String := ("a", "pdf")

def installed : SkillDisk := emptyDisk.install skill "pdf" 0

def unhindered : Uninstall := ⟨fun _ => true, false, true⟩

def trashed (now : Time) : SkillDisk :=
  ((installed.purge unhindered.removed now).delete skill ⟨"pdf", false, none⟩ now).moveToTrash "pdf" 0 now

theorem installed_only {removed : TrashName → Bool} {now : Time} {id : String × String}
    {row : Installation} (listed : (installed.purge removed now).rows id = some row) :
    id = skill := by
  have first : installed.rows id = some row := by
    rw [SkillDisk.purge] at listed
    split_ifs at listed
    · exact listed
    · exact (filter_eq_some_iff.mp listed).1
  by_contra other
  simp [installed, SkillDisk.install, emptyDisk, other] at first

theorem installed_listed (removed : TrashName → Bool) (now : Time) :
    (installed.purge removed now).rows skill = some ⟨"pdf", false, none⟩ := by
  rw [SkillDisk.purge]
  split_ifs <;> rfl

theorem purged_empty (removed : TrashName → Bool) (now : Time) (name : TrashName) :
    (installed.purge removed now).trash name = none := by
  rw [SkillDisk.purge]
  split_ifs
  · rfl
  · simp [installed, SkillDisk.install, emptyDisk]

theorem trashed_dir {now : Time} {name : TrashName} {dir : TrashDir}
    (lies : (trashed now).trash name = some dir) : dir = ⟨0, now⟩ := by
  by_cases same : name = (⌊now⌋, "pdf")
  · subst same
    simpa [trashed, SkillDisk.moveToTrash] using lies.symm
  · have purged : (installed.purge unhindered.removed now).trash name = some dir := by
      simpa [trashed, SkillDisk.moveToTrash, SkillDisk.delete, same] using lies
    rw [purged_empty] at purged
    cases purged

theorem installed_trashed (now : Time) (later : 0 ≤ now) :
    skillMachine.Step installed (now, .uninstall skill unhindered) (trashed now) := by
  refine ⟨later, .move skill unhindered ⟨"pdf", false, none⟩ 0 (installed_listed _ now) rfl rfl
    ⟨fun id row listed _ => ?_, rfl, rfl, ?_⟩⟩
  · by_cases same : id = skill
    · subst same
      cases listed
      rfl
    · have purged : (installed.purge unhindered.removed now).rows id = some row := by
        simpa [SkillDisk.delete, same] using listed
      exact absurd (installed_only purged) same
  · exact purged_empty _ now _

theorem installed_reachable (Guard : SkillDisk → Time × SkillAction → Prop)
    (guarded : Guard emptyDisk (0, .install skill "pdf")) : skillMachine.Reachable Guard installed :=
  ⟨emptyDisk, ⟨fun _ => rfl, fun _ => rfl⟩, .step (.refl _) guarded ⟨le_rfl, .install skill "pdf"⟩⟩

/-- A purge an hour later looks at the directory, which is not old yet. -/
theorem trashed_restorable : Restorable ((trashed 5).purge (fun _ => true) 3605) := by
  have trashes : OwnAge installed (5, .uninstall skill unhindered) := by
    intro _ name dir lies
    cases lies
  have purges : OwnAge (trashed 5) (3605, .scan fun _ => true) := by
    intro _ name dir lies _ old
    rw [trashed_dir lies] at old
    exact absurd old (by decide +kernel)
  have moved : skillMachine.Reachable OwnAge (trashed 5) :=
    reachable_step (installed_reachable OwnAge trivial) trashes (installed_trashed 5 (by norm_num))
  exact trash_restorable (reachable_step moved purges
    (show skillMachine.Step _ (3605, .scan fun _ => true) _ from
      ⟨(by norm_num : (5 : Time) ≤ 3605), .scan _⟩))

theorem uninstalled_purged : ∃ disk, skillMachine.Reachable Anything disk ∧ ¬ Restorable disk := by
  refine ⟨_, reachable_step (reachable_step (installed_reachable Anything trivial) trivial
    (installed_trashed 604800 (by norm_num))) trivial
    (show skillMachine.Step _ (608400, .scan fun _ => true) _ from
      ⟨(by norm_num : (604800 : Time) ≤ 608400), .scan _⟩), ?_⟩
  intro kept
  exact absurd (kept skill 604800 (by decide +kernel) (by decide +kernel)) (by decide +kernel)

end AgentMate.SkillTrash
