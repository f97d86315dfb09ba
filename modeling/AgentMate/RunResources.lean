import AgentMate.FairLock
import AgentMate.TransitionSystem
import Mathlib.Data.List.Sort
import Mathlib.Data.List.Dedup
import Mathlib.Data.String.Basic
import Mathlib.Logic.Relation

/-!
# Resources of the Server's Runs

A tool call takes the locks of its resources one after the other, in the order of their
keys, and gives them back when it ends. It may be cancelled wherever it awaits. All tool
calls run in the event loop of the worker.
-/

namespace AgentMate.RunResources

open FairLock TransitionSystem List

section

variable {Task Run Key : Type*}

/-- Where a task is in `acquire`: before or after it, between two keys or in the body, or at
`await lock.acquire()`, perhaps with a cancellation that is not delivered yet. -/
inductive Stage (Key : Type*) where
  | outside
  | acquiring (held rest : List Key)
  | waiting (held : List Key) (key : Key) (rest : List Key) (cancelled : Bool)
  deriving DecidableEq

/-- `acquired`. -/
def Stage.held : Stage Key → List Key
  | .outside => []
  | .acquiring held _ => held
  | .waiting held _ _ _ => held

def Stage.awaits : Stage Key → Option Key
  | .waiting _ key _ _ => some key
  | _ => none

def Stage.keys : Stage Key → List Key
  | .outside => []
  | .acquiring held rest => held ++ rest
  | .waiting held key rest _ => held ++ key :: rest

structure Resources (Task Run Key : Type*) where
  locks : Key → Lock Task
  stage : Task → Stage Key
  waiting : Run → Key → Bool
  holding : Run → Key → Bool

/-- A task without a context enters with no keys. `unbind` is the end of `bind`. -/
inductive Action (Task Run Key : Type*) where
  | enter (task : Task) (keys : List Key)
  | proceed (task : Task)
  | cancel (task : Task)
  | resume (task : Task)
  | leave (task : Task)
  | unbind (run : Run)

variable [DecidableEq Task] [DecidableEq Run] [LinearOrder Key]

/-- `_set_state`. -/
def setState (table : Run → Key → Bool) (run : Run) (key : Key) (present : Bool) :
    Run → Key → Bool :=
  fun other name => if other = run ∧ name = key then present else table other name

variable (runOf : Task → Run)

/-- What follows a successful `await lock.acquire()`. -/
def Resources.obtained (world : Resources Task Run Key) (task : Task) (held : List Key) (key : Key)
    (rest : List Key) (lock : Lock Task) : Resources Task Run Key where
  locks := Function.update world.locks key lock
  stage := Function.update world.stage task (.acquiring (held ++ [key]) rest)
  waiting := setState world.waiting (runOf task) key false
  holding := setState world.holding (runOf task) key true

def releaseAll (locks : Key → Lock Task) (keys : List Key) : Option (Key → Lock Task) :=
  keys.foldlM (fun locks key => (locks key).release.map (Function.update locks key)) locks

/-- The outer `finally`. -/
def Resources.exit (world : Resources Task Run Key) (task : Task) (held : List Key) :
    Option (Resources Task Run Key) :=
  (releaseAll world.locks held.reverse).map fun locks =>
    { locks := locks
      stage := Function.update world.stage task .outside
      waiting := world.waiting
      holding := held.reverse.foldl (fun table key => setState table (runOf task) key false)
        world.holding }

def Resources.next (world : Resources Task Run Key) :
    Action Task Run Key → Option (Resources Task Run Key)
  | .enter task keys =>
    match world.stage task with
    | .outside => some { world with
        stage := Function.update world.stage task
          (.acquiring [] (keys.dedup.insertionSort (· ≤ ·))) }
    | _ => none
  | .proceed task =>
    match world.stage task with
    | .acquiring held (key :: rest) =>
      if (world.locks key).isFree then
        some (world.obtained runOf task held key rest (world.locks key).take)
      else some { world with
        locks := Function.update world.locks key ((world.locks key).enqueue task)
        stage := Function.update world.stage task (.waiting held key rest false)
        waiting := if (world.locks key).locked then
          setState world.waiting (runOf task) key true else world.waiting }
    | _ => none
  | .cancel task =>
    match world.stage task with
    | .waiting held key rest _ => some { world with
        locks := Function.update world.locks key ((world.locks key).cancel task)
        stage := Function.update world.stage task (.waiting held key rest true) }
    | _ => none
  | .resume task =>
    match world.stage task with
    | .waiting held key rest cancelled =>
      if (task, .pending) ∈ (world.locks key).waiters then none
      else if cancelled = true ∨ (task, .cancelled) ∈ (world.locks key).waiters then
        { world with
          locks := Function.update world.locks key ((world.locks key).giveUp task)
          waiting := setState world.waiting (runOf task) key false }.exit runOf task held
      else some (world.obtained runOf task held key rest ((world.locks key).takeUp task))
    | _ => none
  | .leave task =>
    match world.stage task with
    | .acquiring held [] => world.exit runOf task held
    | _ => none
  | .unbind run => some { world with
      waiting := fun other key => if other = run then false else world.waiting other key
      holding := fun other key => if other = run then false else world.holding other key }

def Resources.Initial (world : Resources Task Run Key) : Prop :=
  (∀ key, world.locks key = ⟨false, []⟩) ∧ (∀ task, world.stage task = .outside) ∧
    ∀ run key, world.waiting run key = false ∧ world.holding run key = false

def resourceMachine : Machine (Resources Task Run Key) (Action Task Run Key) where
  Initial := Resources.Initial
  Step world action after := world.next runOf action = some after

def Resources.Holds (world : Resources Task Run Key) (task : Task) (key : Key) : Prop :=
  key ∈ (world.stage task).held

def Resources.Awaits (world : Resources Task Run Key) (task : Task) (key : Key) : Prop :=
  (world.stage task).awaits = some key

/-- Every lock knows its holder and its waiters, tasks take their keys in order, and a key is
reported for a Run only while a task of it waits for the key or holds it. -/
structure Resources.Inv (world : Resources Task Run Key) : Prop where
  locks : ∀ key, (world.locks key).Sound (world.Holds · key) (world.Awaits · key)
  sorted : ∀ task, (world.stage task).keys.Pairwise (· < ·)
  waiting : ∀ run key, world.waiting run key = true →
    ∃ task, runOf task = run ∧ world.Awaits task key
  holding : ∀ run key, world.holding run key = true →
    ∃ task, runOf task = run ∧ world.Holds task key

variable {runOf} {world after : Resources Task Run Key} {task : Task} {held rest : List Key}
  {key : Key} {lock : Lock Task} {run : Run}

section

variable {stage : Stage Key} {name : Key}

omit [DecidableEq Run] [LinearOrder Key] in
theorem sound_kept (sound : lock.Sound (world.Holds · name) (world.Awaits · name))
    (holds : name ∈ stage.held ↔ world.Holds task name)
    (awaits : stage.awaits = some name ↔ world.Awaits task name) :
    lock.Sound (fun other => name ∈ (Function.update world.stage task stage other).held)
      (fun other => (Function.update world.stage task stage other).awaits = some name) := by
  apply sound_of_iff sound <;> intro other <;> by_cases own : other = task
  · rw [own, Function.update_self, holds]
  · rw [Function.update_of_ne own, Resources.Holds]
  · rw [own, Function.update_self, awaits]
  · rw [Function.update_of_ne own, Resources.Awaits]

omit [DecidableEq Run] in
theorem sound_moved (inv : world.Inv runOf)
    (others : ∀ name, name ≠ key → (name ∈ stage.held ↔ world.Holds task name) ∧
      (stage.awaits = some name ↔ world.Awaits task name))
    (sound : lock.Sound (fun other => key ∈ (Function.update world.stage task stage other).held)
      (fun other => (Function.update world.stage task stage other).awaits = some key))
    (name : Key) : (Function.update world.locks key lock name).Sound
      (fun other => name ∈ (Function.update world.stage task stage other).held)
      (fun other => (Function.update world.stage task stage other).awaits = some name) := by
  by_cases named : name = key
  · subst named
    rwa [Function.update_self]
  · rw [Function.update_of_ne named]
    exact sound_kept (inv.locks name) (others name named).1 (others name named).2

omit [DecidableEq Run] in
theorem sorted_moved (sorted : ∀ other, (world.stage other).keys.Pairwise (· < ·))
    (own : stage.keys.Pairwise (· < ·)) (other : Task) :
    (Function.update world.stage task stage other).keys.Pairwise (· < ·) := by
  by_cases same : other = task
  · rwa [same, Function.update_self]
  · rw [Function.update_of_ne same]
    exact sorted other

omit [DecidableEq Run] [LinearOrder Key] in
/-- What is reported stands while the task is not the one that is meant, or still accounts
for it. -/
theorem reported_moved (Shows : Stage Key → Prop)
    (shown : ∃ other, runOf other = run ∧ Shows (world.stage other))
    (kept : run = runOf task → Shows (world.stage task) → Shows stage) :
    ∃ other, runOf other = run ∧ Shows (Function.update world.stage task stage other) := by
  obtain ⟨other, named, shows⟩ := shown
  by_cases own : other = task
  · subst own
    exact ⟨other, named, by rw [Function.update_self]; exact kept named.symm shows⟩
  · exact ⟨other, named, by rwa [Function.update_of_ne own]⟩

omit [DecidableEq Task] in
theorem set_state_true {table : Run → Key → Bool} {other : Run} {present : Bool}
    (reported : setState table run key present other name = true) :
    (present = true ∧ other = run ∧ name = key) ∨
      (table other name = true ∧ ¬(other = run ∧ name = key)) := by
  rw [setState] at reported
  split at reported
  · next here => exact Or.inl ⟨reported, here⟩
  · next elsewhere => exact Or.inr ⟨reported, elsewhere⟩

omit [DecidableEq Task] in
theorem cleared_state {keys : List Key} {table : Run → Key → Bool} {other : Run}
    (reported : keys.foldl (fun table key => setState table run key false) table other name =
      true) : table other name = true ∧ ¬(other = run ∧ name ∈ keys) := by
  induction keys generalizing table with
  | nil => exact ⟨reported, fun both => nomatch both.2⟩
  | cons key keys ih =>
    obtain ⟨before, elsewhere⟩ := ih reported
    obtain ⟨⟨⟩, -⟩ | ⟨stands, differs⟩ := set_state_true before
    refine ⟨stands, ?_⟩
    rintro ⟨same, mem⟩
    rcases mem_cons.mp mem with first | behind
    · exact differs ⟨same, first⟩
    · exact elsewhere ⟨same, behind⟩

end

theorem obtained_inv (inv : world.Inv runOf) (holds : (world.stage task).held = held)
    (keys : (world.stage task).keys = held ++ key :: rest)
    (awaits : ∀ name, name ≠ key → ¬world.Awaits task name)
    (free : ∀ other, ¬world.Holds other key)
    (sound : lock.Sound (fun other => other = task)
      fun other => world.Awaits other key ∧ other ≠ task) :
    (world.obtained runOf task held key rest lock).Inv runOf := by
  constructor
  · apply sound_moved inv
    · intro name differs
      rw [Resources.Holds, holds]
      simp [Stage.held, Stage.awaits, differs, awaits name differs]
    · apply sound_of_iff sound <;> intro other <;> by_cases own : other = task
      · simp [own, Stage.held]
      · simpa [own, Resources.Holds] using free other
      · simp [own, Stage.awaits]
      · simp [own, Resources.Awaits]
  · apply sorted_moved inv.sorted
    have order := inv.sorted task
    rw [keys] at order
    simpa [Stage.keys] using order
  · intro run name reported
    obtain ⟨⟨⟩, -⟩ | ⟨before, elsewhere⟩ := set_state_true reported
    apply reported_moved (fun stage => stage.awaits = some name) (inv.waiting run name before)
    intro same shows
    by_cases named : name = key
    · exact absurd ⟨same, named⟩ elsewhere
    · exact absurd shows (awaits name named)
  · intro run name reported
    rcases set_state_true reported with ⟨-, rfl, rfl⟩ | ⟨before, -⟩
    · exact ⟨task, rfl, by simp [Resources.obtained, Resources.Holds, Stage.held]⟩
    · apply reported_moved (fun stage => name ∈ stage.held) (inv.holding run name before)
      rintro - shows
      exact mem_append_left _ (holds ▸ shows)

omit [DecidableEq Task] [DecidableEq Run] in
theorem release_all {locks : Key → Lock Task} {keys : List Key} (distinct : keys.Nodup)
    (taken : ∀ key ∈ keys, ∃ next, (locks key).release = some next) :
    ∃ after, releaseAll locks keys = some after ∧ ∀ key, (key ∉ keys → after key = locks key) ∧
      (key ∈ keys → (locks key).release = some (after key)) := by
  induction keys generalizing locks with
  | nil => exact ⟨locks, rfl, fun key => ⟨fun _ => rfl, fun mem => nomatch mem⟩⟩
  | cons first keys ih =>
    obtain ⟨absent, distinct⟩ := nodup_cons.mp distinct
    obtain ⟨next, released⟩ := taken first mem_cons_self
    have others : ∀ key, key ≠ first → Function.update locks first next key = locks key :=
      fun key differs => Function.update_of_ne differs _ _
    have behind : ∀ key ∈ keys,
        ∃ after, (Function.update locks first next key).release = some after := by
      intro key mem
      rw [others key fun same => absent (same ▸ mem)]
      exact taken key (mem_cons_of_mem _ mem)
    obtain ⟨after, all, each⟩ := ih distinct behind
    refine ⟨after, by rw [releaseAll, foldlM_cons, released]; exact all, fun key => ?_⟩
    by_cases same : key = first
    · subst same
      refine ⟨fun out => absurd mem_cons_self out, fun _ => ?_⟩
      rw [(each key).1 absent, Function.update_self, released]
    · rw [← others key same]
      constructor
      · exact fun out => (each key).1 fun mem => out (mem_cons_of_mem _ mem)
      · exact fun mem => (each key).2 ((mem_cons.mp mem).resolve_left same)

theorem exit_inv (exited : world.exit runOf task held = some after)
    (holds : (world.stage task).held = held)
    (locks : ∀ name, (world.locks name).Sound (world.Holds · name)
      fun other => world.Awaits other name ∧ other ≠ task)
    (sorted : ∀ other, (world.stage other).keys.Pairwise (· < ·))
    (waiting : ∀ run name, world.waiting run name = true →
      ∃ other, runOf other = run ∧ other ≠ task ∧ world.Awaits other name)
    (holding : ∀ run name, world.holding run name = true →
      ∃ other, runOf other = run ∧ world.Holds other name) : after.Inv runOf := by
  have mem : ∀ name, name ∈ held.reverse ↔ world.Holds task name := by
    intro name
    rw [mem_reverse, Resources.Holds, holds]
  have distinct : held.reverse.Nodup := by
    have order := sorted task
    rw [nodup_reverse, ← holds]
    cases stage : world.stage task with
    | outside => exact nodup_nil
    | acquiring held rest =>
      rw [stage] at order
      exact (pairwise_append.mp order).1.imp ne_of_lt
    | waiting held key rest cancelled =>
      rw [stage] at order
      exact (pairwise_append.mp order).1.imp ne_of_lt
  have taken : ∀ key ∈ held.reverse, ∃ next, (world.locks key).release = some next := by
    intro key listed
    obtain ⟨next, released, -⟩ := sound_release (locks key) ((mem key).mp listed)
    exact ⟨next, released⟩
  obtain ⟨after, all, each⟩ := release_all distinct taken
  rw [Resources.exit, all] at exited
  cases exited
  constructor
  · intro name
    have left : ∀ other, world.Awaits other name ∧ other ≠ task ↔
        (Function.update world.stage task .outside other).awaits = some name := by
      intro other
      by_cases own : other = task
      · simp [own, Stage.awaits]
      · simp [own, Resources.Awaits]
    by_cases listed : name ∈ held.reverse
    · obtain ⟨next, released, sound⟩ := sound_release (locks name) ((mem name).mp listed)
      rw [(each name).2 listed] at released
      cases released
      apply sound_of_iff sound (fun other => ?_) fun other => (left other).symm
      refine iff_of_false ?_ id
      show name ∉ (Function.update world.stage task .outside other).held
      by_cases own : other = task
      · simp [own, Stage.held]
      · rw [Function.update_of_ne own]
        exact fun holder => own ((locks name).alone _ _ holder ((mem name).mp listed))
    · show (after name).Sound _ _
      rw [(each name).1 listed]
      apply sound_of_iff (locks name) (fun other => ?_) fun other => (left other).symm
      show name ∈ (Function.update world.stage task .outside other).held ↔ _
      by_cases own : other = task
      · rw [own, Function.update_self]
        exact iff_of_false not_mem_nil (mt (mem name).mpr listed)
      · rw [Function.update_of_ne own, Resources.Holds]
  · exact sorted_moved sorted List.Pairwise.nil
  · intro run name reported
    obtain ⟨other, named, differs, awaits⟩ := waiting run name reported
    refine ⟨other, named, ?_⟩
    show (Function.update world.stage task .outside other).awaits = some name
    rwa [Function.update_of_ne differs]
  · intro run name reported
    obtain ⟨before, elsewhere⟩ := cleared_state reported
    apply reported_moved (fun stage => name ∈ stage.held) (holding run name before)
    exact fun same shows => absurd ⟨same, (mem name).mpr shows⟩ elsewhere

variable {action : Action Task Run Key}

theorem enter_inv (inv : world.Inv runOf) {keys : List Key}
    (taken : world.next runOf (.enter task keys) = some after) : after.Inv runOf := by
  rw [Resources.next] at taken
  split at taken <;> cases taken
  next start =>
  refine ⟨fun name => sound_kept (inv.locks name) ?_ ?_, sorted_moved inv.sorted ?_, ?_, ?_⟩
  · simp [Stage.held, Resources.Holds, start]
  · simp [Stage.awaits, Resources.Awaits, start]
  · have order := pairwise_insertionSort (· ≤ ·) keys.dedup
    have distinct : (keys.dedup.insertionSort (· ≤ ·)).Nodup :=
      (perm_insertionSort _ _).nodup_iff.mpr keys.nodup_dedup
    exact order.imp₂ (fun _ _ below differs => lt_of_le_of_ne below differs) distinct
  · intro run name reported
    apply reported_moved (fun stage => stage.awaits = some name) (inv.waiting run name reported)
    simp [start, Stage.awaits]
  · intro run name reported
    apply reported_moved (fun stage => name ∈ stage.held) (inv.holding run name reported)
    simp [start, Stage.held]

theorem proceed_inv (inv : world.Inv runOf)
    (taken : world.next runOf (.proceed task) = some after) : after.Inv runOf := by
  rw [Resources.next] at taken
  split at taken
  · next held key rest start =>
    have idle : ∀ name, ¬world.Awaits task name := by simp [Resources.Awaits, start, Stage.awaits]
    split at taken <;> cases taken
    · next free =>
      have unlocked : (world.locks key).locked = false := by
        simp only [Lock.isFree, Bool.and_eq_true, Bool.not_eq_true'] at free
        exact free.1
      apply obtained_inv inv (by rw [start]; rfl) (by rw [start]; rfl) (fun name _ => idle name)
        (no_holder (inv.locks key) unlocked)
      apply sound_of_iff (sound_take (inv.locks key) free) (fun _ => Iff.rfl)
      exact fun other => ⟨And.left, fun awaits => ⟨awaits, fun own => idle key (own ▸ awaits)⟩⟩
    · constructor
      · apply sound_moved inv
        · intro name differs
          simp [Stage.held, Stage.awaits, Resources.Holds, start, idle, differs.symm]
        · apply sound_of_iff (sound_enqueue (inv.locks key) (idle key)) <;> intro other <;>
            by_cases own : other = task
          · simp [own, Stage.held, Resources.Holds, start]
          · simp [own, Resources.Holds]
          · simp [own, Stage.awaits]
          · simp [own, Resources.Awaits]
      · apply sorted_moved inv.sorted
        have order := inv.sorted task
        rwa [start] at order
      · intro run name reported
        have before : (run = runOf task ∧ name = key) ∨ world.waiting run name = true := by
          dsimp only at reported
          split at reported
          · rcases set_state_true reported with ⟨-, here⟩ | ⟨before, -⟩
            · exact Or.inl here
            · exact Or.inr before
          · exact Or.inr reported
        rcases before with ⟨rfl, rfl⟩ | before
        · exact ⟨task, rfl, by simp [Resources.Awaits, Stage.awaits]⟩
        · apply reported_moved (fun stage => stage.awaits = some name) (inv.waiting run name before)
          exact fun _ shows => absurd shows (idle name)
      · intro run name reported
        apply reported_moved (fun stage => name ∈ stage.held) (inv.holding run name reported)
        simp [start, Stage.held]
  · cases taken

theorem cancel_inv (inv : world.Inv runOf)
    (taken : world.next runOf (.cancel task) = some after) : after.Inv runOf := by
  rw [Resources.next] at taken
  split at taken <;> cases taken
  next held key rest cancelled start =>
  have same : ∀ name, (name ∈ (Stage.waiting held key rest true).held ↔ world.Holds task name) ∧
      ((Stage.waiting held key rest true).awaits = some name ↔ world.Awaits task name) := by
    intro name
    simp [Stage.held, Stage.awaits, Resources.Holds, Resources.Awaits, start]
  constructor
  · apply sound_moved inv fun name _ => same name
    exact sound_kept (sound_cancel (inv.locks key)) (same key).1 (same key).2
  · apply sorted_moved inv.sorted
    have order := inv.sorted task
    rwa [start] at order
  · intro run name reported
    apply reported_moved (fun stage => stage.awaits = some name) (inv.waiting run name reported)
    exact fun _ => (same name).2.mpr
  · intro run name reported
    apply reported_moved (fun stage => name ∈ stage.held) (inv.holding run name reported)
    exact fun _ => (same name).1.mpr

theorem resume_inv (inv : world.Inv runOf)
    (taken : world.next runOf (.resume task) = some after) : after.Inv runOf := by
  rw [Resources.next] at taken
  split at taken
  · next held key rest cancelled start =>
    have awaits : ∀ name, world.Awaits task name ↔ name = key := by
      intro name
      simp [Resources.Awaits, start, Stage.awaits, eq_comm]
    split at taken
    · cases taken
    · next woken =>
      split at taken
      · refine exit_inv taken (by rw [start]; rfl) ?_ inv.sorted ?_ inv.holding
        · intro name
          by_cases named : name = key
          · subst named
            dsimp only
            rw [Function.update_self]
            exact sound_give_up (inv.locks name)
          · dsimp only
            rw [Function.update_of_ne named]
            apply sound_of_iff (inv.locks name) (fun _ => Iff.rfl)
            exact fun other => ⟨And.left, fun waits =>
              ⟨waits, fun own => named ((awaits name).mp (own ▸ waits))⟩⟩
        · intro run name reported
          obtain ⟨⟨⟩, -⟩ | ⟨before, elsewhere⟩ := set_state_true reported
          obtain ⟨other, named, waits⟩ := inv.waiting run name before
          refine ⟨other, named, fun own => elsewhere ?_, waits⟩
          subst own
          exact ⟨named.symm, (awaits name).mp waits⟩
      · next alive =>
        cases taken
        have listed : task ∈ (world.locks key).waiters.map Prod.fst :=
          ((inv.locks key).listed task).mpr ((awaits key).mpr rfl)
        obtain ⟨⟨own, future⟩, mem, rfl⟩ := mem_map.mp listed
        have awake : future = .woken := by
          cases future with
          | pending => exact absurd mem woken
          | woken => rfl
          | cancelled => exact absurd (Or.inr mem) alive
        subst awake
        exact obtained_inv inv (by rw [start]; rfl) (by rw [start]; rfl)
          (fun name differs => mt (awaits name).mp differs)
          (no_holder (inv.locks key) ((inv.locks key).woken _ mem rfl).1)
          (sound_take_up (inv.locks key) mem)
  · cases taken

theorem leave_inv (inv : world.Inv runOf)
    (taken : world.next runOf (.leave task) = some after) : after.Inv runOf := by
  rw [Resources.next] at taken
  split at taken
  · next held start =>
    have idle : ∀ name, ¬world.Awaits task name := by simp [Resources.Awaits, start, Stage.awaits]
    refine exit_inv taken (by rw [start]; rfl) ?_ inv.sorted ?_ inv.holding
    · intro name
      apply sound_of_iff (inv.locks name) (fun _ => Iff.rfl)
      exact fun other => ⟨And.left, fun waits => ⟨waits, fun own => idle name (own ▸ waits)⟩⟩
    · intro run name reported
      obtain ⟨other, named, waits⟩ := inv.waiting run name reported
      exact ⟨other, named, fun own => idle name (own ▸ waits), waits⟩
  · cases taken

theorem next_inv (inv : world.Inv runOf) (taken : world.next runOf action = some after) :
    after.Inv runOf := by
  cases action with
  | enter task keys => exact enter_inv inv taken
  | proceed task => exact proceed_inv inv taken
  | cancel task => exact cancel_inv inv taken
  | resume task => exact resume_inv inv taken
  | leave task => exact leave_inv inv taken
  | unbind run =>
    cases taken
    refine ⟨inv.locks, inv.sorted, fun other name reported => ?_, fun other name reported => ?_⟩
    · dsimp only at reported
      split at reported
      · cases reported
      · exact inv.waiting other name reported
    · dsimp only at reported
      split at reported
      · cases reported
      · exact inv.holding other name reported

omit [DecidableEq Task] [DecidableEq Run] in
theorem initial_inv (fresh : world.Initial) : world.Inv runOf := by
  obtain ⟨locks, stages, reports⟩ := fresh
  constructor
  · intro key
    rw [locks]
    constructor <;> simp [Resources.Holds, Resources.Awaits, stages, Stage.held, Stage.awaits]
  · simp [stages, Stage.keys]
  · simp [reports]
  · simp [reports]

def Resources.WaitsOn (world : Resources Task Run Key) (first second : Task) : Prop :=
  ∃ key, world.Awaits first key ∧ world.Holds second key

omit [DecidableEq Task] [DecidableEq Run] in
/-- A task holds only keys below the one it waits for. -/
theorem held_below (inv : world.Inv runOf) {name : Key} (awaits : world.Awaits task key)
    (holds : world.Holds task name) : name < key := by
  have order := inv.sorted task
  rw [Resources.Awaits] at awaits
  rw [Resources.Holds] at holds
  cases stage : world.stage task with
  | waiting held own rest cancelled =>
    rw [stage] at order awaits holds
    cases awaits
    exact (pairwise_append.mp order).2.2 name holds key mem_cons_self
  | _ =>
    rw [stage] at awaits
    cases awaits

omit [DecidableEq Task] [DecidableEq Run] in
theorem waits_ascend (inv : world.Inv runOf) {first last : Task}
    (chain : Relation.TransGen world.WaitsOn first last) :
    ∃ key name, world.Awaits first key ∧ world.Holds last name ∧ key ≤ name := by
  induction chain with
  | single waits =>
    obtain ⟨key, awaits, holds⟩ := waits
    exact ⟨key, key, awaits, holds, le_rfl⟩
  | tail _ waits ih =>
    obtain ⟨key, name, awaits, holds, below⟩ := ih
    obtain ⟨next, awaitsNext, holdsNext⟩ := waits
    exact ⟨key, next, awaits, holdsNext, below.trans (held_below inv awaitsNext holds).le⟩

/-- In every interleaving of calls and cancellations a key has one holder, no tasks wait in a
circle, no release raises, and a task outside `acquire` holds no lock, stands in no queue,
and is no reason for a report. -/
theorem run_resources_sound (runOf : Task → Run)
    (reachable : (resourceMachine runOf).Reachable Anything world) :
    (∀ key first second, world.Holds first key → world.Holds second key → first = second) ∧
    (∀ task, ¬Relation.TransGen world.WaitsOn task task) ∧
    (∀ task key, world.Holds task key → (world.locks key).locked = true) ∧
    ∀ task, world.stage task = .outside → ∀ key, task ∉ (world.locks key).waiters.map Prod.fst ∧
      ((world.locks key).locked = true → ∃ other, other ≠ task ∧ world.Holds other key) ∧
      (world.waiting (runOf task) key = true →
        ∃ other, other ≠ task ∧ runOf other = runOf task ∧ world.Awaits other key) ∧
      (world.holding (runOf task) key = true →
        ∃ other, other ≠ task ∧ runOf other = runOf task ∧ world.Holds other key) := by
  have inv : world.Inv runOf := reachable_invariant (Resources.Inv runOf)
    (fun _ => initial_inv) (fun _ _ _ inv _ taken => next_inv inv taken) reachable
  refine ⟨fun key => (inv.locks key).alone, fun task chain => ?_,
    fun task key holds => (inv.locks key).locked.mpr ⟨task, holds⟩, fun task outside key => ?_⟩
  · obtain ⟨key, name, awaits, holds, below⟩ := waits_ascend inv chain
    exact absurd (held_below inv awaits holds) (not_lt.mpr below)
  · have idle : ¬world.Awaits task key := by simp [Resources.Awaits, outside, Stage.awaits]
    have empty : ¬world.Holds task key := by simp [Resources.Holds, outside, Stage.held]
    refine ⟨mt ((inv.locks key).listed task).mp idle, fun locked => ?_, fun reported => ?_,
      fun reported => ?_⟩
    · obtain ⟨other, holds⟩ := (inv.locks key).locked.mp locked
      exact ⟨other, fun own => empty (own ▸ holds), holds⟩
    · obtain ⟨other, named, awaits⟩ := inv.waiting _ key reported
      exact ⟨other, fun own => idle (own ▸ awaits), named, awaits⟩
    · obtain ⟨other, named, holds⟩ := inv.holding _ key reported
      exact ⟨other, fun own => empty (own ▸ holds), named, holds⟩

end

def idleResources : Resources Nat String String :=
  ⟨fun _ => ⟨false, []⟩, fun _ => .outside, fun _ _ => false, fun _ _ => false⟩

def cancelledWaiter : List (Action Nat String String) :=
  [.enter 0 ["workspace:p"], .proceed 0, .enter 1 ["workspace:p", "host"], .proceed 1, .proceed 1,
    .cancel 1, .resume 1]

def sampleRun (task : Nat) : String := if task = 0 then "run-a" else "run-b"

theorem cancelled_waiter_leaves_nothing : ∃ world : Resources Nat String String,
    cancelledWaiter.foldlM (Resources.next sampleRun) idleResources = some world ∧
    (world.locks "host").locked = false ∧
    1 ∉ (world.locks "workspace:p").waiters.map Prod.fst ∧
    ∃ other, other ≠ 1 ∧ world.Holds other "workspace:p" := by
  have ran : (cancelledWaiter.foldlM (Resources.next sampleRun) idleResources).map (fun world =>
      ((world.locks "host").locked, (world.locks "workspace:p").locked, world.stage 1)) =
      some (false, true, .outside) := by decide +kernel
  obtain ⟨world, done, computed⟩ := Option.map_eq_some_iff.mp ran
  simp only [Prod.mk.injEq] at computed
  obtain ⟨host, workspace, outside⟩ := computed
  have reachable : (resourceMachine sampleRun).Reachable Anything world :=
    ⟨idleResources, ⟨fun _ => rfl, fun _ => rfl, fun _ _ => ⟨rfl, rfl⟩⟩,
      path_weaken (fun _ _ _ => trivial) (path_of_run (fun _ _ => true) (Resources.next sampleRun)
        (fun _ _ _ taken => taken) (by simpa using done))⟩
  have left := (run_resources_sound sampleRun reachable).2.2.2 1 outside "workspace:p"
  exact ⟨world, done, host, left.1, left.2.1 workspace⟩

end AgentMate.RunResources
