import Mathlib.Data.List.Nodup

/-!
# A fair lock

`asyncio.Lock` is a flag and a queue of waiters. A release wakes the first waiter, which
takes the lock when it runs; until then newcomers queue up behind it. A waiter that is
cancelled leaves the queue, and wakes the next one when the lock is free.
-/

namespace AgentMate.FairLock

open List

inductive Future where
  | pending
  | woken
  | cancelled
  deriving DecidableEq

structure Lock (Task : Type*) where
  locked : Bool
  waiters : List (Task × Future)

variable {Task : Type*}

/-- `acquire` returns at once. -/
def Lock.isFree (lock : Lock Task) : Bool :=
  !lock.locked && lock.waiters.all fun waiter => decide (waiter.2 = .cancelled)

def Lock.take (lock : Lock Task) : Lock Task := { lock with locked := true }

def Lock.enqueue (task : Task) (lock : Lock Task) : Lock Task :=
  { lock with waiters := lock.waiters ++ [(task, .pending)] }

/-- `_wake_up_first`. -/
def Lock.wakeUpFirst (lock : Lock Task) : Lock Task :=
  match lock.waiters with
  | (task, .pending) :: rest => { lock with waiters := (task, .woken) :: rest }
  | _ => lock

/-- A `RuntimeError` unless the lock is taken. -/
def Lock.release (lock : Lock Task) : Option (Lock Task) :=
  if lock.locked then some { lock with locked := false }.wakeUpFirst else none

section

variable [DecidableEq Task]

def cancelFuture (task : Task) (waiter : Task × Future) : Task × Future :=
  if waiter = (task, .pending) then (task, .cancelled) else waiter

/-- The task is cancelled while it awaits its future. -/
def Lock.cancel (task : Task) (lock : Lock Task) : Lock Task :=
  { lock with waiters := lock.waiters.map (cancelFuture task) }

def Lock.remove (task : Task) (lock : Lock Task) : Lock Task :=
  { lock with waiters := lock.waiters.filter fun waiter => waiter.1 ≠ task }

/-- The rest of `acquire` after the future was woken. -/
def Lock.takeUp (task : Task) (lock : Lock Task) : Lock Task := (lock.remove task).take

/-- The rest of `acquire` after a `CancelledError`. -/
def Lock.giveUp (task : Task) (lock : Lock Task) : Lock Task :=
  if lock.locked then lock.remove task else (lock.remove task).wakeUpFirst

end

/-- The flag tells whether somebody holds the lock, the queue has those who wait, and only
the first of them may have been woken, while the lock is free. -/
structure Lock.Sound (holder queued : Task → Prop) (lock : Lock Task) : Prop where
  locked : lock.locked = true ↔ ∃ task, holder task
  alone : ∀ first second, holder first → holder second → first = second
  listed : ∀ task, task ∈ lock.waiters.map Prod.fst ↔ queued task
  distinct : (lock.waiters.map Prod.fst).Nodup
  woken : ∀ waiter ∈ lock.waiters, waiter.2 = .woken →
    lock.locked = false ∧ lock.waiters.head? = some waiter

variable {lock next : Lock Task} {task : Task} {holder queued : Task → Prop}

theorem sound_of_iff {keeper waits : Task → Prop} (sound : lock.Sound holder queued)
    (same : ∀ task, keeper task ↔ holder task) (still : ∀ task, waits task ↔ queued task) :
    lock.Sound keeper waits := by
  rw [funext fun task => propext (same task), funext fun task => propext (still task)]
  exact sound

theorem no_holder (sound : lock.Sound holder queued) (free : lock.locked = false) (task : Task) :
    ¬holder task := by
  intro holds
  rw [sound.locked.mpr ⟨task, holds⟩] at free
  cases free

theorem sound_taken (sound : lock.Sound holder queued)
    (asleep : ∀ waiter ∈ lock.waiters, waiter.2 ≠ .woken) :
    lock.take.Sound (fun other => other = task) queued := by
  constructor
  · exact ⟨fun _ => ⟨task, rfl⟩, fun _ => rfl⟩
  · exact fun first second own other => own.trans other.symm
  · exact sound.listed
  · exact sound.distinct
  · exact fun waiter mem awake => absurd awake (asleep waiter mem)

theorem sound_take (sound : lock.Sound holder queued) (free : lock.isFree = true) :
    lock.take.Sound (fun other => other = task) queued := by
  apply sound_taken sound
  intro waiter mem awake
  simp only [Lock.isFree, Bool.and_eq_true, all_eq_true, decide_eq_true_eq] at free
  rw [free.2 waiter mem] at awake
  cases awake

theorem sound_enqueue (sound : lock.Sound holder queued) (absent : ¬queued task) :
    (lock.enqueue task).Sound holder fun other => queued other ∨ other = task := by
  constructor
  · exact sound.locked
  · exact sound.alone
  · intro other
    simp only [Lock.enqueue, map_append, mem_append, sound.listed, map_cons, map_nil, mem_singleton]
  · simp only [Lock.enqueue, map_append, nodup_append, map_cons, map_nil, mem_singleton]
    refine ⟨sound.distinct, nodup_singleton _, ?_⟩
    rintro other listed _ rfl rfl
    exact absent ((sound.listed other).mp listed)
  · intro waiter mem awake
    rcases mem_append.mp mem with old | new
    · obtain ⟨free, first⟩ := sound.woken waiter old awake
      exact ⟨free, by rw [Lock.enqueue, head?_append, first]; rfl⟩
    · rw [mem_singleton.mp new] at awake
      cases awake

theorem sound_wake (sound : lock.Sound holder queued) (free : lock.locked = false) :
    lock.wakeUpFirst.Sound holder queued := by
  rw [Lock.wakeUpFirst]
  split
  · next first rest waiters =>
    have listed := sound.listed
    have distinct := sound.distinct
    rw [waiters] at listed distinct
    refine ⟨sound.locked, sound.alone, listed, distinct, ?_⟩
    intro waiter mem awake
    rcases mem_cons.mp mem with rfl | behind
    · exact ⟨free, rfl⟩
    · have before := (sound.woken waiter (by rw [waiters]; exact .tail _ behind) awake).2
      rw [waiters] at before
      cases before
      cases awake
  · exact sound

theorem sound_release (sound : lock.Sound holder queued) (holds : holder task) :
    ∃ next, lock.release = some next ∧ next.Sound (fun _ => False) queued := by
  have locked := sound.locked.mpr ⟨task, holds⟩
  refine ⟨_, if_pos locked, sound_wake ?_ rfl⟩
  refine ⟨by simp, fun _ _ => False.elim, sound.listed, sound.distinct, ?_⟩
  intro waiter mem awake
  rw [(sound.woken waiter mem awake).1] at locked
  cases locked

variable [DecidableEq Task]

theorem sound_cancel (sound : lock.Sound holder queued) :
    (lock.cancel task).Sound holder queued := by
  have names : (lock.cancel task).waiters.map Prod.fst = lock.waiters.map Prod.fst := by
    rw [Lock.cancel, map_map]
    apply map_congr_left
    intro waiter _
    rw [Function.comp_apply, cancelFuture]
    split
    · next chosen => rw [chosen]
    · rfl
  refine ⟨sound.locked, sound.alone, by rw [names]; exact sound.listed, by rw [names]; exact
    sound.distinct, ?_⟩
  intro waiter mem awake
  obtain ⟨old, stored, rfl⟩ := mem_map.mp mem
  have kept : cancelFuture task old = old := by
    rw [cancelFuture] at awake ⊢
    split
    · next chosen =>
      rw [if_pos chosen] at awake
      cases awake
    · rfl
  rw [kept] at awake ⊢
  obtain ⟨free, first⟩ := sound.woken old stored awake
  exact ⟨free, by rw [Lock.cancel, head?_map, first, Option.map_some, kept]⟩

theorem sound_remove (sound : lock.Sound holder queued) :
    (lock.remove task).Sound holder fun other => queued other ∧ other ≠ task := by
  refine ⟨sound.locked, sound.alone, ?_, sound.distinct.sublist (filter_sublist.map _), ?_⟩
  · intro other
    rw [← sound.listed]
    simp only [Lock.remove, mem_map, mem_filter, decide_eq_true_eq]
    constructor
    · rintro ⟨waiter, ⟨mem, differs⟩, rfl⟩
      exact ⟨⟨waiter, mem, rfl⟩, differs⟩
    · rintro ⟨⟨waiter, mem, rfl⟩, differs⟩
      exact ⟨waiter, ⟨mem, differs⟩, rfl⟩
  · intro waiter mem awake
    obtain ⟨stored, differs⟩ := mem_filter.mp mem
    obtain ⟨free, first⟩ := sound.woken waiter stored awake
    obtain ⟨rest, waiters⟩ := head?_eq_some_iff.mp first
    exact ⟨free, by simp [Lock.remove, waiters, of_decide_eq_true differs]⟩

theorem sound_take_up (sound : lock.Sound holder queued) (awake : (task, .woken) ∈ lock.waiters) :
    (lock.takeUp task).Sound (fun other => other = task)
      fun other => queued other ∧ other ≠ task := by
  apply sound_taken (sound_remove sound)
  intro waiter mem also
  obtain ⟨stored, differs⟩ := mem_filter.mp mem
  have first := (sound.woken waiter stored also).2
  rw [(sound.woken _ awake rfl).2] at first
  cases first
  simp at differs

theorem sound_give_up (sound : lock.Sound holder queued) :
    (lock.giveUp task).Sound holder fun other => queued other ∧ other ≠ task := by
  rw [Lock.giveUp]
  split
  · exact sound_remove sound
  · next free => exact sound_wake (sound_remove sound) (eq_false_of_ne_true free)

end AgentMate.FairLock
