import AgentMate.TransitionSystem
import Mathlib.Data.List.Nodup

/-!
# The Telegram poller of a channel

`_tg_poll_loop` stores the offset after the last update of a batch and then handles the updates
one by one. An exception ends the handling of the batch, not the loop.
-/

namespace AgentMate.TelegramPoller

open TransitionSystem List

/-- A call of `_handle_tg_update`, with the updates of its batch that come after it. -/
structure Handling where
  updateId : Nat
  raised : Bool
  later : List Nat
  deriving DecidableEq

/-- `pending` is what is left of the batch; the poller is idle when it is empty. -/
structure Poller where
  updateOffset : Nat
  pending : List Nat
  fetched : List Nat
  log : List Handling

inductive PollAction where
  | getUpdates (updates : List Nat)
  | handle (raised : Bool)

def Poller.step (poller : Poller) : PollAction → Option Poller
  | .getUpdates updates =>
    match poller.pending, updates.getLast? with
    | [], some last =>
      some
        { poller with
          updateOffset := last + 1, pending := updates
          fetched := poller.fetched ++ updates }
    | [], none => some poller
    | _ :: _, _ => none
  | .handle raised =>
    match poller.pending with
    | [] => none
    | updateId :: later =>
      some
        { poller with
          pending := if raised then [] else later
          log := ⟨updateId, raised, later⟩ :: poller.log }

/-- Telegram answers with updates from the offset on, in the order of their identifiers. -/
def Answers (poller : Poller) : PollAction → Prop
  | .getUpdates updates =>
    updates.Pairwise (· < ·) ∧ ∀ updateId ∈ updates, poller.updateOffset ≤ updateId
  | .handle _ => True

def pollMachine : Machine Poller PollAction where
  Initial poller := poller.pending = [] ∧ poller.fetched = [] ∧ poller.log = []
  Step poller action next := Answers poller action ∧ poller.step action = some next

def Poller.handled (poller : Poller) : List Nat := poller.log.map Handling.updateId

def Handling.dropped (handling : Handling) : List Nat :=
  if handling.raised then handling.later else []

def Poller.Whole (poller : Poller) : Prop :=
  ∀ updateId ∈ poller.fetched, updateId < poller.updateOffset → poller.handled.count updateId = 1

structure Poller.Inv (poller : Poller) : Prop where
  below : ∀ updateId ∈ poller.fetched, updateId < poller.updateOffset
  distinct : poller.fetched.Nodup
  split : poller.fetched.Perm
    (poller.pending ++ (poller.handled ++ poller.log.flatMap Handling.dropped))

theorem last_greatest {updates : List Nat} {last updateId : Nat}
    (sorted : updates.Pairwise (· < ·)) (final : updates.getLast? = some last)
    (mem : updateId ∈ updates) : updateId < last + 1 := by
  obtain ⟨front, rfl⟩ := getLast?_eq_some_iff.mp final
  rw [pairwise_append] at sorted
  rcases mem_append.mp mem with early | late
  · have before := sorted.2.2 updateId early last (mem_singleton.mpr rfl)
    omega
  · rw [mem_singleton.mp late]
    omega

variable {poller : Poller}

theorem fetch_inv {updates : List Nat} {last : Nat} (inv : poller.Inv)
    (idle : poller.pending = []) (final : updates.getLast? = some last)
    (answers : Answers poller (.getUpdates updates)) :
    Poller.Inv { poller with
        updateOffset := last + 1, pending := updates, fetched := poller.fetched ++ updates } := by
  obtain ⟨sorted, fresh⟩ := answers
  have finalMember : last ∈ updates := mem_of_getLast? final
  refine ⟨?_, ?_, ?_⟩
  · intro updateId mem
    rcases mem_append.mp mem with old | new
    · have oldBound := inv.below updateId old
      have newBound := fresh last finalMember
      change updateId < last + 1
      omega
    · exact last_greatest sorted final new
  · refine nodup_append.mpr ⟨inv.distinct, sorted.imp fun less => Nat.ne_of_lt less, ?_⟩
    intro old oldMem new newMem
    have oldBound := inv.below old oldMem
    have newBound := fresh new newMem
    omega
  · have split := inv.split
    rw [idle, nil_append] at split
    exact perm_append_comm.trans (split.append_left updates)

theorem handle_inv {updateId : Nat} {later : List Nat} (inv : poller.Inv)
    (first : poller.pending = updateId :: later) (raised : Bool) :
    Poller.Inv { poller with
      pending := if raised then [] else later
      log := ⟨updateId, raised, later⟩ :: poller.log } := by
  refine ⟨inv.below, inv.distinct, ?_⟩
  have split := inv.split
  rw [first] at split
  refine split.trans ?_
  simp only [Poller.handled, map_cons, flatMap_cons, Handling.dropped]
  cases raised with
  | false =>
    simp only [Bool.false_eq_true, if_false, nil_append, cons_append]
    exact perm_middle.symm
  | true =>
    simp only [if_true, nil_append, cons_append]
    refine List.Perm.cons updateId ?_
    rw [← append_assoc, ← append_assoc]
    exact perm_append_comm.append_right _

theorem step_inv {next : Poller} {action : PollAction} (inv : poller.Inv)
    (step : pollMachine.Step poller action next) : next.Inv := by
  obtain ⟨answers, step⟩ := step
  cases action with
  | getUpdates updates =>
    simp only [Poller.step] at step
    split at step
    · next last idle final =>
      cases step
      exact fetch_inv inv idle final answers
    · cases step
      exact inv
    · cases step
  | handle raised =>
    simp only [Poller.step] at step
    split at step
    · cases step
    · next updateId later first =>
      cases step
      exact handle_inv inv first raised

theorem reachable_inv (reachable : pollMachine.Reachable Anything poller) : poller.Inv := by
  refine reachable_invariant Poller.Inv ?_ (fun _ _ _ inv _ step => step_inv inv step) reachable
  rintro start ⟨pending, fetched, log⟩
  refine ⟨?_, ?_, ?_⟩
  · rw [fetched]
    rintro _ ⟨⟩
  · rw [fetched]
    exact nodup_nil
  · simp [pending, fetched, log, Poller.handled]

/-- An idle poller has lost no update exactly if only last updates of their batches raised. -/
theorem no_update_dropped_iff (poller : Poller)
    (reachable : pollMachine.Reachable Anything poller) (idle : poller.pending = []) :
    poller.Whole ↔ ∀ handling ∈ poller.log, handling.raised = true → handling.later = [] := by
  have inv := reachable_inv reachable
  have split := inv.split
  rw [idle, nil_append] at split
  have distinct := split.nodup_iff.mp inv.distinct
  constructor
  · intro whole handling logged raised
    apply eq_nil_iff_forall_not_mem.mpr
    intro updateId mem
    -- a dropped update was fetched, so it would have to be handled as well
    have dropped : updateId ∈ poller.log.flatMap Handling.dropped :=
      mem_flatMap.mpr ⟨handling, logged, by rwa [Handling.dropped, if_pos raised]⟩
    have known := split.mem_iff.mpr (mem_append_right _ dropped)
    have once := whole updateId known (inv.below updateId known)
    have handled := count_pos_iff.mp (by omega : 0 < poller.handled.count updateId)
    exact (nodup_append.mp distinct).2.2 _ handled _ dropped rfl
  · intro last updateId known _
    have none : poller.log.flatMap Handling.dropped = [] := by
      apply flatMap_eq_nil_iff.mpr
      intro handling logged
      rw [Handling.dropped]
      split
      · next raised => exact last handling logged raised
      · rfl
    rw [none, append_nil] at split distinct
    exact count_eq_one_of_mem distinct (split.mem_iff.mp known)

theorem batch_fetched : pollMachine.Reachable Anything ⟨6, [4, 5], [4, 5], []⟩ := by
  have start : pollMachine.Reachable Anything ⟨0, [], [], []⟩ :=
    ⟨⟨0, [], [], []⟩, ⟨rfl, rfl, rfl⟩, .refl _⟩
  have step : pollMachine.Step ⟨0, [], [], []⟩ (.getUpdates [4, 5]) ⟨6, [4, 5], [4, 5], []⟩ :=
    ⟨⟨by decide, by decide⟩, rfl⟩
  exact reachable_step start trivial step

theorem last_raise_whole : Poller.Whole ⟨6, [], [4, 5], [⟨5, true, []⟩, ⟨4, false, [5]⟩]⟩ := by
  have first : pollMachine.Step ⟨6, [4, 5], [4, 5], []⟩ (.handle false)
      ⟨6, [5], [4, 5], [⟨4, false, [5]⟩]⟩ := ⟨trivial, rfl⟩
  have second : pollMachine.Step ⟨6, [5], [4, 5], [⟨4, false, [5]⟩]⟩ (.handle true)
      ⟨6, [], [4, 5], [⟨5, true, []⟩, ⟨4, false, [5]⟩]⟩ := ⟨trivial, rfl⟩
  have reachable := reachable_step (reachable_step batch_fetched trivial first) trivial second
  exact (no_update_dropped_iff _ reachable rfl).mpr (by decide)

theorem first_raise_drops : pollMachine.Reachable Anything ⟨6, [], [4, 5], [⟨4, true, [5]⟩]⟩ ∧
      ¬ Poller.Whole ⟨6, [], [4, 5], [⟨4, true, [5]⟩]⟩ := by
  have raise : pollMachine.Step ⟨6, [4, 5], [4, 5], []⟩ (.handle true)
      ⟨6, [], [4, 5], [⟨4, true, [5]⟩]⟩ := ⟨trivial, rfl⟩
  refine ⟨reachable_step batch_fetched trivial raise, fun whole => ?_⟩
  exact absurd (whole 5 (by decide) (by decide)) (by decide)

end AgentMate.TelegramPoller
