import AgentMate.TransitionSystem
import Mathlib.Data.Nat.Init
import Mathlib.Order.Nat

/-!
# Runs that go on

An endless guarded run, and the rule for what such a run comes to: a rank that no step
raises and that every served step lowers.
-/

namespace AgentMate.TransitionSystem

variable {State Action : Type*}

structure Machine.Run (machine : Machine State Action) (Guard : State → Action → Prop) where
  state : Nat → State
  action : Nat → Action
  guarded : ∀ time, Guard (state time) (action time)
  step : ∀ time, machine.Step (state time) (action time) (state (time + 1))

variable {machine : Machine State Action} {Guard : State → Action → Prop}

theorem run_path (run : machine.Run Guard) {start finish : Nat} (later : start ≤ finish) :
    machine.Path Guard (run.state start) (run.state finish) := by
  induction finish, later using Nat.le_induction with
  | base => exact .refl _
  | succ time _ ih => exact .step ih (run.guarded time) (run.step time)

theorem run_reaches (run : machine.Run Guard) (reachable : machine.Reachable Guard (run.state 0))
    (time : Nat) : machine.Reachable Guard (run.state time) :=
  reachable_path reachable (run_path run (Nat.zero_le time))

/-- A run that repeats a step which changes nothing. -/
def Machine.Run.idle {state : State} {action : Action} (guarded : Guard state action)
    (step : machine.Step state action state) : machine.Run Guard :=
  ⟨fun _ => state, fun _ => action, fun _ => guarded, fun _ => step⟩

def Machine.Run.cons {state : State} {action : Action} (run : machine.Run Guard)
    (guarded : Guard state action) (step : machine.Step state action (run.state 0)) :
    machine.Run Guard where
  state
    | 0 => state
    | time + 1 => run.state time
  action
    | 0 => action
    | time + 1 => run.action time
  guarded
    | 0 => guarded
    | time + 1 => run.guarded time
  step
    | 0 => step
    | time + 1 => run.step time

theorem path_goes_on {start finish : State} (path : machine.Path Guard start finish)
    (run : machine.Run Guard) (joins : run.state 0 = finish) :
    ∃ whole : machine.Run Guard, whole.state 0 = start ∧
      ∃ offset, ∀ time, whole.state (offset + time) = run.state time := by
  induction path generalizing run with
  | refl => exact ⟨run, joins, 0, fun time => by rw [Nat.zero_add]⟩
  | step _ guarded step ih =>
    obtain ⟨whole, first, offset, same⟩ := ih (run.cons guarded (joins ▸ step)) rfl
    refine ⟨whole, first, offset + 1, fun time => ?_⟩
    rw [Nat.add_assoc, Nat.add_comm 1 time]
    exact same (time + 1)

/-- A path that ends where a step may change nothing goes on there for ever. -/
theorem path_rests {start finish : State} {action : Action}
    (path : machine.Path Guard start finish) (guarded : Guard finish action)
    (step : machine.Step finish action finish) :
    ∃ run : machine.Run Guard, run.state 0 = start ∧ ∃ time, ∀ later ≥ time,
      run.state later = finish := by
  obtain ⟨whole, first, offset, same⟩ := path_goes_on path (Machine.Run.idle guarded step) rfl
  refine ⟨whole, first, offset, fun later after => ?_⟩
  obtain ⟨rest, rfl⟩ := Nat.exists_eq_add_of_le after
  exact same rest

def Machine.Run.Fair (run : machine.Run Guard) (Done : State → Prop)
    (Serves : State → Action → Prop) : Prop :=
  ∀ time, ¬Done (run.state time) →
    ∃ later ≥ time, Done (run.state later) ∨ Serves (run.state later) (run.action later)

variable (run : machine.Run Guard) (rank : State → Nat) {Done : State → Prop}
  {Serves : State → Action → Prop}

theorem fair_of_done (time : Nat) (done : ∀ later ≥ time, Done (run.state later)) :
    run.Fair Done Serves := fun start _ =>
  ⟨max start time, le_max_left _ _, .inl (done _ (le_max_right _ _))⟩

/-- The rank does not rise between two times unless the run is done in between. -/
theorem rank_falls (never_rises : ∀ time, ¬Done (run.state (time + 1)) →
      rank (run.state (time + 1)) ≤ rank (run.state time))
    {start finish : Nat} (later : start ≤ finish) :
    (∃ time ≥ start, Done (run.state time)) ∨ rank (run.state finish) ≤ rank (run.state start) := by
  induction finish, later using Nat.le_induction with
  | base => exact .inr le_rfl
  | succ time after ih =>
    by_cases done : Done (run.state (time + 1))
    · exact .inl ⟨time + 1, Nat.le_succ_of_le after, done⟩
    · exact ih.imp id fun before => (never_rises time done).trans before

theorem ends_by_rank (never_rises : ∀ time, ¬Done (run.state (time + 1)) →
      rank (run.state (time + 1)) ≤ rank (run.state time))
    (lowers : ∀ time, ¬Done (run.state (time + 1)) → Serves (run.state time) (run.action time) →
      rank (run.state (time + 1)) < rank (run.state time))
    (fair : run.Fair Done Serves) (start : Nat) : ∃ time ≥ start, Done (run.state time) := by
  induction bound : rank (run.state start) using Nat.strong_induction_on generalizing start with
  | _ _ ih =>
    by_cases now : Done (run.state start)
    · exact ⟨start, le_rfl, now⟩
    obtain ⟨time, after, done | served⟩ := fair start now
    · exact ⟨time, after, done⟩
    rcases rank_falls run rank never_rises after with ended | fell
    · exact ended
    by_cases then_done : Done (run.state (time + 1))
    · exact ⟨time + 1, Nat.le_succ_of_le after, then_done⟩
    have lower := lowers time then_done served
    obtain ⟨last, beyond, done⟩ := ih _ (by omega) (time + 1) rfl
    exact ⟨last, by omega, done⟩

end AgentMate.TransitionSystem
