import Mathlib.Data.List.Basic

/-!
# Guarded runs of a transition system

A machine has initial states and a labelled step relation. A run may be
restricted to steps that meet a guard in the state they start from; the trivial
guard gives every run. The rules below carry a step lemma to a whole run.
-/

namespace AgentMate.TransitionSystem

structure Machine (State Action : Type*) where
  Initial : State → Prop
  Step : State → Action → State → Prop

variable {State Action : Type*}

/-- Finite runs whose every step meets `Guard` in the state it starts from. -/
inductive Machine.Path (machine : Machine State Action)
    (Guard : State → Action → Prop) : State → State → Prop
  | refl (state : State) : machine.Path Guard state state
  | step {start middle finish : State} {action : Action} :
      machine.Path Guard start middle → Guard middle action →
        machine.Step middle action finish → machine.Path Guard start finish

def Anything (_ : State) (_ : Action) : Prop := True

def Machine.Reachable (machine : Machine State Action)
    (Guard : State → Action → Prop) (state : State) : Prop :=
  ∃ start, machine.Initial start ∧ machine.Path Guard start state

variable {machine : Machine State Action} {Guard : State → Action → Prop}

variable {finish start middle : State} {Weaker : State → Action → Prop}

theorem path_trans (first : machine.Path Guard start middle)
    (second : machine.Path Guard middle finish) :
    machine.Path Guard start finish := by
  induction second with
  | refl => exact first
  | step _ guarded step ih => exact .step ih guarded step

theorem path_weaken (weaken : ∀ state action, Guard state action → Weaker state action)
    (path : machine.Path Guard start finish) : machine.Path Weaker start finish := by
  induction path with
  | refl => exact .refl _
  | step _ guarded step ih => exact .step ih (weaken _ _ guarded) step

theorem reachable_weaken {state : State}
    (weaken : ∀ state action, Guard state action → Weaker state action)
    (reachable : machine.Reachable Guard state) : machine.Reachable Weaker state := by
  obtain ⟨start, initial, path⟩ := reachable
  exact ⟨start, initial, path_weaken weaken path⟩

theorem reachable_path (reachable : machine.Reachable Guard middle)
    (path : machine.Path Guard middle finish) :
    machine.Reachable Guard finish := by
  obtain ⟨start, initial, before⟩ := reachable
  exact ⟨start, initial, path_trans before path⟩

theorem reachable_step {action : Action} (reachable : machine.Reachable Guard middle)
    (guarded : Guard middle action) (step : machine.Step middle action finish) :
    machine.Reachable Guard finish :=
  reachable_path reachable (.step (.refl _) guarded step)

theorem path_of_run {actions : List Action}
    (guard : State → Action → Bool) (step : State → Action → Option State)
    (sound : ∀ state action next, step state action = some next → machine.Step state action next)
    (ran : actions.foldlM (fun state action =>
      if guard state action then step state action else none) start = some finish) :
    machine.Path (fun state action => guard state action = true) start finish := by
  induction actions generalizing start with
  | nil =>
    cases ran
    exact .refl _
  | cons action rest ih =>
    rw [List.foldlM_cons, Option.bind_eq_bind, Option.bind_eq_some_iff] at ran
    obtain ⟨middle, first, remaining⟩ := ran
    rw [Option.ite_none_right_eq_some] at first
    have before : machine.Path (fun state action => guard state action = true) start middle :=
      .step (.refl start) first.1 (sound _ _ _ first.2)
    exact path_trans before (ih remaining)

theorem path_invariant (Inv : State → Prop)
    (preserve : ∀ state action next, Inv state → Guard state action →
      machine.Step state action next → Inv next)
    (holds : Inv start) (path : machine.Path Guard start finish) : Inv finish := by
  induction path with
  | refl => exact holds
  | step _ guarded step ih => exact preserve _ _ _ ih guarded step

theorem reachable_invariant (Inv : State → Prop) {state : State}
    (initially : ∀ start, machine.Initial start → Inv start)
    (preserve : ∀ state action next, Inv state → Guard state action →
      machine.Step state action next → Inv next)
    (reachable : machine.Reachable Guard state) : Inv state := by
  obtain ⟨start, initial, path⟩ := reachable
  exact path_invariant Inv preserve (initially start initial) path

/-- A fact that guarded steps preserve from reachable states is preserved along
every guarded run that starts in a reachable state. -/
theorem path_stable (Fact : State → Prop) (reachable : machine.Reachable Guard start)
    (preserve : ∀ state action next, machine.Reachable Guard state → Fact state →
      Guard state action → machine.Step state action next → Fact next)
    (holds : Fact start) (path : machine.Path Guard start finish) : Fact finish := by
  have both : machine.Reachable Guard finish ∧ Fact finish := by
    refine path_invariant (fun state => machine.Reachable Guard state ∧ Fact state)
      ?_ ⟨reachable, holds⟩ path
    rintro state action next ⟨reached, fact⟩ guarded step
    exact ⟨reachable_step reached guarded step, preserve _ _ _ reached fact guarded step⟩
  exact both.2

end AgentMate.TransitionSystem
