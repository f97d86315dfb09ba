import Mathlib.Logic.Relation

/-!
# All-or-nothing computations

A transaction either returns a new state or an error. Committing keeps the old
state on an error. The rules below take a successful computation apart and carry
a fact, or a relation between states, through a successful loop.
-/

namespace AgentMate.Rollback

open List

universe u

variable {Error Item : Type*} {State Value Result : Type u}

def commit (old : State) : Except Error State → State
  | .ok new => new
  | .error _ => old

@[simp] theorem commit_ok (old new : State) : commit old (.ok new : Except Error State) = new := rfl

@[simp] theorem commit_error (old : State) (error : Error) : commit old (.error error) = old := rfl

theorem bind_ok {first : Except Error Value} {next : Value → Except Error Result}
    {result : Result} (done : (first >>= next) = .ok result) :
    ∃ value, first = .ok value ∧ next value = .ok result := by
  cases first with
  | error error => cases done
  | ok value => exact ⟨value, rfl, done⟩

variable {result : Except Error Value}

theorem exists_ok (accepted : result.isOk = true) : ∃ value, result = .ok value := by
  cases result with
  | error error => cases accepted
  | ok value => exact ⟨value, rfl⟩

theorem exists_error (refused : result.isOk = false) : ∃ error, result = .error error := by
  cases result with
  | error error => exact ⟨error, rfl⟩
  | ok value => cases refused

section

variable {step : State → Item → Except Error State} {items : List Item} {start finish : State}

theorem fold_nil_ok (done : ([] : List Item).foldlM step start = .ok finish) : finish = start := by
  cases done
  rfl

theorem fold_cons_ok {item : Item} (done : (item :: items).foldlM step start = .ok finish) :
    ∃ middle, step start item = .ok middle ∧ items.foldlM step middle = .ok finish := by
  rw [foldlM_cons] at done
  exact bind_ok done

theorem fold_invariant (Inv : State → Prop)
    (preserve : ∀ state item next, item ∈ items → Inv state → step state item = .ok next → Inv next)
    (holds : Inv start) (done : items.foldlM step start = .ok finish) : Inv finish := by
  induction items generalizing start with
  | nil =>
    rw [fold_nil_ok done]
    exact holds
  | cons item rest ih =>
    obtain ⟨middle, pass, remaining⟩ := fold_cons_ok done
    have holdsMiddle : Inv middle := preserve start item middle mem_cons_self holds pass
    refine ih ?_ holdsMiddle remaining
    intro state other next mem
    exact preserve state other next (mem_cons_of_mem item mem)

theorem fold_of_fixed (fixed : ∀ item ∈ items, step start item = .ok start) :
    items.foldlM step start = .ok start := by
  induction items with
  | nil => rfl
  | cons item rest ih =>
    rw [foldlM_cons, fixed item mem_cons_self]
    exact ih fun other mem => fixed other (mem_cons_of_mem item mem)

end

variable {Error' : Type*}

def raiseAt (state : State) (call : Except Error Value) : Except (Error × State) Value :=
  call.mapError fun error => (error, state)

def Agree (left : Except Error Value) (right : Except Error' Value) : Prop :=
  left.toOption = right.toOption

theorem agree_raise_at (state : State) (call : Except Error Value) :
    Agree (raiseAt state call) call := by
  cases call <;> rfl

variable {left : Except Error Value} {right : Except Error' Value}

theorem agree_bind {next : Value → Except Error Result} {next' : Value → Except Error' Result}
    (first : Agree left right) (later : ∀ value, Agree (next value) (next' value)) :
    Agree (left >>= next) (right >>= next') := by
  cases left with
  | error error =>
    cases right with
    | error => rfl
    | ok => cases first
  | ok value =>
    cases right with
    | error => cases first
    | ok same =>
      cases first
      exact later value

theorem agree_fold {step : State → Item → Except Error State}
    {step' : State → Item → Except Error' State}
    (pass : ∀ state item, Agree (step state item) (step' state item)) (items : List Item)
    (start : State) : Agree (items.foldlM step start) (items.foldlM step' start) := by
  induction items generalizing start with
  | nil => rfl
  | cons item rest ih =>
    rw [foldlM_cons, foldlM_cons]
    exact agree_bind (pass start item) ih

end AgentMate.Rollback
