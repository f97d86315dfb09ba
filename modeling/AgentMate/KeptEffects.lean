import Mathlib.Data.List.Basic

/-!
# Calls whose writes stay

A call works on a state step by step and ends with an answer or with an error. What it has
written before an error stays: nothing is rolled back. A judgment says what holds of the state
that a call leaves in either case, with one rule for each way of building calls.
-/

namespace AgentMate.KeptEffects

variable {State Error Value Result Item : Type}

def leaves (call : EStateM Error State Value) (state : State) : State :=
  match call state with
  | .ok _ after => after
  | .error _ after => after

def answer? (call : EStateM Error State Value) (state : State) : Option Value :=
  match call state with
  | .ok value _ => some value
  | .error _ _ => none

theorem answer_some {call : EStateM Error State Value} {state : State} {value : Value}
    (answered : answer? call state = some value) :
    call state = .ok value (leaves call state) := by
  rw [answer?] at answered
  rw [leaves]
  split at answered
  · next done =>
    cases answered
    rw [done]
  · cases answered

def ensure (condition : Bool) (error : Error) : EStateM Error State Unit :=
  if condition then pure () else throw error

def transact (write : State → Except Error (Value × State)) : EStateM Error State Value :=
  fun state => match write state with
    | .ok result => .ok result.1 result.2
    | .error error => .error error state

/-- Started where `Pre` holds, the call ends with `Post` of its answer or raises where `Raised`
holds. -/
structure Ends (Pre : State → Prop) (call : EStateM Error State Value)
    (Post : Value → State → Prop) (Raised : State → Prop) : Prop where
  answered : ∀ {state value after}, Pre state → call state = .ok value after → Post value after
  raised : ∀ {state error after}, Pre state → call state = .error error after → Raised after

variable {Pre Raised : State → Prop} {Post : Value → State → Prop}
  {call : EStateM Error State Value}

theorem ends_pure {value : Value} (holds : ∀ state, Pre state → Post value state) :
    Ends Pre (pure value : EStateM Error State Value) Post Raised := by
  constructor
  · intro state answer after pre done
    cases done
    exact holds state pre
  · intro state error after _ failed
    cases failed

theorem ends_throw {error : Error} (holds : ∀ state, Pre state → Raised state) :
    Ends Pre (throw error : EStateM Error State Value) Post Raised := by
  constructor
  · intro state answer after _ done
    cases done
  · intro state error after pre failed
    cases failed
    exact holds state pre

theorem ends_bind {Middle : Value → State → Prop} {Final : Result → State → Prop}
    {next : Value → EStateM Error State Result} (first : Ends Pre call Middle Raised)
    (later : ∀ value, Ends (Middle value) (next value) Final Raised) :
    Ends Pre (call >>= next) Final Raised := by
  constructor
  · intro state answer after pre done
    change EStateM.bind call next state = .ok answer after at done
    rw [EStateM.bind] at done
    split at done
    · next value middle ended => exact (later value).answered (first.answered pre ended) done
    · cases done
  · intro state error after pre failed
    change EStateM.bind call next state = .error error after at failed
    rw [EStateM.bind] at failed
    split at failed
    · next value middle ended => exact (later value).raised (first.answered pre ended) failed
    · next error' middle ended =>
      cases failed
      exact first.raised pre ended

theorem ends_get {Seen : State → State → Prop} (holds : ∀ state, Pre state → Seen state state) :
    Ends Pre (get : EStateM Error State State) Seen Raised := by
  constructor
  · intro state answer after pre done
    cases done
    exact holds state pre
  · intro state error after _ failed
    cases failed

theorem ends_transact {write : State → Except Error (Value × State)}
    (written : ∀ state value after, Pre state → write state = .ok (value, after) → Post value after)
    (fails : ∀ state, Pre state → Raised state) : Ends Pre (transact write) Post Raised := by
  constructor
  · intro state answer after pre done
    rw [transact] at done
    split at done
    · next result ended =>
      cases done
      exact written state result.1 result.2 pre ended
    · cases done
  · intro state error after pre failed
    rw [transact] at failed
    split at failed
    · cases failed
    · cases failed
      exact fails state pre

theorem ends_ensure {Passed : State → Prop} {condition : Bool} {error : Error}
    (passes : ∀ state, Pre state → condition = true → Passed state)
    (fails : ∀ state, Pre state → Raised state) :
    Ends Pre (ensure condition error) (fun _ => Passed) Raised := by
  cases condition with
  | true => exact ends_pure fun state pre => passes state pre rfl
  | false => exact ends_throw fails

theorem ends_weaken {Stronger : State → Prop} {Weaker : Value → State → Prop}
    (strengthen : ∀ state, Stronger state → Pre state)
    (weaken : ∀ value state, Post value state → Weaker value state)
    (ends : Ends Pre call Post Raised) : Ends Stronger call Weaker Raised := by
  constructor
  · intro state value after holds done
    exact weaken value after (ends.answered (strengthen state holds) done)
  · intro state error after holds failed
    exact ends.raised (strengthen state holds) failed

theorem ends_assume {Fact : Prop} (ends : Fact → Ends Pre call Post Raised) :
    Ends (fun state => Fact ∧ Pre state) call Post Raised := by
  constructor
  · intro state value after pre done
    exact (ends pre.1).answered pre.2 done
  · intro state error after pre failed
    exact (ends pre.1).raised pre.2 failed

theorem ends_for {Inv : State → Prop} {pass : Item → EStateM Error State Unit} (items : List Item)
    (keeps : ∀ item ∈ items, Ends Inv (pass item) (fun _ => Inv) Raised) :
    Ends Inv (forM items pass) (fun _ => Inv) Raised := by
  induction items with
  | nil => exact ends_pure fun _ holds => holds
  | cons item rest ih =>
    rw [List.forM_cons]
    apply ends_bind (keeps item List.mem_cons_self)
    intro _
    exact ih fun other mem => keeps other (List.mem_cons_of_mem item mem)

theorem ends_leaves {Final : State → Prop} (ends : Ends Pre call (fun _ => Final) Final)
    {state : State} (pre : Pre state) : Final (leaves call state) := by
  rw [leaves]
  split
  · next done => exact ends.answered pre done
  · next failed => exact ends.raised pre failed

end AgentMate.KeptEffects
