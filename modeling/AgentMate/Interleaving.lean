import AgentMate.TransitionSystem
import Mathlib.Data.List.Nodup
import Mathlib.Data.List.Perm.Basic

/-!
# Interleaved requests

A request takes one or more atomic steps on shared data. Between two steps it
holds a ticket, the local variables it goes on with. Any pending request may take
the next step, and a crash drops one between two steps. The rules below carry an
invariant of the data, and what each ticket relies on, to every interleaving.
-/

namespace AgentMate.Interleaving

open TransitionSystem List Option

variable {Data Request Input Ticket : Type*}

/-- `none` means that the step is not possible with this request or input. -/
structure Routine (Data Request Input Ticket : Type*) where
  call : Data → Request → Option (Data × Option Ticket)
  resume : Data → Ticket → Input → Option (Data × Option Ticket)

structure System (Data Ticket : Type*) where
  data : Data
  pending : List Ticket

inductive Event (Request Input : Type*) where
  | call (request : Request)
  | resume (index : Nat) (input : Input)
  | crash (index : Nat)

def Routine.next (routine : Routine Data Request Input Ticket) (system : System Data Ticket) :
    Event Request Input → Option (System Data Ticket)
  | .call request =>
    (routine.call system.data request).map fun after =>
      ⟨after.1, system.pending ++ after.2.toList⟩
  | .resume index input =>
    system.pending[index]?.bind fun ticket =>
      (routine.resume system.data ticket input).map fun after =>
        ⟨after.1, system.pending.eraseIdx index ++ after.2.toList⟩
  | .crash index => some { system with pending := system.pending.eraseIdx index }

/-- The steps of `Routine.next`, one for each kind of event. -/
inductive Move (routine : Routine Data Request Input Ticket) (system : System Data Ticket) :
    Event Request Input → System Data Ticket → Prop
  | call (request : Request) (data : Data) (ticket : Option Ticket)
      (taken : routine.call system.data request = some (data, ticket)) :
      Move routine system (.call request) ⟨data, system.pending ++ ticket.toList⟩
  | resume (index : Nat) (input : Input) (ticket : Ticket) (data : Data) (later : Option Ticket)
      (found : system.pending[index]? = some ticket)
      (taken : routine.resume system.data ticket input = some (data, later)) :
      Move routine system (.resume index input)
        ⟨data, system.pending.eraseIdx index ++ later.toList⟩
  | crash (index : Nat) :
      Move routine system (.crash index) { system with pending := system.pending.eraseIdx index }

variable {routine : Routine Data Request Input Ticket} {system after : System Data Ticket}
  {event : Event Request Input}

theorem next_move (step : routine.next system event = some after) :
    Move routine system event after := by
  cases event with
  | call request =>
    obtain ⟨⟨data, ticket⟩, taken, rfl⟩ := map_eq_some_iff.mp step
    exact .call request data ticket taken
  | resume index input =>
    obtain ⟨ticket, found, rest⟩ := bind_eq_some_iff.mp step
    obtain ⟨⟨data, later⟩, taken, rfl⟩ := map_eq_some_iff.mp rest
    exact .resume index input ticket data later found taken
  | crash index =>
    cases step
    exact .crash index

def Routine.machine (routine : Routine Data Request Input Ticket) (Initial : Data → Prop) :
    Machine (System Data Ticket) (Event Request Input) where
  Initial system := Initial system.data ∧ system.pending = []
  Step system event after := routine.next system event = some after

/-- The system after events that each meet a guard, or `none` when one is not possible. -/
def Routine.run (routine : Routine Data Request Input Ticket)
    (guard : System Data Ticket → Event Request Input → Bool) (start : Data)
    (events : List (Event Request Input)) : Option (System Data Ticket) :=
  events.foldlM (fun system event =>
    if guard system event then routine.next system event else none) ⟨start, []⟩

theorem run_reachable {Initial : Data → Prop} {start : Data} {finish : System Data Ticket}
    (guard : System Data Ticket → Event Request Input → Bool)
    {events : List (Event Request Input)} (initial : Initial start)
    (ran : routine.run guard start events = some finish) :
    (routine.machine Initial).Reachable (fun system event => guard system event = true) finish :=
  ⟨⟨start, []⟩, ⟨initial, rfl⟩, path_of_run guard routine.next (fun _ _ _ taken => taken) ran⟩

def Routine.alone (routine : Routine Data Request Input Ticket) (start : Data × Option Ticket)
    (inputs : List Input) : Option (Data × Option Ticket) :=
  inputs.foldlM (fun state input =>
    state.2.bind fun ticket => routine.resume state.1 ticket input) start

/-- A whole request; `none` unless it ends with the last input. -/
def Routine.serve (routine : Routine Data Request Input Ticket) (data : Data)
    (request : Request) (inputs : List Input) : Option Data :=
  (routine.call data request).bind fun started =>
    (routine.alone started inputs).bind fun ended =>
      if ended.2.isNone then some ended.1 else none

theorem alone_cons (data : Data) (ticket : Ticket) (input : Input) (inputs : List Input) :
    routine.alone (data, some ticket) (input :: inputs) =
      (routine.resume data ticket input).bind fun after => routine.alone after inputs := rfl

theorem alone_append {start middle : Data × Option Ticket} {first second : List Input}
    (ran : routine.alone start first = some middle) :
    routine.alone start (first ++ second) = routine.alone middle second := by
  rw [Routine.alone, foldlM_append]
  show (routine.alone start first).bind _ = _
  rw [ran]
  rfl

theorem alone_ended {data : Data} {finish : Data × Option Ticket} {inputs : List Input}
    (ran : routine.alone (data, none) inputs = some finish) : finish = (data, none) := by
  cases inputs with
  | nil =>
    cases ran
    rfl
  | cons input rest => cases ran

theorem alone_taken {data finish : Data} {ticket : Ticket} {inputs : List Input}
    (ran : routine.alone (data, some ticket) inputs = some (finish, none)) :
    ∃ input rest middle later, inputs = input :: rest ∧
      routine.resume data ticket input = some (middle, later) ∧
      routine.alone (middle, later) rest = some (finish, none) := by
  cases inputs with
  | nil => cases ran
  | cons input rest =>
    rw [alone_cons, bind_eq_some_iff] at ran
    obtain ⟨⟨middle, later⟩, taken, remaining⟩ := ran
    exact ⟨input, rest, middle, later, rfl, taken, remaining⟩

section

variable (routine) (Guard : System Data Ticket → Event Request Input → Prop)

/-- Guarded steps keep an invariant of the data and what every pending ticket relies on. -/
structure Keeps (Inv : Data → Prop) (Ready : Data → Ticket → Prop) : Prop where
  call : ∀ (system : System Data Ticket) request data ticket, Inv system.data →
    Guard system (.call request) → routine.call system.data request = some (data, ticket) →
    Inv data ∧ (∀ own ∈ ticket, Ready data own) ∧
      ∀ other ∈ system.pending, Ready system.data other → Ready data other
  resume : ∀ (system : System Data Ticket) index input ticket data later, Inv system.data →
    Ready system.data ticket → Guard system (.resume index input) →
    system.pending[index]? = some ticket →
    routine.resume system.data ticket input = some (data, later) →
    Inv data ∧ (∀ own ∈ later, Ready data own) ∧
      ∀ other ∈ system.pending.eraseIdx index, Ready system.data other → Ready data other

structure Holds (Inv : Data → Prop) (Ready : Data → Ticket → Prop)
    (system : System Data Ticket) : Prop where
  data : Inv system.data
  pending : ∀ ticket ∈ system.pending, Ready system.data ticket

variable {routine Guard} {Inv : Data → Prop} {Ready : Data → Ticket → Prop}
  {Initial : Data → Prop}

theorem move_holds (keeps : Keeps routine Guard Inv Ready) (holds : Holds Inv Ready system)
    (guarded : Guard system event) (move : Move routine system event after) :
    Holds Inv Ready after := by
  cases move with
  | call request data ticket taken =>
    obtain ⟨inv, own, others⟩ := keeps.call system request data ticket holds.data guarded taken
    constructor
    · exact inv
    · intro other mem
      rcases mem_append.mp mem with old | new
      · exact others other old (holds.pending other old)
      · exact own other (mem_toList.mp new)
  | resume index input ticket data later found taken =>
    have ready := holds.pending ticket (mem_of_getElem? found)
    obtain ⟨inv, own, others⟩ := keeps.resume system index input ticket data later holds.data
      ready guarded found taken
    constructor
    · exact inv
    · intro other mem
      rcases mem_append.mp mem with old | new
      · exact others other old (holds.pending other (mem_of_mem_eraseIdx old))
      · exact own other (mem_toList.mp new)
  | crash index =>
    constructor
    · exact holds.data
    · intro other mem
      exact holds.pending other (mem_of_mem_eraseIdx mem)

theorem reachable_holds (keeps : Keeps routine Guard Inv Ready)
    (initially : ∀ data, Initial data → Inv data)
    (reachable : (routine.machine Initial).Reachable Guard system) : Holds Inv Ready system := by
  apply reachable_invariant (Holds Inv Ready) _ _ reachable
  · rintro start ⟨initial, none⟩
    constructor
    · exact initially start.data initial
    · simp [none]
  · intro state event next holds guarded step
    exact move_holds keeps holds guarded (next_move step)

/-- A fact about the data that guarded steps keep from a state where the invariant holds
is kept along every guarded run from such a state. -/
theorem path_keeps (Fact : Data → Prop) {finish : System Data Ticket}
    (keeps : Keeps routine Guard Inv Ready)
    (step : ∀ system event after, Holds Inv Ready system → Guard system event →
      Move routine system event after → Fact system.data → Fact after.data)
    (holds : Holds Inv Ready system) (fact : Fact system.data)
    (path : (routine.machine Initial).Path Guard system finish) :
    Holds Inv Ready finish ∧ Fact finish.data := by
  apply path_invariant (fun state => Holds Inv Ready state ∧ Fact state.data) _ ⟨holds, fact⟩ path
  rintro state event next ⟨held, kept⟩ guarded taken
  have move := next_move taken
  exact ⟨move_holds keeps held guarded move, step state event next held guarded move kept⟩

theorem keeps_stronger {Stronger : System Data Ticket → Event Request Input → Prop}
    (stronger : ∀ system event, Stronger system event → Guard system event)
    (keeps : Keeps routine Guard Inv Ready) : Keeps routine Stronger Inv Ready := by
  constructor
  · intro system request data ticket inv guarded
    exact keeps.call system request data ticket inv (stronger _ _ guarded)
  · intro system index input ticket data later inv ready guarded
    exact keeps.resume system index input ticket data later inv ready (stronger _ _ guarded)

end

variable {Key : Type*} {owner : Ticket → Option Key} {pending rest : List Ticket}

def Exclusive (owner : Ticket → Option Key) (pending : List Ticket) : Prop :=
  (pending.filterMap owner).Nodup

theorem exclusive_take {index : Nat} {ticket : Ticket} (exclusive : Exclusive owner pending)
    (found : pending[index]? = some ticket) :
    Exclusive owner (pending.eraseIdx index) ∧
      ∀ key ∈ owner ticket, ∀ other ∈ pending.eraseIdx index, owner other ≠ some key := by
  obtain ⟨bound, rfl⟩ := List.getElem?_eq_some_iff.mp found
  have moved : (pending[index] :: pending.eraseIdx index).Perm pending :=
    getElem_cons_eraseIdx_perm bound
  have nodup : ((pending[index] :: pending.eraseIdx index).filterMap owner).Nodup :=
    (moved.filterMap owner).nodup_iff.mpr exclusive
  cases owned : owner pending[index] with
  | none =>
    rw [filterMap_cons_none owned] at nodup
    exact ⟨nodup, by simp⟩
  | some key =>
    rw [filterMap_cons_some owned, nodup_cons] at nodup
    refine ⟨nodup.2, ?_⟩
    rintro _ ⟨⟩ other mem same
    exact nodup.1 (mem_filterMap.mpr ⟨other, mem, same⟩)

theorem exclusive_put {later : Option Ticket} (exclusive : Exclusive owner rest)
    (free : ∀ own ∈ later, ∀ key ∈ owner own, ∀ other ∈ rest, owner other ≠ some key) :
    Exclusive owner (rest ++ later.toList) := by
  cases later with
  | none => simpa [Exclusive] using exclusive
  | some own =>
    rw [Exclusive, filterMap_append]
    cases owned : owner own with
    | none => simpa [Exclusive, owned] using exclusive
    | some key =>
      simp only [toList_some, filterMap_cons_some owned, filterMap_nil]
      rw [← concat_eq_append]
      refine List.Nodup.concat ?_ exclusive
      intro listed
      obtain ⟨other, mem, same⟩ := mem_filterMap.mp listed
      exact free own rfl key owned other mem same

end AgentMate.Interleaving
