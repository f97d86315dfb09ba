import AgentMate.Rollback
import AgentMate.RunPlanStore

/-! # Updates of the plan of a Run -/

namespace AgentMate.RunPlans

open Interleaving TransitionSystem Relation GraphSearch Rollback List Option

variable {host : PlanHost}

def Plan.DependsOn (plan : Plan) (source target : String) : Prop :=
  ∃ item ∈ plan, item.id = source ∧ target ∈ item.dependsOn

structure Plan.Sound (plan : Plan) : Prop where
  ids : plan.ids.Nodup
  orders : ∀ (index : Nat) (item : PlanItem), plan[index]? = some item → item.order = index
  inside : ∀ item ∈ plan, ∀ dependency ∈ item.dependsOn, dependency ∈ plan.ids
  acyclic : Acyclic plan.DependsOn

variable {plan current : Plan} {after system : System PlanStore PlanTicket}
  {event : Event PlanRequest Time}

theorem dependencies_iff (unique : plan.ids.Nodup) (source target : String) :
    target ∈ plan.dependencies source ↔ plan.DependsOn source target := by
  rw [Plan.dependencies]
  constructor
  · intro listed
    cases found : plan.find? fun item => item.id = source with
    | none =>
      rw [found] at listed
      cases listed
    | some item =>
      rw [found] at listed
      exact ⟨item, mem_of_find?_eq_some found, by simpa using find?_some found, listed⟩
  · rintro ⟨item, mem, rfl, listed⟩
    have found : plan.find? (fun other => other.id = item.id) = some item :=
      Table.lookup_of_mem unique mem
    rw [found]
    exact listed

theorem check_item_iff {ids : List String} {item : PlanItem} : checkItem ids item = .ok () ↔
      item.id ∉ item.dependsOn ∧ ∀ dependency ∈ item.dependsOn, dependency ∈ ids := by
  rw [checkItem]
  split
  · next own => simp [own]
  · next free =>
    split
    · next out =>
      obtain ⟨dependency, listed, outside⟩ := List.any_eq_true.mp out
      simp only [decide_eq_true_eq] at outside
      simp only [reduceCtorEq, false_iff, not_and]
      exact fun _ inside => outside (inside dependency listed)
    · next inside =>
      simp only [true_iff]
      refine ⟨free, fun dependency listed => ?_⟩
      by_contra outside
      exact inside (List.any_eq_true.mpr ⟨dependency, listed, decide_eq_true outside⟩)

theorem check_items_iff {ids : List String} :
    plan.forM (checkItem ids) = .ok () ↔ ∀ item ∈ plan, checkItem ids item = .ok () := by
  induction plan with
  | nil => simp [forM_nil, pure, Except.pure]
  | cons item rest ih =>
    change (checkItem ids item >>= fun _ => rest.forM (checkItem ids)) = .ok () ↔ _
    rw [forall_mem_cons, ← ih]
    cases checkItem ids item with
    | ok => simp [bind, Except.bind]
    | error => simp [bind, Except.bind]

theorem acyclic_iff (unique : plan.ids.Nodup) :
    (DepthFirst.visitAll plan.dependencies (plan.length + 1) plan.ids).isSome ↔
      Acyclic plan.DependsOn := by
  have edges : Edge plan.dependencies = plan.DependsOn := by
    funext source target
    exact propext (dependencies_iff unique source target)
  rw [← edges]
  refine DepthFirst.visit_all_iff ?_ fun node child listed => ?_
  · simp [Plan.ids]
  · obtain ⟨item, mem, rfl, -⟩ := (dependencies_iff unique node child).mp listed
    exact List.mem_map_of_mem mem

theorem validate_iff : validateRunPlan plan = .ok () ↔
    plan.ids.Nodup ∧ (∀ item ∈ plan, ∀ dependency ∈ item.dependsOn, dependency ∈ plan.ids) ∧
      Acyclic plan.DependsOn := by
  rw [validateRunPlan]
  by_cases unique : plan.ids.Nodup
  · rw [if_pos unique]
    constructor
    · intro done
      obtain ⟨_, checked, done⟩ := bind_ok done
      have items := check_items_iff.mp checked
      have walked : (DepthFirst.visitAll plan.dependencies (plan.length + 1) plan.ids).isSome := by
        cases walked : DepthFirst.visitAll plan.dependencies (plan.length + 1) plan.ids with
        | some order => rfl
        | none =>
          rw [walked] at done
          cases done
      exact ⟨unique, fun item mem => (check_item_iff.mp (items item mem)).2,
        (acyclic_iff unique).mp walked⟩
    · rintro ⟨-, inside, acyclic⟩
      obtain ⟨order, walked⟩ := isSome_iff_exists.mp ((acyclic_iff unique).mpr acyclic)
      have items : plan.forM (checkItem plan.ids) = .ok () := by
        refine check_items_iff.mpr fun item mem => check_item_iff.mpr ⟨?_, inside item mem⟩
        exact fun own => acyclic item.id (.single ⟨item, mem, rfl, own⟩)
      simp only [items, walked]
      rfl
  · rw [if_neg unique]
    constructor
    · intro done
      cases done
    · exact fun sound => absurd sound.1 unique

theorem renumber_orders (index : Nat) (item : PlanItem)
    (found : (renumber plan)[index]? = some item) : item.order = index := by
  rw [renumber, getElem?_mapIdx] at found
  obtain ⟨old, -, rfl⟩ := map_eq_some_iff.mp found
  rfl

theorem renumbered_sound (valid : validateRunPlan (renumber plan) = .ok ()) :
    (renumber plan).Sound := by
  obtain ⟨ids, inside, acyclic⟩ := validate_iff.mp valid
  exact ⟨ids, renumber_orders, inside, acyclic⟩

theorem canonical_sound {runId : String} {rawItems : List Json}
    (done : canonicalRunPlan host runId rawItems current = .ok plan) : plan.Sound := by
  rw [canonicalRunPlan] at done
  split at done
  · cases done
  · obtain ⟨normalized, -, done⟩ := bind_ok done
    obtain ⟨_, valid, same⟩ := bind_ok done
    cases same
    exact renumbered_sound valid

theorem patched_sound {patches : List Json}
    (done : patchedRunPlan host patches current = .ok plan) : plan.Sound := by
  rw [patchedRunPlan] at done
  split at done
  · cases done
  · obtain ⟨items, -, done⟩ := bind_ok done
    obtain ⟨_, valid, same⟩ := bind_ok done
    cases same
    exact renumbered_sound valid

theorem apply_op_sound {runId : String} {op : PlanOp}
    (done : applyOp host runId current op = .ok plan) : plan.Sound := by
  cases op with
  | replace rawItems => exact canonical_sound done
  | patch patches => exact patched_sound done
  | link planItemId workItemId =>
    obtain ⟨rawItems, -, replaced⟩ := bind_ok done
    exact canonical_sound replaced

variable {estimateCost : EstimateCost} {store next : PlanStore} {later : Option PlanTicket}

/-- A statement leaves the plan, its version and the log alone, or commits one operation that
the plan in the row accepts. -/
inductive PlanMove (host : PlanHost) (store : PlanStore) : PlanStore → Prop
  | kept (next : PlanStore) (id : next.row.id = store.row.id)
      (plan : next.row.plan = store.row.plan)
      (version : next.row.planVersion = store.row.planVersion)
      (origin : next.origin = store.origin) (log : next.log = store.log) : PlanMove host store next
  | committed (op : PlanOp) (plan : Plan) (now : Time)
      (accepted : applyOp host store.row.id store.row.plan op = .ok plan) :
      PlanMove host store (writePlan store op plan now)

theorem unmoved (store : PlanStore) : PlanMove host store store := .kept store rfl rfl rfl rfl rfl

theorem write_plan_row (store : PlanStore) (op : PlanOp) (plan : Plan) (now : Time) :
    (writePlan store op plan now).row.plan = plan ∧
      (writePlan store op plan now).row.id = store.row.id ∧
      (writePlan store op plan now).row.planVersion =
        if plan = store.row.plan then store.row.planVersion else store.row.planVersion + 1 := by
  rw [writePlan]
  dsimp only
  split
  · next same => exact ⟨same.symm, rfl, rfl⟩
  · exact ⟨rfl, rfl, rfl⟩

theorem commit_move {op : PlanOp} {result : Except PlanError Plan} (now : Time)
    (applied : applyOp host store.row.id store.row.plan op = result) :
    PlanMove host store (commitPlan store op result now) := by
  cases result with
  | error error => exact unmoved store
  | ok plan => exact .committed op plan now applied

def PlanTicket.Read : PlanTicket → Prop
  | .link planItemId workItemId seen rawItems =>
    linkedItems planItemId workItemId seen = .ok rawItems
  | .runtime _ _ => True

/-- The write meets the plan that was read, and a write of the runtime columns is given no
plan of its own. -/
def PlanTicket.Undisturbed (store : PlanStore) : PlanTicket → Prop
  | .link _ _ seen _ => store.row.plan = seen
  | .runtime seen call => store.row.plan = seen.plan ∧ call.plan = none

def Undisturbed (system : System PlanStore PlanTicket) : Event PlanRequest Time → Prop
  | .resume index _ => ∀ ticket ∈ system.pending[index]?, ticket.Undisturbed system.data
  | _ => True

theorem call_plan_move {request : PlanRequest}
    (called : callPlan host store request = some (next, later)) :
    PlanMove host store next ∧ ∀ own ∈ later, own.Read := by
  cases request with
  | replace rawItems now =>
    cases called
    exact ⟨commit_move now rfl, by simp⟩
  | patch patches now =>
    cases called
    exact ⟨commit_move now rfl, by simp⟩
  | link planItemId workItemId =>
    cases called
    refine ⟨unmoved store, fun own asked => ?_⟩
    obtain ⟨rawItems, linked, rfl⟩ := map_eq_some_iff.mp asked
    cases read : linkedItems planItemId workItemId store.row.plan with
    | error error =>
      rw [read] at linked
      cases linked
    | ok items =>
      rw [read] at linked
      cases linked
      exact read
  | runtime call =>
    cases called
    refine ⟨unmoved store, ?_⟩
    rintro own ⟨⟩
    trivial

theorem resume_plan_move {ticket : PlanTicket} {now : Time} (read : ticket.Read)
    (undisturbed : ticket.Undisturbed store)
    (resumed : resumePlan host estimateCost store ticket now = some (next, later)) :
    PlanMove host store next ∧ later = none := by
  cases ticket with
  | link planItemId workItemId seen rawItems =>
    cases resumed
    refine ⟨commit_move now ?_, rfl⟩
    rw [PlanTicket.Undisturbed] at undisturbed
    rw [applyOp, undisturbed, show linkedItems planItemId workItemId seen = .ok rawItems from read]
    rfl
  | runtime seen call =>
    cases resumed
    refine ⟨.kept _ rfl ?_ rfl rfl rfl, rfl⟩
    rw [writeRuntime, undisturbed.1, undisturbed.2]
    rfl

structure PlanStore.Kept (host : PlanHost) (store : PlanStore) : Prop where
  sound : store.row.plan.Sound
  replayed : store.log.foldlM (applyOp host store.row.id) store.origin = .ok store.row.plan

theorem move_kept (kept : store.Kept host) (move : PlanMove host store next) : next.Kept host := by
  cases move with
  | kept next id plan version origin log =>
    constructor
    · rw [plan]
      exact kept.sound
    · rw [id, plan, origin, log]
      exact kept.replayed
  | committed op plan now accepted =>
    obtain ⟨written, same, -⟩ := write_plan_row store op plan now
    constructor
    · rw [written]
      exact apply_op_sound accepted
    · rw [written, same]
      change (store.log ++ [op]).foldlM (applyOp host store.row.id) store.origin = .ok plan
      rw [foldlM_append, kept.replayed]
      change ([op].foldlM (applyOp host store.row.id) store.row.plan) = .ok plan
      rw [foldlM_cons, accepted]
      rfl

theorem move_version (move : PlanMove host store next) :
    next.row.planVersion =
      if next.row.plan = store.row.plan then store.row.planVersion
      else store.row.planVersion + 1 := by
  cases move with
  | kept next id plan version origin log => rw [if_pos plan, version]
  | committed op plan now accepted =>
    obtain ⟨written, -, version⟩ := write_plan_row store op plan now
    rw [written, version]

theorem plan_routine_keeps (host : PlanHost) (estimateCost : EstimateCost) :
    Keeps (planRoutine host estimateCost) Undisturbed (PlanStore.Kept host)
      (fun _ ticket => ticket.Read) := by
  constructor
  · intro system request data ticket kept _ called
    obtain ⟨move, own⟩ := call_plan_move called
    exact ⟨move_kept kept move, own, fun _ _ read => read⟩
  · intro system index input ticket data later kept read undisturbed found resumed
    obtain ⟨move, ended⟩ := resume_plan_move read (undisturbed ticket found) resumed
    exact ⟨move_kept kept move, by simp [ended], fun _ _ read => read⟩

/-- A Run that has just been created, with no plan or with the plan of the Run it retries. -/
structure PlanStore.Fresh (store : PlanStore) : Prop where
  sound : store.row.plan.Sound
  origin : store.origin = store.row.plan
  log : store.log = []

def planMachine (host : PlanHost) (estimateCost : EstimateCost) :
    Machine (System PlanStore PlanTicket) (Event PlanRequest Time) :=
  (planRoutine host estimateCost).machine PlanStore.Fresh

theorem fresh_kept (fresh : store.Fresh) : store.Kept host := by
  constructor
  · exact fresh.sound
  · rw [fresh.log, fresh.origin]
    rfl

def asksForPlan (system : System PlanStore PlanTicket) : Event PlanRequest Time → Bool
  | .call (.replace _ _) | .call (.patch _ _) => true
  | .resume index _ => system.pending[index]?.any fun
      | .link _ _ _ _ => true
      | .runtime _ _ => false
  | _ => false

theorem step_plan_move (holds : Holds (PlanStore.Kept host) (fun _ ticket => ticket.Read) system)
    (undisturbed : Undisturbed system event)
    (move : Move (planRoutine host estimateCost) system event after) :
    PlanMove host system.data after.data := by
  cases move with
  | call request data ticket taken => exact (call_plan_move taken).1
  | resume index input ticket data later found taken =>
    have read := holds.pending ticket (mem_of_getElem? found)
    exact (resume_plan_move read (undisturbed ticket found) taken).1
  | crash index => exact unmoved system.data

theorem unasked_plan (undisturbed : Undisturbed system event)
    (unasked : asksForPlan system event = false)
    (move : Move (planRoutine host estimateCost) system event after) :
    after.data.row.plan = system.data.row.plan := by
  cases move with
  | call request data ticket taken =>
    cases request with
    | replace rawItems now => cases unasked
    | patch patches now => cases unasked
    | link planItemId workItemId =>
      cases taken
      rfl
    | runtime call =>
      cases taken
      rfl
  | resume index input ticket data later found taken =>
    cases ticket with
    | link planItemId workItemId seen rawItems =>
      rw [asksForPlan, found] at unasked
      cases unasked
    | runtime seen call =>
      cases taken
      obtain ⟨same, none_given⟩ := undisturbed _ found
      rw [writeRuntime, none_given]
      exact same.symm
  | crash index => rfl

/-- In every reachable state the stored plan is the accepted operations applied in the order
of their commits, and it is sound; a step advances the version exactly when it changes the
plan, and only a step that was asked to. -/
theorem run_plan_updates_kept {host : PlanHost} {estimateCost : EstimateCost}
    {system : System PlanStore PlanTicket}
    (reachable : (planMachine host estimateCost).Reachable Undisturbed system) :
    system.data.log.foldlM (applyOp host system.data.row.id) system.data.origin =
        .ok system.data.row.plan ∧
      system.data.row.plan.Sound ∧
      ∀ event after, Undisturbed system event →
        (planMachine host estimateCost).Step system event after → (after.data.row.planVersion =
            if after.data.row.plan = system.data.row.plan then system.data.row.planVersion
            else system.data.row.planVersion + 1) ∧
          (asksForPlan system event = false → after.data.row.plan = system.data.row.plan) := by
  have holds : Holds (PlanStore.Kept host) (fun _ ticket => ticket.Read) system :=
    reachable_holds (plan_routine_keeps host estimateCost) (fun _ => fresh_kept) reachable
  refine ⟨holds.data.replayed, holds.data.sound, fun event after undisturbed step => ⟨?_, ?_⟩⟩
  · exact move_version (step_plan_move holds undisturbed (next_move step))
  · exact fun unasked => unasked_plan undisturbed unasked (next_move step)

instance (store : PlanStore) (ticket : PlanTicket) : Decidable (ticket.Undisturbed store) := by
  cases ticket <;> unfold PlanTicket.Undisturbed <;> infer_instance

instance (system : System PlanStore PlanTicket) (event : Event PlanRequest Time) :
    Decidable (Undisturbed system event) := by
  cases event <;> unfold Undisturbed <;> infer_instance

def sampleHost : PlanHost where
  dumps _ := ""
  strOf _ := ""
  intOf _ := none
  casefold text := text
  sha256 text := text

def newRun : PlanStore where
  row :=
    { id := "run", plan := [], planVersion := 0, modelSnapshot := .obj []
      permissionSnapshot := .obj [], promptTokens := 0, cachedPromptTokens := 0
      completionTokens := 0, toolCalls := 0, estimatedCost := none, costCurrency := none
      updatedAt := 0 }
  origin := []
  log := []

theorem new_run_fresh : newRun.Fresh := by
  refine ⟨⟨nodup_nil, ?_, ?_, ?_⟩, rfl, rfl⟩
  · intro index item found
    cases found
  · intro item mem
    cases mem
  · intro node cycle
    obtain ⟨child, ⟨item, mem, -⟩, -⟩ := TransGen.head'_iff.mp cycle
    cases mem

def planOfTwo : Event PlanRequest Time :=
  .call (.replace [
    .obj [("id", .str "a"), ("title", .str "Read")],
    .obj [("id", .str "b"), ("title", .str "Write"), ("depends_on", .arr [.str "a"])]] 1)

def finishFirst : Event PlanRequest Time :=
  .call (.patch [.obj [("id", .str "a"), ("status", .str "completed")]] 3)

def recordTokens : Event PlanRequest Time :=
  .call (.runtime ⟨none, none, some 120, none, some 8, some 1⟩)

def noPrice : EstimateCost := fun _ _ _ _ => (none, none)

def planOf (system : System PlanStore PlanTicket) : List (String × PlanStatus) × Nat :=
  (system.data.row.plan.map fun item => (item.id, item.status), system.data.row.planVersion)

def linkedPlan : List (Event PlanRequest Time) :=
  [planOfTwo, recordTokens, .resume 0 2, .call (.link "a" "item-7"), .resume 0 3, finishFirst]

theorem linked_plan_kept : ∃ system,
    (planRoutine sampleHost noPrice).run (fun system event => decide (Undisturbed system event))
        newRun linkedPlan = some system ∧
      planOf system = ([("a", .completed), ("b", .pending)], 3) ∧
      system.data.log.foldlM (applyOp sampleHost system.data.row.id) system.data.origin =
        .ok system.data.row.plan ∧ system.data.row.plan.Sound := by
  have ran : ((planRoutine sampleHost noPrice).run
      (fun system event => decide (Undisturbed system event)) newRun linkedPlan).map planOf =
        some ([("a", .completed), ("b", .pending)], 3) := by decide +kernel
  obtain ⟨system, done, shown⟩ := map_eq_some_iff.mp ran
  have reachable := reachable_weaken (fun _ _ undisturbed => of_decide_eq_true undisturbed)
    (run_reachable (fun system event => decide (Undisturbed system event)) new_run_fresh done)
  have kept := @run_plan_updates_kept sampleHost noPrice system reachable
  exact ⟨system, done, shown, kept.1, kept.2.1⟩

def patchWrittenOver : List (Event PlanRequest Time) :=
  [planOfTwo, recordTokens, finishFirst, .resume 0 4]

def patchLinkedOver : List (Event PlanRequest Time) :=
  [planOfTwo, .call (.link "b" "item-7"), finishFirst, .resume 0 4]

def loggedPlan (system : System PlanStore PlanTicket) : Option (List (String × PlanStatus)) :=
  (system.data.log.foldlM (applyOp sampleHost system.data.row.id)
    system.data.origin).toOption.map fun plan => plan.map fun item => (item.id, item.status)

def planAndLog (events : List (Event PlanRequest Time)) :
    Option (List (String × PlanStatus) × Nat × Option (List (String × PlanStatus))) :=
  ((planRoutine sampleHost noPrice).run (fun _ _ => true) newRun events).map fun system =>
    ((planOf system).1, (planOf system).2, loggedPlan system)

theorem patches_lost : planAndLog patchWrittenOver =
      some ([("a", .pending), ("b", .pending)], 2, some [("a", .completed), ("b", .pending)]) ∧
    planAndLog patchLinkedOver =
      some ([("a", .pending), ("b", .pending)], 3, some [("a", .completed), ("b", .pending)]) := by
  constructor
  · decide +kernel
  · decide +kernel

end AgentMate.RunPlans
