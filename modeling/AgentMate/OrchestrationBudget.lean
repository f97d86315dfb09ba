import AgentMate.TransitionSystem
import Mathlib.Algebra.GroupWithZero.Nat
import Mathlib.Algebra.Order.BigOperators.Group.List

/-!
# The token budget of an orchestration

`run_orchestration` of `orchestrator.py` starts the nodes of a DAG in waves. Every node of a wave
gets an equal part of what remains, but at least 256 tokens. A recovery gets half of what remains,
the reviewer all of it.
-/

namespace AgentMate.Orchestrations

open TransitionSystem List

inductive AttemptEnd where
  | completed
  | failed (transient : Bool)
  | cancelled
  deriving DecidableEq

structure Attempt where
  promptTokens : Nat
  completionTokens : Nat
  ended : AttemptEnd
  deriving DecidableEq

def Attempt.tokens (attempt : Attempt) : Nat := attempt.promptTokens + attempt.completionTokens

inductive NodeStatus where
  | pending
  | completed
  | failed (transient : Bool)
  | skipped
  | cancelled
  deriving DecidableEq

/-- A row of `orchestration_nodes` between the calls on it; `tokens` is the sum of its two
columns. -/
structure Node where
  key : String
  dependsOn : List String
  status : NodeStatus
  tokens : Nat
  attempts : List Attempt
  deriving DecidableEq

def usedTokens (attempts : List Attempt) : Nat := (attempts.map Attempt.tokens).sum

/-- The loop of `_execute_node` over what the Runs of a node would do: the attempts that are
made. -/
def runAttempts : Nat → Nat → List Attempt → List Attempt
  | 0, _, _ => []
  | _, _, [] => []
  | bound + 1, remainingBudget, attempt :: rest =>
    let left := remainingBudget - attempt.tokens
    if attempt.ended = .failed true ∧ 0 < bound ∧ 256 ≤ left then
      attempt :: runAttempts bound left rest
    else [attempt]

def AttemptEnd.status : AttemptEnd → NodeStatus
  | .completed => .completed
  | .failed transient => .failed transient
  | .cancelled => .cancelled

/-- `_execute_node`: what `finish_node` records covers all attempts of the node. -/
def Node.execute (tokenBudget maxAttempts : Nat) (outcomes : List Attempt) (node : Node) : Node :=
  let made := runAttempts (max 1 (min maxAttempts 3)) (max 256 tokenBudget) outcomes
  { node with
    status := (made.getLast?.map fun attempt => attempt.ended.status).getD node.status
    tokens := usedTokens (node.attempts ++ made)
    attempts := node.attempts ++ made }

/-- Each attempt uses at most the `max_total_tokens` that it is given. -/
def WithinBudget : Nat → List Attempt → Prop
  | _, [] => True
  | left, attempt :: rest => attempt.tokens ≤ left ∧ WithinBudget (left - attempt.tokens) rest

theorem within_budget_used {budget : Nat} {attempts : List Attempt}
    (within : WithinBudget budget attempts) : usedTokens attempts ≤ budget := by
  induction attempts generalizing budget with
  | nil => exact Nat.zero_le budget
  | cons attempt rest ih =>
    have later := ih within.2
    have first := within.1
    simp only [usedTokens, map_cons, sum_cons] at later ⊢
    omega

inductive Phase where
  | running
  | recovering (failed : List String)
  | reviewing (retries : Nat)
  | ended
  deriving DecidableEq

structure Orchestration where
  maxParallel : Nat
  maxTotalTokens : Nat
  nodes : List Node
  phase : Phase
  deriving DecidableEq

def Orchestration.total (item : Orchestration) : Nat := (item.nodes.map Node.tokens).sum

def Orchestration.remaining (item : Orchestration) : Nat := item.maxTotalTokens - item.total

def Orchestration.used (item : Orchestration) : Nat :=
  (item.nodes.map fun node => usedTokens node.attempts).sum

def statusOf (nodes : List Node) (key : String) : Option NodeStatus :=
  (nodes.find? fun node => node.key = key).map Node.status

def NodeStatus.blocks : NodeStatus → Bool
  | .failed _ | .skipped | .cancelled => true
  | .pending | .completed => false

/-- Pending nodes with a dependency that did not complete, as the list was read. -/
def skipBlocked (nodes : List Node) : List Node :=
  nodes.map fun node =>
    if node.status = .pending ∧
        node.dependsOn.any fun key => (statusOf nodes key).any NodeStatus.blocks then
      { node with status := .skipped }
    else node

def readyNodes (nodes : List Node) : List Node :=
  nodes.filter fun node => node.status = .pending &&
    node.dependsOn.all fun key => statusOf nodes key = some .completed

def Orchestration.batch (item : Orchestration) : List Node :=
  (readyNodes (skipBlocked item.nodes)).take item.maxParallel

def Orchestration.perNode (item : Orchestration) : Nat :=
  max 256 (item.remaining / (item.batch.length + 1))

def executeKeys (keys : List String) (budget maxAttempts : Nat) (outcomes : String → List Attempt)
    (nodes : List Node) : List Node :=
  nodes.map fun node =>
    if node.key ∈ keys then node.execute budget maxAttempts (outcomes node.key) else node

def withReviewer (nodes : List Node) : List Node :=
  if "reviewer" ∈ nodes.map Node.key then nodes
  else nodes ++ [⟨"reviewer", (nodes.map Node.key).filter (· ≠ "planner"), .pending, 0, []⟩]

inductive LoopEvent where
  | wave (outcomes : String → List Attempt)
  | recover (outcomes : String → List Attempt)
  | review (outcomes : String → List Attempt)
  | stop

def Orchestration.wave (item : Orchestration) (outcomes : String → List Attempt) : Orchestration :=
  let nodes := skipBlocked item.nodes
  if item.batch = [] then
    { item with
      nodes := nodes
      phase := if nodes.any fun node => node.status = .pending then .ended else .reviewing 1 }
  else if item.remaining < 256 then { item with nodes := nodes, phase := .ended }
  else
    let keys := item.batch.map Node.key
    let later := executeKeys keys item.perNode 1 outcomes nodes
    { item with
      nodes := later
      phase :=
        if keys.any fun key => statusOf later key = some .cancelled then .ended
        else .recovering (keys.filter fun key => statusOf later key = some (.failed true)) }

/-- `reset_node` keeps the recorded tokens. -/
def Orchestration.recover (item : Orchestration) (key : String) (rest : List String)
    (outcomes : String → List Attempt) : Orchestration :=
  if item.remaining / 2 < 256 then { item with phase := .recovering rest }
  else
    let later := executeKeys [key] (item.remaining / 2) 3 outcomes item.nodes
    { item with
      nodes := later
      phase := if statusOf later key = some .cancelled then .ended else .recovering rest }

def Orchestration.review (item : Orchestration) (retries : Nat)
    (outcomes : String → List Attempt) : Orchestration :=
  let nodes := withReviewer item.nodes
  if item.remaining < 256 then { item with nodes := nodes, phase := .ended }
  else
    let later := executeKeys ["reviewer"] item.remaining 3 outcomes nodes
    { item with
      nodes := later
      phase :=
        if 0 < retries ∧ statusOf later "reviewer" = some (.failed true) then .reviewing (retries - 1)
        else .ended }

def Orchestration.step (item : Orchestration) : LoopEvent → Option Orchestration
  | .stop => some { item with phase := .ended }
  | .wave outcomes => if item.phase = .running then some (item.wave outcomes) else none
  | .recover outcomes =>
    match item.phase with
    | .recovering [] => some { item with phase := .running }
    | .recovering (key :: rest) => some (item.recover key rest outcomes)
    | _ => none
  | .review outcomes =>
    match item.phase with
    | .reviewing retries => some (item.review retries outcomes)
    | _ => none

def orchestrationLoop : Machine Orchestration LoopEvent where
  Initial item := (item.nodes.map Node.key).Nodup ∧
    ∀ node ∈ item.nodes, node.tokens = 0 ∧ node.attempts = []
  Step item event next := item.step event = some next

/-- Each Run that an event makes stays within the budget handed to its node. -/
def RunsWithin (item : Orchestration) : LoopEvent → Prop
  | .wave outcomes => ∀ node ∈ item.batch,
      WithinBudget item.perNode (runAttempts 1 item.perNode (outcomes node.key))
  | .recover outcomes =>
    match item.phase with
    | .recovering (key :: _) => 256 ≤ item.remaining / 2 →
        WithinBudget (item.remaining / 2) (runAttempts 3 (item.remaining / 2) (outcomes key))
    | _ => True
  | .review outcomes => 256 ≤ item.remaining →
      WithinBudget item.remaining (runAttempts 3 item.remaining (outcomes "reviewer"))
  | .stop => True

/-- What remains is at least 256 for each node of a wave. -/
def Affords (item : Orchestration) : LoopEvent → Prop
  | .wave _ => 256 ≤ item.remaining → 256 * item.batch.length ≤ item.remaining
  | .recover _ | .review _ | .stop => True

/-- Every node has its own key, and its recorded tokens are what its Runs used. -/
structure Accounted (nodes : List Node) : Prop where
  unique : (nodes.map Node.key).Nodup
  recorded : ∀ node ∈ nodes, node.tokens = usedTokens node.attempts

structure Orchestration.Kept (item : Orchestration) : Prop where
  accounted : Accounted item.nodes
  within : item.total ≤ item.maxTotalTokens

theorem total_eq_used {item : Orchestration} (accounted : Accounted item.nodes) :
    item.total = item.used :=
  congrArg List.sum (map_congr_left accounted.recorded)

section

variable {nodes : List Node} {keys : List String} {budget maxAttempts : Nat}
  {outcomes : String → List Attempt}

theorem skip_blocked_keeps (accounted : Accounted nodes) : Accounted (skipBlocked nodes) ∧
      ((skipBlocked nodes).map Node.tokens).sum = (nodes.map Node.tokens).sum := by
  have keys : (skipBlocked nodes).map Node.key = nodes.map Node.key := by
    rw [skipBlocked, map_map]
    refine map_congr_left fun node _ => ?_
    simp only [Function.comp_apply]
    split <;> rfl
  have tokens : (skipBlocked nodes).map Node.tokens = nodes.map Node.tokens := by
    rw [skipBlocked, map_map]
    refine map_congr_left fun node _ => ?_
    simp only [Function.comp_apply]
    split <;> rfl
  refine ⟨⟨keys ▸ accounted.unique, ?_⟩, by rw [tokens]⟩
  intro node mem
  obtain ⟨old, known, rfl⟩ := mem_map.mp mem
  split
  · exact accounted.recorded old known
  · exact accounted.recorded old known

theorem with_reviewer_keeps (accounted : Accounted nodes) : Accounted (withReviewer nodes) ∧
      ((withReviewer nodes).map Node.tokens).sum = (nodes.map Node.tokens).sum := by
  rw [withReviewer]
  split
  · exact ⟨accounted, rfl⟩
  · next absent =>
    refine ⟨⟨?_, ?_⟩, by simp⟩
    · rw [map_append, map_singleton]
      refine nodup_append.mpr ⟨accounted.unique, by simp, ?_⟩
      rintro key listed other same rfl
      rw [mem_singleton.mp same] at listed
      exact absent listed
    · intro node mem
      rcases mem_append.mp mem with old | new
      · exact accounted.recorded node old
      · rw [mem_singleton.mp new]
        rfl

theorem execute_keys_accounted (accounted : Accounted nodes) :
    Accounted (executeKeys keys budget maxAttempts outcomes nodes) := by
  constructor
  · have same : (executeKeys keys budget maxAttempts outcomes nodes).map Node.key =
        nodes.map Node.key := by
      rw [executeKeys, map_map]
      refine map_congr_left fun node _ => ?_
      simp only [Function.comp_apply]
      split <;> rfl
    rw [same]
    exact accounted.unique
  · intro node mem
    obtain ⟨old, known, rfl⟩ := mem_map.mp mem
    split
    · rfl
    · exact accounted.recorded old known

theorem execute_tokens (node : Node) (outcomes : List Attempt) :
    (node.execute budget maxAttempts outcomes).tokens = usedTokens node.attempts +
      usedTokens (runAttempts (max 1 (min maxAttempts 3)) (max 256 budget) outcomes) := by
  simp [Node.execute, usedTokens]

theorem execute_keys_total (accounted : Accounted nodes) {bound : Nat}
    (within : ∀ key ∈ keys, usedTokens (runAttempts (max 1 (min maxAttempts 3)) (max 256 budget)
      (outcomes key)) ≤ bound) :
    ((executeKeys keys budget maxAttempts outcomes nodes).map Node.tokens).sum ≤
      (nodes.map Node.tokens).sum + keys.length * bound := by
  have chosen : (nodes.filter fun node => node.key ∈ keys).length ≤ keys.length := by
    have unique := accounted.unique.sublist
      ((filter_sublist (p := fun node : Node => decide (node.key ∈ keys))).map Node.key)
    have inside : (nodes.filter fun node => node.key ∈ keys).map Node.key ⊆ keys := by
      intro key mem
      obtain ⟨node, listed, rfl⟩ := mem_map.mp mem
      exact of_decide_eq_true (mem_filter.mp listed).2
    simpa using (subperm_of_subset unique inside).length_le
  have sums : ∀ rest : List Node, (∀ node ∈ rest, node.tokens = usedTokens node.attempts) →
      ((executeKeys keys budget maxAttempts outcomes rest).map Node.tokens).sum ≤
        (rest.map Node.tokens).sum + (rest.filter fun node => node.key ∈ keys).length * bound := by
    intro rest recorded
    induction rest with
    | nil => simp [executeKeys]
    | cons node rest ih =>
      have later := ih fun other mem => recorded other (mem_cons_of_mem node mem)
      have known := recorded node mem_cons_self
      simp only [executeKeys, map_cons, sum_cons] at later ⊢
      by_cases listed : node.key ∈ keys
      · have used := within node.key listed
        simp only [listed, if_true, decide_true, filter_cons_of_pos, length_cons,
          Nat.add_mul, execute_tokens]
        omega
      · simp only [listed, if_false, decide_false, Bool.false_eq_true, not_false_eq_true,
          filter_cons_of_neg]
        omega
  have counted := Nat.mul_le_mul_right bound chosen
  have sum := sums nodes accounted.recorded
  omega

theorem execute_within (keys : List String) (maxAttempts : Nat) (accounted : Accounted nodes)
    (least : 256 ≤ budget)
    (runs : ∀ key ∈ keys, WithinBudget budget
      (runAttempts (max 1 (min maxAttempts 3)) budget (outcomes key))) :
    Accounted (executeKeys keys budget maxAttempts outcomes nodes) ∧
      ((executeKeys keys budget maxAttempts outcomes nodes).map Node.tokens).sum ≤
        (nodes.map Node.tokens).sum + keys.length * budget := by
  refine ⟨execute_keys_accounted accounted, execute_keys_total accounted ?_⟩
  rw [max_eq_right least]
  exact fun key listed => within_budget_used (runs key listed)

end

theorem split_within_iff {remaining count : Nat} :
    count * max 256 (remaining / (count + 1)) ≤ remaining ↔ 256 * count ≤ remaining := by
  constructor
  · intro within
    have least := Nat.mul_le_mul_left count (le_max_left 256 (remaining / (count + 1)))
    omega
  · intro affords
    rcases max_choice 256 (remaining / (count + 1)) with least | share
    · rw [least]
      omega
    · rw [share]
      have whole := Nat.mul_div_le remaining (count + 1)
      rw [Nat.add_mul] at whole
      omega

theorem step_keeps {item next : Orchestration} {event : LoopEvent} (kept : item.Kept)
    (runs : RunsWithin item event) (affords : Affords item event)
    (taken : item.step event = some next) : next.Kept := by
  obtain ⟨accounted, within⟩ := kept
  have remains : item.total + item.remaining = item.maxTotalTokens := by
    rw [Orchestration.remaining]
    omega
  cases event with
  | stop =>
    cases taken
    exact ⟨accounted, within⟩
  | wave outcomes =>
    obtain ⟨-, same⟩ := Option.ite_none_right_eq_some.mp taken
    cases same
    obtain ⟨skipped, sum⟩ := skip_blocked_keeps accounted
    rw [Orchestration.wave]
    split
    · exact ⟨skipped, sum.trans_le within⟩
    · split
      · exact ⟨skipped, sum.trans_le within⟩
      · next enough =>
        have split := split_within_iff.mpr (affords (not_lt.mp enough))
        obtain ⟨executed, spent⟩ := execute_within _ 1 skipped (le_max_left 256 _)
          (forall_mem_map.mpr runs)
        refine ⟨executed, spent.trans ?_⟩
        rw [sum, length_map]
        exact (Nat.add_le_add_left split _).trans remains.le
  | recover outcomes =>
    rw [Orchestration.step] at taken
    split at taken
    · cases taken
      exact ⟨accounted, within⟩
    · next key rest recovering =>
      cases taken
      rw [Orchestration.recover]
      split
      · exact ⟨accounted, within⟩
      · next enough =>
        rw [RunsWithin, recovering] at runs
        obtain ⟨executed, spent⟩ := execute_within [key] 3 accounted
          (not_lt.mp enough) (by simpa using runs (not_lt.mp enough))
        refine ⟨executed, spent.trans ?_⟩
        change item.total + 1 * (item.remaining / 2) ≤ item.maxTotalTokens
        omega
    · cases taken
  | review outcomes =>
    rw [Orchestration.step] at taken
    split at taken
    · next retries reviewing =>
      cases taken
      obtain ⟨reviewed, sum⟩ := with_reviewer_keeps accounted
      rw [Orchestration.review]
      split
      · exact ⟨reviewed, sum.trans_le within⟩
      · next enough =>
        obtain ⟨executed, spent⟩ := execute_within ["reviewer"] 3 reviewed
          (not_lt.mp enough) (by simpa using runs (not_lt.mp enough))
        refine ⟨executed, spent.trans ?_⟩
        rw [sum, length_singleton, one_mul]
        exact remains.le
    · cases taken

/-- In a run whose waves all find 256 tokens for each of their nodes, the nodes use at most the
total budget, and this is just when the split of a wave stays within what remains. -/
theorem token_budget_kept (item : Orchestration) :
    (orchestrationLoop.Reachable (fun state event => RunsWithin state event ∧ Affords state event)
      item → item.used ≤ item.maxTotalTokens) ∧
    (item.batch.length * item.perNode ≤ item.remaining ↔
      256 * item.batch.length ≤ item.remaining) := by
  refine ⟨?_, split_within_iff⟩
  intro reachable
  have kept : item.Kept := by
    refine reachable_invariant Orchestration.Kept ?_ ?_ reachable
    · rintro start ⟨unique, unused⟩
      refine ⟨⟨unique, fun node mem => ?_⟩, ?_⟩
      · rw [(unused node mem).1, (unused node mem).2]
        rfl
      · have zero : start.total = 0 := by
          apply sum_eq_zero
          exact forall_mem_map.mpr fun node mem => (unused node mem).1
        omega
    · intro state event next kept guarded taken
      exact step_keeps kept guarded.1 guarded.2 taken
  rw [← total_eq_used kept.accounted]
  exact kept.within

def pendingNode (key : String) (dependsOn : List String) : Node := ⟨key, dependsOn, .pending, 0, []⟩

def funnelPlan : Orchestration where
  maxParallel := 3
  maxTotalTokens := 2000
  nodes := [pendingNode "a" [], pendingNode "b" ["a"], pendingNode "c" ["b"], pendingNode "d" ["b"],
    pendingNode "e" ["b"]]
  phase := .running

def usesAll (tokens : Nat) : String → List Attempt := fun _ => [⟨tokens, 0, .completed⟩]

instance withinDecidable : ∀ (budget : Nat) (attempts : List Attempt),
    Decidable (WithinBudget budget attempts)
  | _, [] => isTrue trivial
  | _, _ :: rest => @instDecidableAnd _ _ _ (withinDecidable _ rest)

instance (item : Orchestration) (event : LoopEvent) : Decidable (RunsWithin item event) := by
  unfold RunsWithin
  split
  · infer_instance
  · split <;> infer_instance
  · infer_instance
  · infer_instance

theorem funnel_start : orchestrationLoop.Initial funnelPlan := by
  refine ⟨by decide, ?_⟩
  simp [funnelPlan, pendingNode]

def idle : String → List Attempt := fun _ => []

def runPlan (events : List LoopEvent) : Option Orchestration :=
  events.foldlM (fun item event =>
    if decide (RunsWithin item event) then item.step event else none) funnelPlan

theorem first_wave_kept : (funnelPlan.wave (usesAll 1000)).used = 1000 ∧
    (funnelPlan.wave (usesAll 1000)).used ≤ (funnelPlan.wave (usesAll 1000)).maxTotalTokens := by
  have guarded : RunsWithin funnelPlan (.wave (usesAll 1000)) ∧
      (funnelPlan.wave (usesAll 1000)).used = 1000 := by
    decide +kernel
  have taken : orchestrationLoop.Step funnelPlan (.wave (usesAll 1000))
      (funnelPlan.wave (usesAll 1000)) := rfl
  refine ⟨guarded.2, (token_budget_kept _).1 ⟨funnelPlan, funnel_start,
    .step (.refl _) ⟨guarded.1, ?_⟩ taken⟩⟩
  exact fun _ => by decide

theorem funnel_exceeds : ∃ item, orchestrationLoop.Reachable RunsWithin item ∧
    item.maxTotalTokens < item.used := by
  have ran : (runPlan [.wave (usesAll 1000), .recover idle, .wave (usesAll 500), .recover idle,
      .wave (usesAll 256)]).map (fun item => decide (item.maxTotalTokens < item.used)) =
        some true := by
    decide +kernel
  obtain ⟨item, done, exceeds⟩ := Option.map_eq_some_iff.mp ran
  have path : orchestrationLoop.Path _ funnelPlan item :=
    path_of_run _ _ (fun _ _ _ taken => taken) done
  refine ⟨item, ⟨funnelPlan, funnel_start, path_weaken ?_ path⟩, of_decide_eq_true exceeds⟩
  exact fun _ _ guarded => of_decide_eq_true guarded

end AgentMate.Orchestrations
