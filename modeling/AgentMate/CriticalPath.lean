import AgentMate.LongestChain
import AgentMate.RoundedDoubles
import AgentMate.WorkItemStore
import Mathlib.Data.Finset.Dedup
import Mathlib.Data.Finset.Insert
import Mathlib.Data.List.Sort

/-!
# The critical path of a project's work items

`_critical_path_ids` of `routers/work_items.py` takes the estimated hours of an item, at least
one, as its duration and returns the items of one longest chain of dependencies. The durations
are added in double precision, from the first item of a chain on; the longest chain is the
longest by these sums. By the exact sums another chain can be longer.
-/

namespace AgentMate

open GraphSearch LongestChain RoundedDoubles List

section

variable (items : List WorkItemRow)

/-- `by_id.get(item_id)`: of two items with one id the later counts. -/
def byId (itemId : String) : Option WorkItemRow := items.reverse.find? fun item => item.id = itemId

/-- The items whose results are the candidates of an item; foreign ids are left out. -/
def dependenciesIn (itemId : String) : List String :=
  match byId items itemId with
  | some item => item.dependencyIds.filter fun dep => (byId items dep).isSome
  | none => []

/-- `max(1.0, float(item.get("estimate_h") or 0))`. -/
def itemWeight (itemId : String) : ℚ := (byId items itemId).elim 0 fun item => max 1 item.estimateH

def addDoubles (left right : ℚ) : ℚ := roundRatio (left + right)

/-- The order of `key=lambda value: (value[0], value[1])`. -/
def KeyLess (left right : ℚ × List String) : Prop :=
  left.1 < right.1 ∨ (left.1 = right.1 ∧ left.2 < right.2)

instance : DecidableRel KeyLess := fun left right =>
  inferInstanceAs (Decidable (left.1 < right.1 ∨ (left.1 = right.1 ∧ left.2 < right.2)))

def extendPath (itemId : String) (candidates : List (ℚ × List String)) : ℚ × List String :=
  let previous := greatest KeyLess (0, []) candidates
  (addDoubles previous.1 (itemWeight items itemId), previous.2 ++ [itemId])

/-- The results of `visit` for `sorted(by_id)`, with one memo for all of them. -/
def visitItems : List (ℚ × List String) :=
  (visitAll (visit (dependenciesIn items) (extendPath items) (0, []) (items.length + 1) []) []
    ((items.map WorkItemRow.id).dedup.insertionSort (· ≤ ·))).1

def criticalPathIds : Finset String :=
  if items = [] then ∅ else (greatest KeyLess (0, []) (visitItems items)).2.toFinset

def DependsOn (itemId dep : String) : Prop :=
  ∃ item, byId items itemId = some item ∧ dep ∈ item.dependencyIds ∧ (byId items dep).isSome

structure DependencyChain (chain : List String) : Prop where
  known : ∀ itemId ∈ chain, (byId items itemId).isSome
  linked : chain.IsChain fun earlier later => DependsOn items later earlier

def chainHours (chain : List String) : ℚ := total (itemWeight items) addDoubles 0 chain

def exactHours (chain : List String) : ℚ := (chain.map (itemWeight items)).sum

end

variable {items : List WorkItemRow}

theorem mem_dependencies_in {itemId dep : String} :
    dep ∈ dependenciesIn items itemId ↔ DependsOn items itemId dep := by
  unfold dependenciesIn DependsOn
  cases byId items itemId <;> simp

theorem linked_iff (chain : List String) :
    (chain.IsChain fun earlier later => DependsOn items later earlier) ↔
      Leads (dependenciesIn items) chain := by
  have same : (fun earlier later => DependsOn items later earlier) =
      fun earlier later => earlier ∈ dependenciesIn items later := by
    funext earlier later
    exact propext mem_dependencies_in.symm
  rw [same, Leads]

theorem by_id_some_iff {itemId : String} :
    (byId items itemId).isSome ↔ itemId ∈ items.map WorkItemRow.id := by
  simp [byId, find?_isSome]

theorem leads_known {chain : List String} (leads : Leads (dependenciesIn items) chain)
    {last : String} (ends : chain.getLast? = some last) (known : (byId items last).isSome) :
    ∀ itemId ∈ chain, (byId items itemId).isSome := by
  induction chain with
  | nil => simp
  | cons itemId rest ih =>
    cases rest with
    | nil =>
      intro other mem
      rw [getLast?_singleton, Option.some_inj] at ends
      rwa [mem_singleton.mp mem, ends]
    | cons later rest =>
      rw [getLast?_cons_cons] at ends
      have linked := isChain_cons_cons.mp leads
      intro other mem
      rcases mem_cons.mp mem with rfl | old
      · obtain ⟨-, -, -, found⟩ := mem_dependencies_in.mp linked.1
        exact found
      · exact ih linked.2 ends other old

theorem item_weight_nonneg (itemId : String) : 0 ≤ itemWeight items itemId := by
  unfold itemWeight
  cases byId items itemId with
  | none => exact le_refl _
  | some item => exact zero_le_one.trans (le_max_left _ _)

theorem add_doubles_nonneg (sum : ℚ) (itemId : String) (nonneg : 0 ≤ sum) :
    0 ≤ addDoubles sum (itemWeight items itemId) := by
  have weight : 0 ≤ itemWeight items itemId := item_weight_nonneg itemId
  have rounded := round_ratio_mono (add_nonneg nonneg weight)
  have zero : roundRatio 0 = 0 := by decide +kernel
  rwa [zero] at rounded

theorem add_doubles_mono (less more : ℚ) (itemId : String) (le : less ≤ more) :
    addDoubles less (itemWeight items itemId) ≤ addDoubles more (itemWeight items itemId) :=
  round_ratio_mono (add_le_add_left le _)

theorem key_less_up (best answer : ℚ × List String) (less : KeyLess best answer) :
    best.1 ≤ answer.1 := by
  rcases less with lower | ⟨same, -⟩
  · exact lower.le
  · exact same.le

theorem key_less_down (best answer : ℚ × List String) (less : ¬KeyLess best answer) :
    answer.1 ≤ best.1 := not_lt.mp fun lower => less (Or.inl lower)

theorem extend_path_longest (itemId : String) (answers : List (ℚ × List String))
    (answered : Answered (Longest (dependenciesIn items) (itemWeight items) addDoubles 0)
      (dependenciesIn items itemId) answers) :
    Longest (dependenciesIn items) (itemWeight items) addDoubles 0 itemId
      (extendPath items itemId answers) := by
  apply extend_longest add_doubles_nonneg add_doubles_mono answered
  · by_cases empty : answers = []
    · exact Or.inl ⟨empty, by rw [empty]; rfl⟩
    · exact Or.inr (greatest_mem empty)
  · intro answer mem
    exact le_greatest key_less_up key_less_down mem

theorem visit_items_answered (acyclic : Acyclic fun itemId dep => DependsOn items itemId dep) :
    Answered (Longest (dependenciesIn items) (itemWeight items) addDoubles 0)
      ((items.map WorkItemRow.id).dedup.insertionSort (· ≤ ·)) (visitItems items) := by
  have edges : Acyclic (Edge (dependenciesIn items)) := acyclic_mono acyclic
    fun itemId dep edge => mem_dependencies_in.mp edge
  have known : ∀ itemId dep, dep ∈ dependenciesIn items itemId →
      itemId ∈ items.map WorkItemRow.id := by
    intro itemId dep edge
    obtain ⟨item, found, -⟩ := mem_dependencies_in.mp edge
    exact by_id_some_iff.mp (by rw [found]; rfl)
  have enough : (unseen (items.map WorkItemRow.id) []).length < items.length + 1 := by
    have short := length_filter_le (fun node => node ∉ ([] : List String))
      (items.map WorkItemRow.id)
    rw [length_map] at short
    exact Nat.lt_succ_of_le short
  have nothing : MemoGood (Longest (dependenciesIn items) (itemWeight items) addDoubles 0) [] := by
    intro entry mem
    cases mem
  exact (visit_all_good (fun itemId _ memo good =>
    visit_good edges known extend_path_longest (by simp) enough good) nothing).1

/-- Without a cycle the ids are those of one dependency chain, and no dependency chain has a
greater total weight. -/
theorem critical_path_longest (items : List WorkItemRow)
    (acyclic : Acyclic fun itemId dep => DependsOn items itemId dep) :
    ∃ chain, DependencyChain items chain ∧ criticalPathIds items = chain.toFinset ∧
      ∀ other, DependencyChain items other → chainHours items other ≤ chainHours items chain := by
  cases items with
  | nil =>
    refine ⟨[], ⟨by simp, .nil⟩, if_pos rfl, ?_⟩
    intro other chain
    cases other with
    | nil => exact le_refl _
    | cons itemId rest => exact absurd (chain.known itemId mem_cons_self) (by simp [byId])
  | cons first rest =>
    have answered := visit_items_answered acyclic
    have nonempty : visitItems (first :: rest) ≠ [] := by
      obtain ⟨answer, mem, -⟩ := answered.complete first.id (by simp [mem_insertionSort])
      exact ne_nil_of_mem mem
    have mem : greatest KeyLess (0, []) (visitItems (first :: rest)) ∈
        visitItems (first :: rest) := greatest_mem nonempty
    obtain ⟨last, listed, longest⟩ := answered.sound _ mem
    refine ⟨_, ⟨?_, (linked_iff _).mpr longest.leads⟩, if_neg (cons_ne_nil _ _), ?_⟩
    · exact leads_known longest.leads longest.ends
        (by_id_some_iff.mpr (by simpa [mem_insertionSort] using listed))
    · intro other chain
      rw [chainHours, chainHours, longest.sum]
      cases ends : other.getLast? with
      | none =>
        rw [getLast?_eq_none_iff.mp ends, ← longest.sum]
        exact zero_le_total add_doubles_nonneg _
      | some itemId =>
        have mem : itemId ∈ other := mem_of_getLast? ends
        obtain ⟨answer, visited, best⟩ := answered.complete itemId
          (by simpa [mem_insertionSort] using by_id_some_iff.mp (chain.known itemId mem))
        exact (best.bound other ((linked_iff other).mp chain.linked) ends).trans
          (le_greatest key_less_up key_less_down visited)

def plannedItem (itemId : String) (estimateH : ℚ) (dependencyIds : List String) : WorkItemRow where
  id := itemId
  projectId := "p"
  title := itemId
  status := .todo
  source := "manual"
  assignee := ""
  description := ""
  priority := ""
  dueDate := ""
  startDate := ""
  labels := []
  parentId := ""
  milestoneId := ""
  estimateH := estimateH
  spentH := 0
  customFields := []
  dependencyIds := dependencyIds
  sprintId := ""
  sort := 1
  version := 1
  createdAt := 0
  updatedAt := 0

def roundedItems : List WorkItemRow :=
  [plannedItem "a" (1 + 1 / 2 ^ 52) [], plannedItem "b" 2 ["a", "gone"], plannedItem "z" 3 []]

theorem rounded_edge {itemId dep : String} (edge : DependsOn roundedItems itemId dep) :
    itemId = "b" ∧ dep = "a" := by
  have listed : itemId ∈ roundedItems.map WorkItemRow.id := by
    obtain ⟨item, found, -⟩ := edge
    exact by_id_some_iff.mp (by rw [found]; rfl)
  have ends := mem_dependencies_in.mpr edge
  have values : dependenciesIn roundedItems "a" = [] ∧ dependenciesIn roundedItems "b" = ["a"] ∧
      dependenciesIn roundedItems "z" = [] := by decide +kernel
  rcases mem_cons.mp listed with rfl | listed
  · rw [show (plannedItem "a" (1 + 1 / 2 ^ 52) []).id = "a" from rfl, values.1] at ends
    cases ends
  · rcases mem_cons.mp listed with rfl | listed
    · rw [show (plannedItem "b" 2 ["a", "gone"]).id = "b" from rfl, values.2.1] at ends
      exact ⟨rfl, mem_singleton.mp ends⟩
    · rw [mem_singleton.mp listed, show (plannedItem "z" 3 []).id = "z" from rfl,
        values.2.2] at ends
      cases ends

theorem rounded_acyclic : Acyclic fun itemId dep => DependsOn roundedItems itemId dep := by
  intro itemId cycle
  obtain ⟨dep, first, rest⟩ := Relation.TransGen.head'_iff.mp cycle
  have start := rounded_edge first
  rcases Relation.ReflTransGen.cases_head rest with same | ⟨other, second, -⟩
  · rw [← same, start.2] at start
    exact absurd start.1 (by decide)
  · exact absurd (start.2.symm.trans (rounded_edge second).1) (by decide)

theorem rounded_path_longest : ∃ chain, DependencyChain roundedItems chain ∧
    criticalPathIds roundedItems = chain.toFinset ∧ ∀ other, DependencyChain roundedItems other →
        chainHours roundedItems other ≤ chainHours roundedItems chain :=
  critical_path_longest roundedItems rounded_acyclic

theorem exact_sum_longer : ¬∀ items : List WorkItemRow,
    (Acyclic fun itemId dep => DependsOn items itemId dep) →
      ∃ chain, DependencyChain items chain ∧ criticalPathIds items = chain.toFinset ∧
        ∀ other, DependencyChain items other → exactHours items other ≤ exactHours items chain := by
  intro all
  obtain ⟨chain, found, same, longest⟩ := all roundedItems rounded_acyclic
  have path : criticalPathIds roundedItems = {"z"} := by decide +kernel
  have only : ∀ itemId ∈ chain, itemId = "z" := by
    intro itemId mem
    rw [path] at same
    exact Finset.mem_singleton.mp (same ▸ mem_toFinset.mpr mem)
  have single : exactHours roundedItems chain ≤ 3 := by
    cases chain with
    | nil => decide +kernel
    | cons first rest =>
      rw [only first mem_cons_self]
      cases rest with
      | nil => decide +kernel
      | cons second rest =>
        have edge := rounded_edge (isChain_cons_cons.mp found.linked).1
        have last := only first mem_cons_self
        exact absurd (last.symm.trans edge.2) (by decide)
  have row : DependencyChain roundedItems ["a", "b"] := by
    refine ⟨by decide +kernel, isChain_cons_cons.mpr ⟨?_, .singleton _⟩⟩
    exact mem_dependencies_in.mp (by decide +kernel)
  have longer : 3 < exactHours roundedItems ["a", "b"] := by decide +kernel
  exact absurd ((longest _ row).trans single) (not_le.mpr longer)

end AgentMate
