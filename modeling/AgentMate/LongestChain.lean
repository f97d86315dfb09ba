import AgentMate.GraphSearch
import Mathlib.Data.List.Chain
import Mathlib.Order.Lattice

/-!
# Longest chains by a memoised search

`visit` computes an answer for a node from the answers for its children and keeps every
answer in a memo that later visits share. In a graph without a cycle each answer has the
property that holds of a node whose children's answers have it. With the heaviest answer of
the children extended by the node itself, the answer is a heaviest chain that ends there; the
weights may be added in any way that keeps their order.
-/

namespace AgentMate.LongestChain

open Relation GraphSearch List Option

section

variable {Node Answer : Type*} {Good : Node → Answer → Prop}

/-- The answers for a list of nodes, each walk starting with the memo the one before left. -/
def visitAll (walk : List (Node × Answer) → Node → Answer × List (Node × Answer)) :
    List (Node × Answer) → List Node → List Answer × List (Node × Answer)
  | memo, [] => ([], memo)
  | memo, node :: rest =>
    let here := walk memo node
    let others := visitAll walk here.2 rest
    (here.1 :: others.1, others.2)

def MemoGood (Good : Node → Answer → Prop) (memo : List (Node × Answer)) : Prop :=
  ∀ entry ∈ memo, Good entry.1 entry.2

structure Answered (Good : Node → Answer → Prop) (nodes : List Node) (answers : List Answer) :
    Prop where
  sound : ∀ answer ∈ answers, ∃ node ∈ nodes, Good node answer
  complete : ∀ node ∈ nodes, ∃ answer ∈ answers, Good node answer

variable {memo : List (Node × Answer)}

theorem visit_all_good {walk : List (Node × Answer) → Node → Answer × List (Node × Answer)}
    {nodes : List Node} (step : ∀ node ∈ nodes, ∀ memo, MemoGood Good memo →
      Good node (walk memo node).1 ∧ MemoGood Good (walk memo node).2) (good : MemoGood Good memo) :
    Answered Good nodes (visitAll walk memo nodes).1 ∧
      MemoGood Good (visitAll walk memo nodes).2 := by
  induction nodes generalizing memo with
  | nil => exact ⟨⟨by simp [visitAll], by simp⟩, good⟩
  | cons node rest ih =>
    have here := step node mem_cons_self memo good
    have others := ih (fun other listed => step other (mem_cons_of_mem node listed)) here.2
    rw [visitAll]
    refine ⟨⟨?_, ?_⟩, others.2⟩
    · intro answer mem
      rcases mem_cons.mp mem with rfl | later
      · exact ⟨node, mem_cons_self, here.1⟩
      · obtain ⟨other, listed, fits⟩ := others.1.sound answer later
        exact ⟨other, mem_cons_of_mem node listed, fits⟩
    · intro other listed
      rcases mem_cons.mp listed with rfl | later
      · exact ⟨_, mem_cons_self, here.1⟩
      · obtain ⟨answer, mem, fits⟩ := others.1.complete other later
        exact ⟨answer, mem_cons_of_mem _ mem, fits⟩

variable [DecidableEq Node]

def recalled (memo : List (Node × Answer)) (node : Node) : Option Answer :=
  (memo.find? fun entry => entry.1 = node).map Prod.snd

theorem recalled_good (good : MemoGood Good memo) {node : Node}
    {answer : Answer} (known : recalled memo node = some answer) : Good node answer := by
  rw [recalled, map_eq_some_iff] at known
  obtain ⟨entry, found, rfl⟩ := known
  have same : entry.1 = node := by simpa using find?_some found
  have kept := good entry (mem_of_find?_eq_some found)
  rwa [same] at kept

variable (next : Node → List Node) (combine : Node → List Answer → Answer) (cut : Answer)

/-- A node that is still being visited, or one beyond the depth bound, gets the answer `cut`. -/
def visit : Nat → List Node → List (Node × Answer) → Node → Answer × List (Node × Answer)
  | 0, _, memo, _ => (cut, memo)
  | fuel + 1, visiting, memo, node =>
    match recalled memo node with
    | some answer => (answer, memo)
    | none =>
      if node ∈ visiting then (cut, memo)
      else
        let children := visitAll (visit fuel (node :: visiting)) memo (next node)
        let answer := combine node children.1
        (answer, (node, answer) :: children.2)

variable {next combine cut}

/-- The rule of a memoised search: what holds of a node as soon as it holds of the answers for
its children holds of every answer. -/
theorem visit_good {nodes : List Node} (acyclic : Acyclic (Edge next))
    (known : ∀ node child, child ∈ next node → node ∈ nodes)
    (combined : ∀ node answers, Answered Good (next node) answers →
      Good node (combine node answers)) {fuel : Nat} {visiting : List Node} {node : Node}
    (above : ∀ other ∈ visiting, TransGen (Edge next) other node)
    (enough : (unseen nodes visiting).length < fuel) (good : MemoGood Good memo) :
    Good node (visit next combine cut fuel visiting memo node).1 ∧
      MemoGood Good (visit next combine cut fuel visiting memo node).2 := by
  induction fuel generalizing visiting memo node with
  | zero => omega
  | succ fuel ih =>
    rw [visit]
    split
    · next answer found => exact ⟨recalled_good good found, good⟩
    · have free : node ∉ visiting := fun busy => acyclic node (above node busy)
      rw [if_neg free]
      have step (child : Node) (edge : child ∈ next node) (memo : List (Node × Answer))
          (good : MemoGood Good memo) :
          Good child (visit next combine cut fuel (node :: visiting) memo child).1 ∧
            MemoGood Good (visit next combine cut fuel (node :: visiting) memo child).2 := by
        have shorter := unseen_length_lt (known node child edge) free
        apply ih _ (by omega) good
        intro other listed
        rcases mem_cons.mp listed with rfl | busy
        · exact .single edge
        · exact (above other busy).tail edge
      have children := visit_all_good step good
      have answer := combined node _ children.1
      refine ⟨answer, ?_⟩
      intro entry mem
      rcases mem_cons.mp mem with rfl | old
      · exact answer
      · exact children.2 entry old

end

section

variable {Answer Amount : Type*} [LinearOrder Amount] {less : Answer → Answer → Prop}
  [DecidableRel less]

/-- The first answer that is less than no other, and `default` without answers. -/
def greatest (less : Answer → Answer → Prop) [DecidableRel less] (default : Answer) :
    List Answer → Answer
  | [] => default
  | first :: rest => rest.foldl (fun best answer => if less best answer then answer else best) first

theorem greatest_mem {default : Answer} {answers : List Answer} (nonempty : answers ≠ []) :
    greatest less default answers ∈ answers := by
  obtain ⟨first, rest, rfl⟩ := exists_cons_of_ne_nil nonempty
  rw [greatest]
  induction rest generalizing first with
  | nil => exact mem_cons_self
  | cons answer rest ih =>
    rw [foldl_cons]
    have later := ih (if less first answer then answer else first) (cons_ne_nil _ _)
    rcases mem_cons.mp later with same | mem
    · rw [same]
      split
      · exact mem_cons_of_mem _ mem_cons_self
      · exact mem_cons_self
    · exact mem_cons_of_mem _ (mem_cons_of_mem _ mem)

theorem le_greatest {amount : Answer → Amount}
    (up : ∀ best answer, less best answer → amount best ≤ amount answer)
    (down : ∀ best answer, ¬less best answer → amount answer ≤ amount best)
    {default : Answer} {answers : List Answer} {answer : Answer} (mem : answer ∈ answers) :
    amount answer ≤ amount (greatest less default answers) := by
  cases answers with
  | nil => cases mem
  | cons first rest =>
    rw [greatest]
    have fold : ∀ (rest : List Answer) (first answer : Answer), answer ∈ first :: rest →
        amount answer ≤ amount (rest.foldl
          (fun best answer => if less best answer then answer else best) first) := by
      intro rest
      induction rest with
      | nil =>
        intro first answer mem
        rw [mem_singleton.mp mem, foldl_nil]
      | cons second rest ih =>
        intro first answer mem
        rw [foldl_cons]
        have kept := ih (if less first second then second else first) _ mem_cons_self
        have one : amount first ≤ amount (if less first second then second else first) := by
          split
          · next lower => exact up first second lower
          · exact le_refl _
        have two : amount second ≤ amount (if less first second then second else first) := by
          split
          · exact le_refl _
          · next higher => exact down first second higher
        rcases mem_cons.mp mem with rfl | later
        · exact one.trans kept
        · rcases mem_cons.mp later with rfl | old
          · exact two.trans kept
          · exact ih _ answer (mem_cons_of_mem _ old)
    exact fold rest first answer mem

end

variable {Node Amount : Type*}

def total (weight : Node → Amount) (add : Amount → Amount → Amount) (zero : Amount)
    (chain : List Node) : Amount :=
  chain.foldl (fun sum node => add sum (weight node)) zero

def Leads (next : Node → List Node) (chain : List Node) : Prop :=
  chain.IsChain fun earlier later => earlier ∈ next later

variable {next : Node → List Node} {weight : Node → Amount} {add : Amount → Amount → Amount}
  {zero : Amount}

theorem total_concat (chain : List Node) (node : Node) :
    total weight add zero (chain ++ [node]) = add (total weight add zero chain) (weight node) := by
  rw [total, foldl_append]
  rfl

variable [LinearOrder Amount]

/-- The answer is a chain that ends at the node with its weight, and none that ends there is
heavier. -/
structure Longest (next : Node → List Node) (weight : Node → Amount)
    (add : Amount → Amount → Amount) (zero : Amount) (node : Node)
    (answer : Amount × List Node) : Prop where
  leads : Leads next answer.2
  ends : answer.2.getLast? = some node
  sum : total weight add zero answer.2 = answer.1
  bound : ∀ chain, Leads next chain → chain.getLast? = some node →
    total weight add zero chain ≤ answer.1

theorem zero_le_total (grows : ∀ sum node, zero ≤ sum → zero ≤ add sum (weight node))
    (chain : List Node) : zero ≤ total weight add zero chain := by
  induction chain using List.reverseRecOn with
  | nil => exact le_refl zero
  | append_singleton chain node ih =>
    rw [total_concat]
    exact grows _ node ih

theorem extend_longest (grows : ∀ sum node, zero ≤ sum → zero ≤ add sum (weight node))
    (mono : ∀ less more node, less ≤ more → add less (weight node) ≤ add more (weight node))
    {node : Node} {answers : List (Amount × List Node)} {previous : Amount × List Node}
    (answered : Answered (Longest next weight add zero) (next node) answers)
    (picked : (answers = [] ∧ previous = (zero, [])) ∨ previous ∈ answers)
    (heaviest : ∀ answer ∈ answers, answer.1 ≤ previous.1) :
    Longest next weight add zero node (add previous.1 (weight node), previous.2 ++ [node]) := by
  have sum : total weight add zero previous.2 = previous.1 := by
    rcases picked with ⟨-, rfl⟩ | mem
    · rfl
    · obtain ⟨child, -, longest⟩ := answered.sound previous mem
      exact longest.sum
  constructor
  · rw [Leads, isChain_append]
    rcases picked with ⟨-, rfl⟩ | mem
    · simp
    · obtain ⟨child, edge, longest⟩ := answered.sound previous mem
      refine ⟨longest.leads, isChain_singleton node, ?_⟩
      intro last isLast first isFirst
      rw [longest.ends, mem_some_iff] at isLast
      rw [head?_cons, mem_some_iff] at isFirst
      rwa [← isLast, ← isFirst]
  · exact getLast?_concat
  · rw [total_concat, sum]
  · intro chain leads ends
    obtain ⟨before, rfl⟩ := getLast?_eq_some_iff.mp ends
    rw [total_concat]
    apply mono
    rw [Leads, isChain_append] at leads
    cases last : before.getLast? with
    | none =>
      rw [getLast?_eq_none_iff.mp last, ← sum]
      exact zero_le_total grows previous.2
    | some child =>
      have edge : child ∈ next node := leads.2.2 child last node rfl
      obtain ⟨answer, mem, longest⟩ := answered.complete child edge
      exact (longest.bound before leads.1 last).trans (heaviest answer mem)

end AgentMate.LongestChain
