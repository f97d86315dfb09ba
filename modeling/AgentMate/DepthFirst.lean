import AgentMate.GraphSearch

/-!
# Depth-first cycle search

`visit` walks the children of a node before the node itself is put on the list of visited
nodes, and stops at a node that is still being visited. Nodes come off the walk after all their
children, so a finished walk orders them; in a graph without a cycle, with a bound above the
number of nodes that have children, every walk finishes.
-/

namespace AgentMate.DepthFirst

open Relation GraphSearch List Option

variable {Node : Type*} (next : Node → List Node)

section

variable [DecidableEq Node]

/-- The visited nodes after the walk from a node, or `none` at a cycle. -/
def visit : Nat → List Node → List Node → Node → Option (List Node)
  | 0, _, _, _ => none
  | fuel + 1, visiting, visited, node =>
    if node ∈ visiting then none
    else if node ∈ visited then some visited
    else ((next node).foldlM (visit fuel (node :: visiting)) visited).map fun after =>
      node :: after

def visitAll (fuel : Nat) (nodes : List Node) : Option (List Node) :=
  nodes.foldlM (visit next fuel []) []

end

def Ordered : List Node → Prop
  | [] => True
  | node :: earlier =>
    node ∉ earlier ∧ (∀ child ∈ next node, child ∈ earlier) ∧ Ordered earlier

structure Grows (visiting visited after : List Node) : Prop where
  ordered : Ordered next after
  kept : ∀ node ∈ visited, node ∈ after
  clear : ∀ node ∈ after, node ∈ visited ∨ node ∉ visiting

variable {next} {fuel : Nat} {visiting visited after : List Node}

variable {nodes : List Node} {node : Node}

theorem fold_grows {walk : List Node → Node → Option (List Node)}
    (step : ∀ visited node after, Ordered next visited → walk visited node = some after →
      Grows next visiting visited after ∧ node ∈ after) (ordered : Ordered next visited)
    (walked : nodes.foldlM walk visited = some after) :
    Grows next visiting visited after ∧ ∀ node ∈ nodes, node ∈ after := by
  induction nodes generalizing visited with
  | nil =>
    cases walked
    exact ⟨⟨ordered, fun _ mem => mem, fun _ mem => Or.inl mem⟩, by simp⟩
  | cons node rest ih =>
    rw [foldlM_cons, bind_eq_bind, bind_eq_some_iff] at walked
    obtain ⟨middle, first, later⟩ := walked
    obtain ⟨grown, here⟩ := step visited node middle ordered first
    obtain ⟨further, others⟩ := ih grown.ordered later
    refine ⟨⟨further.ordered, fun other mem => further.kept other (grown.kept other mem),
      fun other mem => ?_⟩, ?_⟩
    · rcases further.clear other mem with old | new
      · exact grown.clear other old
      · exact Or.inr new
    · intro other listed
      rcases mem_cons.mp listed with rfl | old
      · exact further.kept other here
      · exact others other old

theorem visit_grows [DecidableEq Node] (ordered : Ordered next visited)
    (walked : visit next fuel visiting visited node = some after) :
    Grows next visiting visited after ∧ node ∈ after := by
  induction fuel generalizing visiting visited node after with
  | zero => cases walked
  | succ fuel ih =>
    rw [visit] at walked
    split at walked
    · cases walked
    next free =>
    split at walked
    · next known =>
      cases walked
      exact ⟨⟨ordered, fun _ mem => mem, fun _ mem => Or.inl mem⟩, known⟩
    · next fresh =>
      obtain ⟨inner, children, rfl⟩ := map_eq_some_iff.mp walked
      obtain ⟨grown, all⟩ := fold_grows (fun visited child after ordered walked =>
        ih ordered walked) ordered children
      have outside : node ∉ inner := by
        intro mem
        rcases grown.clear node mem with old | new
        · exact fresh old
        · exact new mem_cons_self
      refine ⟨⟨⟨outside, all, grown.ordered⟩, fun other mem =>
        mem_cons_of_mem node (grown.kept other mem), fun other mem => ?_⟩,
        mem_cons_self⟩
      rcases mem_cons.mp mem with rfl | listed
      · exact Or.inr free
      · rcases grown.clear other listed with old | new
        · exact Or.inl old
        · exact Or.inr fun busy => new (mem_cons_of_mem node busy)

theorem ordered_reaches {order : List Node} (ordered : Ordered next order) {node finish : Node}
    (mem : node ∈ order) (path : ReflTransGen (Edge next) node finish) : finish ∈ order := by
  have children : ∀ order : List Node, Ordered next order → ∀ node ∈ order,
      ∀ child ∈ next node, child ∈ order := by
    intro order
    induction order with
    | nil => simp
    | cons head earlier ih =>
      rintro ⟨-, own, before⟩ node listed child edge
      rcases mem_cons.mp listed with rfl | old
      · exact mem_cons_of_mem _ (own child edge)
      · exact mem_cons_of_mem _ (ih before node old child edge)
  induction path with
  | refl => exact mem
  | tail _ edge ih => exact children order ordered _ ih _ edge

theorem ordered_acyclic {order : List Node} (ordered : Ordered next order) :
    ∀ node ∈ order, ¬TransGen (Edge next) node node := by
  induction order with
  | nil => simp
  | cons head earlier ih =>
    obtain ⟨fresh, own, before⟩ := ordered
    intro node listed cycle
    rcases mem_cons.mp listed with rfl | old
    · obtain ⟨child, edge, back⟩ := TransGen.head'_iff.mp cycle
      exact fresh (ordered_reaches before (own child edge) back)
    · exact ih before node old cycle

theorem fold_finishes (walk : List Node → Node → Option (List Node))
    (step : ∀ node ∈ nodes, ∀ visited, ∃ after, walk visited node = some after)
    (visited : List Node) : ∃ after, nodes.foldlM walk visited = some after := by
  induction nodes generalizing visited with
  | nil => exact ⟨visited, rfl⟩
  | cons node rest ih =>
    obtain ⟨middle, first⟩ := step node mem_cons_self visited
    obtain ⟨after, later⟩ := ih (fun other listed =>
      step other (mem_cons_of_mem node listed)) middle
    exact ⟨after, by rw [foldlM_cons, first]; exact later⟩

variable [DecidableEq Node]

theorem visit_finishes (acyclic : Acyclic (Edge next))
    (known : ∀ node child, child ∈ next node → node ∈ nodes)
    (above : ∀ other ∈ visiting, TransGen (Edge next) other node)
    (enough : (unseen nodes visiting).length < fuel) (visited : List Node) :
    ∃ after, visit next fuel visiting visited node = some after := by
  induction fuel generalizing visiting visited node with
  | zero => omega
  | succ fuel ih =>
    have free : node ∉ visiting := fun busy => acyclic node (above node busy)
    rw [visit, if_neg free]
    split
    · exact ⟨visited, rfl⟩
    · obtain ⟨after, walked⟩ := fold_finishes (visit next fuel (node :: visiting))
        (fun child edge visited => ih (fun other listed => by
          rcases mem_cons.mp listed with rfl | busy
          · exact .single edge
          · exact (above other busy).tail edge)
          (by
            have shorter := unseen_length_lt (known node child edge) free
            omega) visited) visited
      exact ⟨node :: after, by rw [walked]; rfl⟩

theorem visit_all_iff (enough : nodes.length < fuel)
    (known : ∀ node child, child ∈ next node → node ∈ nodes) :
    (visitAll next fuel nodes).isSome ↔ Acyclic (Edge next) := by
  constructor
  · intro found
    obtain ⟨order, walked⟩ := isSome_iff_exists.mp found
    have none_yet : Ordered next [] := trivial
    obtain ⟨grown, all⟩ := fold_grows (fun _ _ _ ordered walked => visit_grows ordered walked)
      none_yet walked
    intro node cycle
    obtain ⟨child, edge, -⟩ := TransGen.head'_iff.mp cycle
    exact ordered_acyclic grown.ordered node (all node (known node child edge)) cycle
  · intro acyclic
    have short : (unseen nodes ([] : List Node)).length < fuel :=
      lt_of_le_of_lt (length_filter_le _ _) enough
    obtain ⟨order, walked⟩ := fold_finishes (visit next fuel []) (fun node (_ : node ∈ nodes)
      visited => visit_finishes acyclic known (by simp) short visited) []
    exact isSome_iff_exists.mpr ⟨order, walked⟩

end AgentMate.DepthFirst
