import Mathlib.Logic.Relation
import Mathlib.Data.List.Basic
import Mathlib.Order.Basic
import Mathlib.Data.Nat.Find
import Mathlib.Data.Nat.Init

/-!
# Cycles and bounded searches in a graph

`search` follows every path that does not repeat a node, and `climb` follows the
only edge of each node up to a root. Both take a bound on the depth; what they miss is
not reachable, whatever the bound. A node whose edges are redirected to nodes that do
not lead back to it closes no cycle.
-/

namespace AgentMate.GraphSearch

open Relation List

variable {Node : Type*}

def Acyclic (edge : Node → Node → Prop) : Prop := ∀ node, ¬TransGen edge node node

theorem acyclic_mono {old new : Node → Node → Prop} (acyclic : Acyclic old)
    (sub : ∀ source target, new source target → old source target) : Acyclic new :=
  fun node cycle => acyclic node (TransGen.mono sub node node cycle)

section

variable {old new : Node → Node → Prop} {changed : Node}

theorem reach_changed (others : ∀ source target, source ≠ changed → new source target →
      old source target) {start : Node} (path : ReflTransGen new start changed) :
    ReflTransGen old start changed := by
  induction path using ReflTransGen.head_induction_on with
  | refl => exact .refl
  | @head source middle edge _ ih =>
    by_cases same : source = changed
    · rw [same]
    · exact .head (others source middle same edge) ih

theorem path_uses_changed (others : ∀ source target, source ≠ changed → new source target →
      old source target) {start finish : Node} (path : TransGen new start finish) :
    TransGen old start finish ∨ (ReflTransGen new start changed ∧ ∃ target, new changed target ∧
        ReflTransGen new target finish) := by
  induction path with
  | @single finish edge =>
    by_cases same : start = changed
    · exact Or.inr ⟨same ▸ .refl, finish, same ▸ edge, .refl⟩
    · exact Or.inl (.single (others start finish same edge))
  | @tail middle finish before edge ih =>
    rcases ih with kept | ⟨reaches, target, first, rest⟩
    · by_cases same : middle = changed
      · exact Or.inr ⟨same ▸ before.to_reflTransGen, finish, same ▸ edge, .refl⟩
      · exact Or.inl (kept.tail (others middle finish same edge))
    · exact Or.inr ⟨reaches, target, first, rest.tail edge⟩

variable (changed) in
theorem acyclic_redirect (acyclic : Acyclic old)
    (others : ∀ source target, source ≠ changed → new source target → old source target)
    (safe : ∀ target, new changed target → ¬ReflTransGen old target changed) :
    Acyclic new := by
  intro node cycle
  rcases path_uses_changed others cycle with kept | ⟨reaches, target, first, rest⟩
  · exact acyclic node kept
  · exact safe target first (reach_changed others (rest.trans reaches))

end

section

variable (next : Node → List Node) (goal : Node)

def Edge (source target : Node) : Prop := target ∈ next source

/-- The goal is at most `count` edges away. -/
def Within : Nat → Node → Prop
  | 0, node => node = goal
  | count + 1, node => node = goal ∨ ∃ child ∈ next node, Within count child

variable {next goal}

variable {node : Node}

theorem within_mono {count more : Nat} (le : count ≤ more)
    (within : Within next goal count node) : Within next goal more node := by
  induction count generalizing node more with
  | zero =>
    cases more with
    | zero => exact within
    | succ more => exact Or.inl within
  | succ count ih =>
    cases more with
    | zero => omega
    | succ more =>
      rcases within with here | ⟨child, mem, rest⟩
      · exact Or.inl here
      · exact Or.inr ⟨child, mem, ih (by omega) rest⟩

theorem within_of_reach (path : ReflTransGen (Edge next) node goal) :
    ∃ count, Within next goal count node := by
  induction path using ReflTransGen.head_induction_on with
  | refl => exact ⟨0, rfl⟩
  | head edge _ ih =>
    obtain ⟨count, within⟩ := ih
    exact ⟨count + 1, Or.inr ⟨_, edge, within⟩⟩

variable [DecidableEq Node]

def unseen (nodes seen : List Node) : List Node := nodes.filter fun node => node ∉ seen

theorem unseen_length_lt {nodes seen : List Node} (mem : node ∈ nodes) (fresh : node ∉ seen) :
    (unseen nodes (node :: seen)).length < (unseen nodes seen).length := by
  have sub : unseen nodes (node :: seen) =
      (unseen nodes seen).filter fun other => other ≠ node := by
    simp only [unseen, filter_filter]
    apply filter_congr
    intro other _
    simp [mem_cons, not_or]
  rw [sub]
  apply length_filter_lt_length_iff_exists.mpr
  refine ⟨node, ?_, by simp⟩
  simp [unseen, mem, fresh]

variable (next goal) in
def search : Nat → List Node → Node → Bool
  | 0, _, _ => true
  | fuel + 1, seen, node =>
    if node = goal then true
    else if node ∈ seen then false
    else (next node).any fun child => search fuel (node :: seen) child

theorem search_within (count : Nat) : ∀ (fuel : Nat) (seen : List Node) (node : Node),
    Within next goal count node → (∀ less < count, ¬Within next goal less node) →
      (∀ other ∈ seen, ¬Within next goal count other) →
      search next goal fuel seen node = true := by
  induction count using Nat.strongRecOn with
  | _ count ih =>
    intro fuel seen node within least clear
    cases fuel with
    | zero => rfl
    | succ fuel =>
      rw [search]
      split
      · rfl
      · next away =>
        rw [if_neg fun mem => clear node mem within, any_eq_true]
        cases count with
        | zero => exact absurd within away
        | succ count =>
          obtain ⟨child, mem, rest⟩ := within.resolve_left away
          classical
          have some_ : ∃ count, Within next goal count child := ⟨count, rest⟩
          have bound : Nat.find some_ ≤ count := Nat.find_min' some_ rest
          refine ⟨child, mem, ih (Nat.find some_) (by omega) fuel (node :: seen) child
            (Nat.find_spec some_) (fun less lower => Nat.find_min some_ lower) ?_⟩
          intro other listed closer
          rcases mem_cons.mp listed with rfl | old
          · exact least (Nat.find some_) (by omega) closer
          · exact clear other old (within_mono (by omega) closer)

theorem not_reach_of_search {fuel : Nat} (refused : search next goal fuel [] node = false) :
    ¬ReflTransGen (Edge next) node goal := by
  intro path
  classical
  have found := within_of_reach path
  have searched := search_within (Nat.find found) fuel [] node (Nat.find_spec found)
    (fun less lower => Nat.find_min found lower) (by simp)
  rw [searched] at refused
  cases refused

theorem reach_of_search (nodes : List Node)
    (known : ∀ node child, child ∈ next node → node ∈ nodes) {fuel : Nat} {seen : List Node}
    (enough : (unseen nodes seen).length < fuel)
    (found : search next goal fuel seen node = true) : ReflTransGen (Edge next) node goal := by
  induction fuel generalizing seen node with
  | zero => omega
  | succ fuel ih =>
    rw [search] at found
    split at found
    · next here =>
      rw [here]
    · split at found
      · cases found
      · next fresh =>
        obtain ⟨child, mem, rest⟩ := any_eq_true.mp found
        have shorter := unseen_length_lt (known node child mem) fresh
        exact .head mem (ih (by omega) rest)

end

variable [DecidableEq Node] (parent : Node → Node) (root goal : Node)

def Up (source target : Node) : Prop := parent source = target ∧ target ≠ root

def climb : Nat → List Node → Node → Bool
  | 0, _, _ => true
  | fuel + 1, seen, cursor =>
    if cursor = root then false
    else if cursor = goal ∨ cursor ∈ seen then true
    else climb fuel (cursor :: seen) (parent cursor)

variable {parent root goal}

theorem not_reach_of_climb (top : parent root = root) (below : goal ≠ root) {fuel : Nat}
    {seen : List Node} {cursor : Node}
    (refused : climb parent root goal fuel seen cursor = false) :
    ¬ReflTransGen (Up parent root) cursor goal := by
  induction fuel generalizing seen cursor with
  | zero => cases refused
  | succ fuel ih =>
    rw [climb] at refused
    intro path
    split at refused
    · next atRoot =>
      rcases path.cases_head with here | ⟨target, edge, -⟩
      · exact below (here ▸ atRoot)
      · rw [atRoot] at edge
        exact edge.2 (edge.1 ▸ top)
    · split at refused
      · cases refused
      · next other =>
        rcases path.cases_head with here | ⟨target, edge, rest⟩
        · exact other (Or.inl here)
        · exact ih refused (edge.1 ▸ rest)

theorem reach_of_climb (nodes : List Node) (acyclic : Acyclic (Up parent root))
    (known : ∀ node, parent node ≠ root → node ∈ nodes) {fuel : Nat} {seen : List Node}
    {cursor : Node} (visited : ∀ node ∈ seen, TransGen (Up parent root) node cursor)
    (enough : (unseen nodes seen).length + 1 < fuel)
    (found : climb parent root goal fuel seen cursor = true) :
    ReflTransGen (Up parent root) cursor goal := by
  induction fuel generalizing seen cursor with
  | zero => omega
  | succ fuel ih =>
    rw [climb] at found
    split at found
    · cases found
    · split at found
      · next stop =>
        rcases stop with here | again
        · rw [here]
        · exact absurd (visited cursor again) (acyclic cursor)
      · next go =>
        obtain ⟨-, fresh⟩ := not_or.mp go
        by_cases end_ : parent cursor = root
        · cases fuel with
          | zero => omega
          | succ fuel =>
            rw [climb, if_pos end_] at found
            cases found
        · have edge : Up parent root cursor (parent cursor) := ⟨rfl, end_⟩
          have shorter := unseen_length_lt (known cursor end_) fresh
          refine .head edge (ih ?_ (by omega) found)
          intro node listed
          rcases mem_cons.mp listed with rfl | old
          · exact .single edge
          · exact (visited node old).tail edge

end AgentMate.GraphSearch
