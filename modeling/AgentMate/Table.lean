import Mathlib.Data.List.Basic
import Mathlib.Data.List.Nodup

/-!
# Rows of a relational table

A table is the list of its rows in insertion order. `updateWhere` is
`UPDATE .. SET .. WHERE ..`; `lookup` reads the row with a given key. A key is
unique when its column has no duplicates.
-/

namespace AgentMate.Table

open List

variable {Row Key : Type*}

def updateWhere (chosen : Row → Prop) [DecidablePred chosen] (assign : Row → Row)
    (rows : List Row) : List Row :=
  rows.map fun row => if chosen row then assign row else row

def lookup [DecidableEq Key] (key : Row → Key) (value : Key) (rows : List Row) : Option Row :=
  rows.find? fun row => key row = value

def UniqueKey (key : Row → Key) (rows : List Row) : Prop := (rows.map key).Nodup

section

variable {chosen : Row → Prop} [DecidablePred chosen] {assign : Row → Row} {rows : List Row}

@[simp] theorem update_where_cons (row : Row) : updateWhere chosen assign (row :: rows) =
      (if chosen row then assign row else row) :: updateWhere chosen assign rows := rfl

theorem mem_update_where {row : Row} : row ∈ updateWhere chosen assign rows ↔
      ∃ old ∈ rows, (if chosen old then assign old else old) = row := by
  simp [updateWhere]

theorem mem_update_of_chosen {row : Row} (mem : row ∈ rows) (choice : chosen row) :
    assign row ∈ updateWhere chosen assign rows :=
  mem_update_where.mpr ⟨row, mem, if_pos choice⟩

theorem mem_update_of_not_chosen {row : Row} (mem : row ∈ rows) (other : ¬chosen row) :
    row ∈ updateWhere chosen assign rows :=
  mem_update_where.mpr ⟨row, mem, if_neg other⟩

theorem map_update_where {Value : Type*} (column : Row → Value)
    (same : ∀ row, column (assign row) = column row) :
    (updateWhere chosen assign rows).map column = rows.map column := by
  simp only [updateWhere, map_map]
  apply map_congr_left
  intro row _
  simp only [Function.comp_apply]
  split
  · exact same row
  · rfl

theorem update_where_eq_self (untouched : ∀ row ∈ rows, chosen row → assign row = row) :
    updateWhere chosen assign rows = rows := by
  induction rows with
  | nil => rfl
  | cons row rest ih =>
    rw [update_where_cons, ih fun other mem => untouched other (mem_cons_of_mem _ mem)]
    split
    · next choice => rw [untouched row mem_cons_self choice]
    · rfl

theorem update_where_comp (assign later : Row → Row)
    (still : ∀ row, chosen row → chosen (assign row)) :
    updateWhere chosen later (updateWhere chosen assign rows) =
      updateWhere chosen (fun row => later (assign row)) rows := by
  simp only [updateWhere, map_map]
  apply map_congr_left
  intro row _
  simp only [Function.comp_apply]
  by_cases choice : chosen row
  · rw [if_pos choice, if_pos choice, if_pos (still row choice)]
  · rw [if_neg choice, if_neg choice, if_neg choice]

theorem unique_key_update {Key : Type*} {key : Row → Key}
    (same : ∀ row, key (assign row) = key row) (unique : UniqueKey key rows) :
    UniqueKey key (updateWhere chosen assign rows) := by
  rw [UniqueKey, map_update_where key same]
  exact unique

end

section

variable {key : Row → Key} {rows : List Row} {row : Row}

theorem unique_key_eq (unique : UniqueKey key rows) {left right : Row}
    (leftMem : left ∈ rows) (rightMem : right ∈ rows) (same : key left = key right) :
    left = right :=
  inj_on_of_nodup_map unique leftMem rightMem same

theorem unique_key_append (unique : UniqueKey key rows)
    (fresh : ∀ other ∈ rows, key other ≠ key row) : UniqueKey key (rows ++ [row]) := by
  rw [UniqueKey, map_append, map_singleton, ← concat_eq_append]
  refine List.Nodup.concat ?_ unique
  intro mem
  obtain ⟨other, otherMem, same⟩ := mem_map.mp mem
  exact fresh other otherMem same

end

section

variable [DecidableEq Key] {key : Row → Key} {value : Key} {rows : List Row} {row : Row}

theorem lookup_mem (found : lookup key value rows = some row) : row ∈ rows :=
  mem_of_find?_eq_some found

theorem lookup_key (found : lookup key value rows = some row) : key row = value := by
  have matched := find?_some found
  simpa using matched

theorem lookup_of_mem (unique : UniqueKey key rows) (mem : row ∈ rows) :
    lookup key (key row) rows = some row := by
  cases found : lookup key (key row) rows with
  | none =>
    have absent := find?_eq_none.mp found row mem
    simp at absent
  | some other =>
    rw [unique_key_eq unique (lookup_mem found) mem (lookup_key found)]

theorem lookup_update_where {chosen : Row → Prop} [DecidablePred chosen] {assign : Row → Row}
    (same : ∀ row, key (assign row) = key row) :
    lookup key value (updateWhere chosen assign rows) =
      (lookup key value rows).map fun row => if chosen row then assign row else row := by
  induction rows with
  | nil => rfl
  | cons first rest ih =>
    have head : key (if chosen first then assign first else first) = key first := by
      split
      · exact same first
      · rfl
    rw [update_where_cons]
    simp only [lookup, find?_cons, head] at ih ⊢
    split
    · rfl
    · exact ih

theorem lookup_append_singleton (fresh : key row ≠ value) :
    lookup key value (rows ++ [row]) = lookup key value rows := by
  simp [lookup, find?_append, fresh]

theorem lookup_append_self (fresh : lookup key (key row) rows = none) :
    lookup key (key row) (rows ++ [row]) = some row := by
  simp only [lookup] at fresh ⊢
  simp [find?_append, fresh]

theorem lookup_eq_none_iff : lookup key value rows = none ↔ ∀ row ∈ rows, key row ≠ value := by
  simp [lookup]

end

structure Rewritten (key : Row → Key) (Follows : Row → Row → Prop) (rows next : List Row) :
    Prop where
  keys : next.map key = rows.map key
  rows : ∀ row ∈ next, ∃ old ∈ rows, key row = key old ∧ Follows old row

variable {key : Row → Key} {Follows : Row → Row → Prop} {rows middle next : List Row}

theorem rewritten_refl (reflexive : ∀ row, Follows row row) (rows : List Row) :
    Rewritten key Follows rows rows :=
  ⟨rfl, fun row mem => ⟨row, mem, rfl, reflexive row⟩⟩

theorem rewritten_trans
    (transitive : ∀ {old between row}, key between = key old → Follows old between →
      Follows between row → Follows old row)
    (first : Rewritten key Follows rows middle) (second : Rewritten key Follows middle next) :
    Rewritten key Follows rows next := by
  constructor
  · exact second.keys.trans first.keys
  · intro row mem
    obtain ⟨between, betweenMem, same, follows⟩ := second.rows row mem
    obtain ⟨old, oldMem, still, before⟩ := first.rows between betweenMem
    exact ⟨old, oldMem, same.trans still, transitive still before follows⟩

theorem rewritten_mono {Weaker : Row → Row → Prop}
    (weaken : ∀ old row, Follows old row → Weaker old row)
    (rewritten : Rewritten key Follows rows next) : Rewritten key Weaker rows next := by
  constructor
  · exact rewritten.keys
  · intro row mem
    obtain ⟨old, oldMem, same, follows⟩ := rewritten.rows row mem
    exact ⟨old, oldMem, same, weaken old row follows⟩

theorem rewritten_update {chosen : Row → Prop} [DecidablePred chosen] {assign : Row → Row}
    (same : ∀ row, key (assign row) = key row) (reflexive : ∀ row, Follows row row)
    (assigned : ∀ row ∈ rows, chosen row → Follows row (assign row)) :
    Rewritten key Follows rows (updateWhere chosen assign rows) := by
  constructor
  · exact map_update_where key same
  · intro row mem
    obtain ⟨old, oldMem, rfl⟩ := mem_update_where.mp mem
    refine ⟨old, oldMem, ?_⟩
    split
    · next choice => exact ⟨same old, assigned old oldMem choice⟩
    · exact ⟨rfl, reflexive old⟩

theorem rewritten_unique (rewritten : Rewritten key Follows rows next)
    (unique : UniqueKey key rows) : UniqueKey key next := by
  rw [UniqueKey, rewritten.keys]
  exact unique

theorem rewritten_forward (rewritten : Rewritten key Follows rows next)
    (unique : UniqueKey key rows) {old : Row} (mem : old ∈ rows) :
    ∃ row ∈ next, key row = key old ∧ Follows old row := by
  have listed : key old ∈ next.map key := by
    rw [rewritten.keys]
    exact mem_map_of_mem mem
  obtain ⟨row, rowMem, same⟩ := mem_map.mp listed
  obtain ⟨source, sourceMem, still, follows⟩ := rewritten.rows row rowMem
  have one := unique_key_eq unique sourceMem mem (still.symm.trans same)
  exact ⟨row, rowMem, same, one ▸ follows⟩

end AgentMate.Table
