import Mathlib.Data.List.Sort

/-!
# Pages by the key of the last row

A page takes the first rows after a position and one more to see whether there is another
page; its cursor is the position of its last row. Rows with different keys, sorted by the key
in either direction, are enumerated by following the cursors: every row once and in order.
-/

namespace AgentMate.KeysetPaging

open List Option

variable {Row Item Cursor Error Key : Type*}

/-- Follows the cursors until the last one; `none` is an error of a call or too little fuel. -/
def followPages [DecidableEq Cursor] (fetch : Cursor → Except Error (List Item × Cursor))
    (last : Cursor) : Nat → Cursor → Option (List Item)
  | 0, _ => none
  | fuel + 1, cursor =>
    match fetch cursor with
    | .error _ => none
    | .ok page =>
      if page.2 = last then some page.1
      else (followPages fetch last fuel page.2).map fun items => page.1 ++ items

def page (limit : Nat) (found : List Row) : List Row × Option Row :=
  let rows := found.take (limit + 1)
  let pageRows := rows.take limit
  (pageRows, if limit < rows.length then pageRows.getLast? else none)

theorem page_last {limit : Nat} {found : List Row} (short : found.length ≤ limit) :
    page limit found = (found, none) := by
  have all : found.take (limit + 1) = found := take_of_length_le (by omega)
  simp only [page, all, take_of_length_le short, if_neg (not_lt.mpr short)]

theorem page_more {limit : Nat} (positive : 0 < limit) {found : List Row}
    (long : limit < found.length) :
    ∃ before row after, found = before ++ row :: after ∧
      page limit found = (before ++ [row], some row) := by
  have more : limit < (found.take (limit + 1)).length := by
    rw [length_take]
    omega
  have taken : (found.take (limit + 1)).take limit = found.take limit := by
    rw [take_take]
    congr 1
    omega
  have nonempty : found.take limit ≠ [] := by
    apply ne_nil_of_length_pos
    rw [length_take]
    omega
  refine ⟨(found.take limit).dropLast, (found.take limit).getLast nonempty, found.drop limit,
    ?_, ?_⟩
  · rw [append_cons, dropLast_append_getLast, take_append_drop]
  · simp only [page, taken, if_pos more, dropLast_append_getLast, getLast?_eq_some_getLast nonempty]

section

variable [LinearOrder Key] {key : Row → Key}

theorem filter_after {before after : List Row} {row : Row}
    (sorted : (before ++ row :: after).Pairwise fun left right => key left < key right) :
    (before ++ row :: after).filter (fun other => key row < key other) = after := by
  rw [pairwise_append, pairwise_cons] at sorted
  have early : before.filter (fun other => key row < key other) = [] := by
    rw [filter_eq_nil_iff]
    intro other mem later
    have lower := sorted.2.2 other mem row mem_cons_self
    exact lower.not_gt (of_decide_eq_true later)
  have late : after.filter (fun other => key row < key other) = after := by
    rw [filter_eq_self]
    intro other mem
    exact decide_eq_true (sorted.2.1.1 other mem)
  rw [filter_append, early, filter_cons_of_neg (by simp), late, nil_append]

variable {sort : List Row → List Row} (perm : ∀ rows, (sort rows).Perm rows)
  (sorts : ∀ rows, (sort rows).Pairwise fun left right => key left ≤ key right)

include perm sorts

theorem sort_strict {rows : List Row} (unique : (rows.map key).Nodup) :
    (sort rows).Pairwise fun left right => key left < key right := by
  have distinct : ((sort rows).map key).Nodup := ((perm rows).map key).nodup_iff.mpr unique
  have differs := pairwise_map.mp distinct
  exact (sorts rows).imp₂ (fun _ _ le ne => lt_of_le_of_ne le ne) differs

theorem sort_filter {rows : List Row} (unique : (rows.map key).Nodup) (keep : Row → Bool) :
    sort (rows.filter keep) = (sort rows).filter keep := by
  have same : (sort (rows.filter keep)).Perm ((sort rows).filter keep) :=
    (perm (rows.filter keep)).trans ((perm rows).filter keep).symm
  apply same.eq_of_pairwise _ (sorts _) ((sorts rows).filter keep)
  intro left right mem other le ge
  have leftRow := (perm rows).mem_iff.mp (mem_of_mem_filter (same.mem_iff.mp mem))
  have rightRow := (perm rows).mem_iff.mp (mem_of_mem_filter other)
  exact inj_on_of_nodup_map unique leftRow rightRow (le_antisymm le ge)

end

variable [DecidableEq Cursor] {fetch : Cursor → Except Error (List Item × Cursor)}
  {last : Cursor} {limit : Nat} {item : Row → Item} {position : Row → Cursor}

def answer (item : Row → Item) (position : Row → Cursor) (last : Cursor) (limit : Nat)
    (found : List Row) : List Item × Cursor :=
  ((page limit found).1.map item, (page limit found).2.elim last position)

/-- Every call leaves the rows after its page to the calls that follow; the induction is on the
number of calls. -/
theorem follow_answer (positive : 0 < limit) {rows : List Row}
    (proper : ∀ row ∈ rows, position row ≠ last)
    (follows : ∀ before row after, rows = before ++ row :: after →
      fetch (position row) = .ok (answer item position last limit after))
    {fuel : Nat} {before found : List Row} (split : rows = before ++ found) {cursor : Cursor}
    (fetched : fetch cursor = .ok (answer item position last limit found))
    (enough : found.length < fuel) :
    followPages fetch last fuel cursor = some (found.map item) := by
  induction fuel generalizing before found cursor with
  | zero => omega
  | succ fuel ih =>
    rw [followPages, fetched]
    by_cases short : found.length ≤ limit
    · simp only [answer, page_last short, elim_none, if_true]
    · obtain ⟨early, row, after, rfl, paged⟩ := page_more positive (not_le.mp short)
      have whole : rows = (before ++ early) ++ row :: after := by
        rw [split, append_assoc]
      have mem : row ∈ rows := by
        rw [whole]
        simp
      have again : rows = (before ++ early ++ [row]) ++ after := by
        rw [whole]
        simp
      have fewer : after.length < fuel := by
        rw [length_append, length_cons] at enough
        omega
      have rest := ih again (follows _ row after whole) fewer
      simp only [answer, paged, elim_some, if_neg (proper row mem)]
      rw [rest]
      simp

end AgentMate.KeysetPaging
