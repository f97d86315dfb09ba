import Mathlib.Data.List.Sort

/-!
# Reading an ordered log by pages

The entries of a log carry strictly growing places. A reader keeps the place of
the last entry it has seen as its cursor: the entries past the cursor are what
follows the part already read, and a page shorter than asked for ends the log.
-/

namespace AgentMate.OrderedLog

open List

variable {Entry Place : Type*} [LinearOrder Place] {place : Entry → Place}

def Ordered (place : Entry → Place) (log : List Entry) : Prop :=
  log.Pairwise fun earlier later => place earlier < place later

theorem ordered_append {seen rest : List Entry} :
    Ordered place (seen ++ rest) ↔ Ordered place seen ∧ Ordered place rest ∧
      ∀ earlier ∈ seen, ∀ later ∈ rest, place earlier < place later :=
  pairwise_append

theorem ordered_concat {log : List Entry} {entry : Entry} (ordered : Ordered place log)
    (last : ∀ earlier ∈ log, place earlier < place entry) : Ordered place (log ++ [entry]) := by
  apply ordered_append.mpr
  refine ⟨ordered, pairwise_singleton _ _, ?_⟩
  intro earlier mem later singleton
  rw [mem_singleton.mp singleton]
  exact last earlier mem

theorem filter_after_last {seen rest : List Entry} {last : Entry}
    (ordered : Ordered place (seen ++ rest)) (read : seen.getLast? = some last) :
    (seen ++ rest).filter (fun entry => place last < place entry) = rest := by
  obtain ⟨before, split⟩ := getLast?_eq_some_iff.mp read
  obtain ⟨seenOrdered, -, apart⟩ := ordered_append.mp ordered
  have mem : last ∈ seen := mem_of_getLast? read
  have behind : seen.filter (fun entry => place last < place entry) = [] := by
    apply filter_eq_nil_iff.mpr
    intro entry entryMem
    rw [split] at seenOrdered entryMem
    rw [decide_eq_true_eq, not_lt]
    rcases mem_append.mp entryMem with earlier | same
    · exact ((ordered_append.mp seenOrdered).2.2 entry earlier last mem_cons_self).le
    · rw [mem_singleton.mp same]
  have ahead : rest.filter (fun entry => place last < place entry) = rest := by
    apply filter_eq_self.mpr
    intro entry entryMem
    exact decide_eq_true (apart last mem entry entryMem)
  rw [filter_append, behind, ahead, nil_append]

theorem sort_ordered {log : List Entry} (before : Entry → Entry → Prop) [DecidableRel before]
    (ordered : Ordered place log)
    (weaker : ∀ earlier later, place earlier < place later → before earlier later) :
    log.insertionSort before = log :=
  (ordered.imp fun {earlier later} order => weaker earlier later order).insertionSort_eq

theorem short_page {log : List Entry} {limit : Nat} (short : (log.take limit).length < limit) :
    log.take limit = log := by
  apply take_of_length_le
  rw [length_take] at short
  omega

end AgentMate.OrderedLog
