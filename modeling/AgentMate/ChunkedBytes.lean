import Mathlib.Data.List.Basic
import Mathlib.Order.Nat

/-!
# Reading a list in chunks

`while chunk := source.read(size)`: chunks of the given size, the last one shorter when the
length is no multiple of it.
-/

namespace AgentMate.ChunkedBytes

open List

variable {Item : Type*} {size : Nat}

/-- At most `fuel` chunks. -/
def readChunks (size : Nat) : Nat → List Item → List (List Item)
  | 0, _ => []
  | fuel + 1, source =>
    if source.take size = [] then []
    else source.take size :: readChunks size fuel (source.drop size)

def chunks (size : Nat) (source : List Item) : List (List Item) :=
  readChunks size source.length source

theorem lt_ceil_iff (positive : 0 < size) (index length : Nat) :
    index < (length + size - 1) / size ↔ index * size < length := by
  rw [Nat.lt_iff_add_one_le, Nat.le_div_iff_mul_le positive, Nat.add_mul]
  omega

theorem take_eq_nil (positive : 0 < size) (source : List Item) :
    source.take size = [] ↔ source = [] := by
  rw [take_eq_nil_iff]
  constructor
  · rintro (none | empty)
    · omega
    · exact empty
  · exact Or.inr

theorem read_chunks_flatten (positive : 0 < size) (fuel : Nat) (source : List Item)
    (enough : source.length ≤ fuel) : (readChunks size fuel source).flatten = source := by
  induction fuel generalizing source with
  | zero =>
    rw [length_eq_zero_iff.mp (Nat.le_zero.mp enough)]
    rfl
  | succ fuel ih =>
    rw [readChunks]
    split
    · next empty =>
      rw [(take_eq_nil positive source).mp empty]
      rfl
    · have rest : (source.drop size).length ≤ fuel := by
        rw [length_drop]
        omega
      rw [flatten_cons, ih _ rest, take_append_drop]

theorem read_chunks_get (positive : 0 < size) (fuel : Nat) (source : List Item)
    (enough : source.length ≤ fuel) (index : Nat) :
    (readChunks size fuel source)[index]? =
      if index * size < source.length then some ((source.drop (index * size)).take size)
      else none := by
  induction fuel generalizing source index with
  | zero =>
    rw [length_eq_zero_iff.mp (Nat.le_zero.mp enough)]
    simp [readChunks]
  | succ fuel ih =>
    rw [readChunks]
    split
    · next empty =>
      rw [(take_eq_nil positive source).mp empty]
      simp
    · next some_ =>
      have nonempty : source.length ≠ 0 := by
        intro none
        exact some_ ((take_eq_nil positive source).mpr (length_eq_zero_iff.mp none))
      cases index with
      | zero =>
        rw [getElem?_cons_zero, if_pos (by omega)]
        simp
      | succ index =>
        have rest : (source.drop size).length ≤ fuel := by
          rw [length_drop]
          omega
        rw [getElem?_cons_succ, ih _ rest, length_drop, drop_drop, Nat.succ_mul, Nat.add_comm size]
        split
        · rw [if_pos (by omega)]
        · rw [if_neg (by omega)]

variable (positive : 0 < size) (source : List Item)

include positive

theorem chunks_flatten : (chunks size source).flatten = source :=
  read_chunks_flatten positive source.length source (Nat.le_refl _)

theorem chunks_get (index : Nat) : (chunks size source)[index]? =
      if index * size < source.length then some ((source.drop (index * size)).take size)
      else none :=
  read_chunks_get positive source.length source (Nat.le_refl _) index

theorem chunks_length : (chunks size source).length = (source.length + size - 1) / size := by
  apply eq_of_forall_lt_iff
  intro index
  rw [lt_ceil_iff positive]
  have found := chunks_get positive source index
  by_cases inside : index * size < source.length
  · rw [if_pos inside] at found
    exact ⟨fun _ => inside, fun _ => (List.getElem?_eq_some_iff.mp found).1⟩
  · rw [if_neg inside] at found
    have past := List.getElem?_eq_none_iff.mp found
    exact ⟨fun below => absurd below (Nat.not_lt.mpr past), fun within => absurd within inside⟩

end AgentMate.ChunkedBytes
