import Mathlib.Data.List.Basic

/-!
# Texts cut at a mark

A key joins its parts with a mark. Where one part has no mark in it, the key names its
parts in one way only.
-/

namespace AgentMate.TextKeys

open List

section

variable {Item : Type*} {mark : Item} {left right rest rest' : List Item}

theorem first_mark_unique (plain : mark ∉ left) (plain' : mark ∉ right)
    (same : left ++ mark :: rest = right ++ mark :: rest') : left = right ∧ rest = rest' := by
  induction left generalizing right with
  | nil =>
    cases right with
    | nil => exact ⟨rfl, (List.cons.inj same).2⟩
    | cons head tail =>
      rw [← (List.cons.inj same).1] at plain'
      exact absurd mem_cons_self plain'
  | cons head tail ih =>
    cases right with
    | nil =>
      rw [(List.cons.inj same).1] at plain
      exact absurd mem_cons_self plain
    | cons other tail' =>
      obtain ⟨heads, tails⟩ := List.cons.inj same
      obtain ⟨equal, rests⟩ := ih (fun mem => plain (mem_cons_of_mem _ mem))
        (fun mem => plain' (mem_cons_of_mem _ mem)) tails
      exact ⟨heads ▸ equal ▸ rfl, rests⟩

theorem last_mark_unique (plain : mark ∉ rest) (plain' : mark ∉ rest')
    (same : left ++ mark :: rest = right ++ mark :: rest') : left = right ∧ rest = rest' := by
  have reversed : rest.reverse ++ mark :: left.reverse = rest'.reverse ++ mark :: right.reverse := by
    simpa using congrArg List.reverse same
  obtain ⟨rests, heads⟩ := first_mark_unique (fun mem => plain (mem_reverse.mp mem))
    (fun mem => plain' (mem_reverse.mp mem)) reversed
  exact ⟨reverse_injective heads, reverse_injective rests⟩

end

theorem number_text_injective {left right : Nat} (same : toString left = toString right) :
    left = right := by
  have digits : Nat.toDigits 10 left = Nat.toDigits 10 right := by
    rw [Nat.toString_eq_repr, Nat.toString_eq_repr] at same
    simpa using congrArg String.toList same
  have values := congrArg (fun digits => Nat.ofDigitChars 10 digits 0) digits
  simpa using values

theorem colon_not_in_number {number : Nat} : ':' ∉ (toString number).toList := by
  rw [Nat.toString_eq_repr, Nat.toList_repr]
  intro mem
  have digit := Nat.isDigit_of_mem_toDigits (by omega) (by omega) mem
  exact absurd digit (by simp)

end AgentMate.TextKeys
