import Mathlib.Data.List.DropRight
import Mathlib.Data.List.Infix
import Mathlib.Data.List.TakeWhile
import Mathlib.Algebra.Order.BigOperators.Group.List
import Mathlib.Algebra.GroupWithZero.Nat

/-!
# Text functions of the language

`strip` removes the characters of Unicode's white space from both ends. A list is cut
to the longest front whose weight stays within a room.
-/

namespace AgentMate.PlainText

open List

/-- The characters that `str.strip()` removes. -/
def isWhitespace (char : Char) : Bool :=
  let code := char.toNat
  (9 ≤ code && code ≤ 13) || (28 ≤ code && code ≤ 32) || code == 0x85 || code == 0xa0 ||
    code == 0x1680 || (0x2000 ≤ code && code ≤ 0x200a) || code == 0x2028 || code == 0x2029 ||
    code == 0x202f || code == 0x205f || code == 0x3000

def stripChars (chars : List Char) : List Char :=
  ((chars.dropWhile isWhitespace).reverse.dropWhile isWhitespace).reverse

def strip (text : String) : String := String.ofList (stripChars text.toList)

theorem strip_sublist (text : String) : (strip text).toList.Sublist text.toList := by
  rw [strip, String.toList_ofList, stripChars]
  have back := ((text.toList.dropWhile isWhitespace).reverse.dropWhile_suffix
    isWhitespace).sublist.reverse
  rw [reverse_reverse] at back
  exact back.trans (text.toList.dropWhile_suffix isWhitespace).sublist

theorem strip_chars_strip (chars : List Char) : stripChars (stripChars chars) = stripChars chars := by
  have front : (stripChars chars).dropWhile isWhitespace = stripChars chars := by
    rw [dropWhile_eq_self_iff]
    intro long
    -- the first character left is the one that the first `dropWhile` stopped at
    have front_of : stripChars chars <+: chars.dropWhile isWhitespace :=
      rdropWhile_prefix isWhitespace (chars.dropWhile isWhitespace)
    rw [front_of.getElem long]
    exact dropWhile_get_zero_not _ chars (long.trans_le front_of.length_le)
  rw [stripChars, front]
  exact rdropWhile_idempotent isWhitespace (chars.dropWhile isWhitespace)

@[simp] theorem strip_strip (text : String) : strip (strip text) = strip text := by
  rw [strip, strip, String.toList_ofList, strip_chars_strip]

theorem strip_solid {text : String} (solid : ∀ char ∈ text.toList, isWhitespace char = false) :
    strip text = text := by
  have front : text.toList.dropWhile isWhitespace = text.toList := by
    cases same : text.toList with
    | nil => rfl
    | cons char rest =>
      have first := solid char (by rw [same]; exact mem_cons_self)
      simp [first]
  have back : text.toList.reverse.dropWhile isWhitespace = text.toList.reverse := by
    cases same : text.toList.reverse with
    | nil => rfl
    | cons char rest =>
      have last := solid char (mem_reverse.mp (by rw [same]; exact mem_cons_self))
      simp [last]
  rw [strip, stripChars, front, back, reverse_reverse, String.ofList_toList]

variable {Item : Type*} (weight : Item → Nat)

def takeWithin : Nat → List Item → List Item
  | _, [] => []
  | room, item :: rest =>
    if room < weight item then [] else item :: takeWithin (room - weight item) rest

theorem take_within_weight (room : Nat) (items : List Item) :
    ((takeWithin weight room items).map weight).sum ≤ room := by
  induction items generalizing room with
  | nil => simp [takeWithin]
  | cons item rest ih =>
    simp only [takeWithin]
    split
    · simp
    · have later := ih (room - weight item)
      simp only [map_cons, sum_cons]
      omega

variable {weight}

theorem sublist_weight {kept all : List Item} (sub : kept.Sublist all) :
    (kept.map weight).sum ≤ (all.map weight).sum := by
  induction sub with
  | slnil => exact le_rfl
  | cons item _ ih => exact ih.trans (by simp)
  | cons_cons item _ ih => simpa using ih

end AgentMate.PlainText
