import Mathlib.Data.List.DropRight
import Mathlib.Data.Fin.Basic

/-!
# Base64 with the URL-safe alphabet

Three bytes are written as four digits of six bits. The decoder is the lenient one of
`binascii`: it skips what is no digit, and a padding that completes a group of four ends the
input. A text that was written can lose its padding and be padded again before it is read.
-/

namespace AgentMate.Base64

open List

def sextets : List UInt8 → List Nat
  | [] => []
  | [first] => [first.toNat / 4, first.toNat % 4 * 16]
  | [first, second] =>
    [first.toNat / 4, first.toNat % 4 * 16 + second.toNat / 16, second.toNat % 16 * 4]
  | first :: second :: third :: rest =>
    first.toNat / 4 :: (first.toNat % 4 * 16 + second.toNat / 16) ::
      (second.toNat % 16 * 4 + third.toNat / 64) :: third.toNat % 64 :: sextets rest

def digit (value : Nat) : Char :=
  if value < 26 then Char.ofNat (value + 65)
  else if value < 52 then Char.ofNat (value + 71)
  else if value < 62 then Char.ofNat (value - 4)
  else if value = 62 then '-'
  else '_'

def digits (bytes : List UInt8) : List Char := (sextets bytes).map digit

/-- `"=" * (-length % 4)`. -/
def padding (length : Nat) : List Char := List.replicate ((4 - length % 4) % 4) '='

/-- `base64.urlsafe_b64encode`. -/
def urlsafeEncode (bytes : List UInt8) : List Char :=
  digits bytes ++ padding (digits bytes).length

def value? (char : Char) : Option Nat :=
  if 'A' ≤ char ∧ char ≤ 'Z' then some (char.toNat - 65)
  else if 'a' ≤ char ∧ char ≤ 'z' then some (char.toNat - 71)
  else if '0' ≤ char ∧ char ≤ '9' then some (char.toNat + 4)
  else if char = '+' ∨ char = '-' then some 62
  else if char = '/' ∨ char = '_' then some 63
  else none

/-- The place in a group of four, the bits left from the digit before, the padding read since. -/
def decodeFrom : Nat → Nat → Nat → List Char → Option (List UInt8)
  | quad, _, _, [] => if quad = 0 then some [] else none
  | quad, left, pads, char :: rest =>
    if char = '=' then
      if quad < 2 then decodeFrom quad left pads rest
      else if 4 ≤ quad + (pads + 1) then some []
      else decodeFrom quad left (pads + 1) rest
    else
      match value? char with
      | none => decodeFrom quad left pads rest
      | some value =>
        match quad with
        | 0 => decodeFrom 1 value 0 rest
        | 1 => (decodeFrom 2 (value % 16) 0 rest).map
            (UInt8.ofNat (left * 4 + value / 16) :: ·)
        | 2 => (decodeFrom 3 (value % 4) 0 rest).map
            (UInt8.ofNat (left * 16 + value / 4) :: ·)
        | _ => (decodeFrom 0 0 0 rest).map (UInt8.ofNat (left * 64 + value) :: ·)

/-- `base64.urlsafe_b64decode`; a text that is not ASCII is refused. -/
def urlsafeDecode (text : List Char) : Option (List UInt8) :=
  if text.all fun char => char.toNat < 128 then decodeFrom 0 0 0 text else none

theorem digit_value (value : Fin 64) :
    digit value ≠ '=' ∧ value? (digit value) = some value.val ∧ (digit value).toNat < 128 := by
  decide +revert +kernel

theorem sextets_lt (bytes : List UInt8) : ∀ value ∈ sextets bytes, value < 64 := by
  have byte : ∀ byte : UInt8, byte.toNat < 256 := UInt8.toNat_lt
  induction bytes using sextets.induct with
  | case1 => simp [sextets]
  | case2 first =>
    have one := byte first
    simp only [sextets, forall_mem_cons]
    exact ⟨by omega, by omega, by simp⟩
  | case3 first second =>
    have one := byte first
    have two := byte second
    simp only [sextets, forall_mem_cons]
    exact ⟨by omega, by omega, by omega, by simp⟩
  | case4 first second third rest ih =>
    have one := byte first
    have two := byte second
    have three := byte third
    simp only [sextets, forall_mem_cons]
    exact ⟨by omega, by omega, by omega, by omega, ih⟩

theorem digits_plain (bytes : List UInt8) :
    ∀ char ∈ digits bytes, char ≠ '=' ∧ char.toNat < 128 := by
  intro char mem
  obtain ⟨value, listed, rfl⟩ := mem_map.mp mem
  have plain := digit_value ⟨value, sextets_lt bytes value listed⟩
  exact ⟨plain.1, plain.2.2⟩

section

variable {value left pads : Nat} {rest : List Char}

theorem decode_first (small : value < 64) :
    decodeFrom 0 left pads (digit value :: rest) = decodeFrom 1 value 0 rest := by
  have plain := digit_value ⟨value, small⟩
  simp only [decodeFrom, if_neg plain.1, plain.2.1]

theorem decode_second (small : value < 64) : decodeFrom 1 left pads (digit value :: rest) =
      (decodeFrom 2 (value % 16) 0 rest).map (UInt8.ofNat (left * 4 + value / 16) :: ·) := by
  have plain := digit_value ⟨value, small⟩
  simp only [decodeFrom, if_neg plain.1, plain.2.1]

theorem decode_third (small : value < 64) : decodeFrom 2 left pads (digit value :: rest) =
      (decodeFrom 3 (value % 4) 0 rest).map (UInt8.ofNat (left * 16 + value / 4) :: ·) := by
  have plain := digit_value ⟨value, small⟩
  simp only [decodeFrom, if_neg plain.1, plain.2.1]

theorem decode_fourth (small : value < 64) : decodeFrom 3 left pads (digit value :: rest) =
      (decodeFrom 0 0 0 rest).map (UInt8.ofNat (left * 64 + value) :: ·) := by
  have plain := digit_value ⟨value, small⟩
  simp only [decodeFrom, if_neg plain.1, plain.2.1]

end

theorem byte_eq (byte : UInt8) {value : Nat} (same : value = byte.toNat) :
    UInt8.ofNat value = byte := by
  rw [same, UInt8.ofNat_toNat]

/-- The digits of a byte string with their padding; the induction takes three bytes at a time. -/
theorem decode_digits (bytes : List UInt8) :
    decodeFrom 0 0 0 (digits bytes ++ padding (digits bytes).length) = some bytes := by
  have byte : ∀ byte : UInt8, byte.toNat < 256 := UInt8.toNat_lt
  induction bytes using sextets.induct with
  | case1 => rfl
  | case2 first =>
    have one := byte first
    have pads : padding (digits [first]).length = ['=', '='] := rfl
    rw [pads, digits, sextets, map_cons, map_cons, map_nil, cons_append,
      cons_append, decode_first (by omega), decode_second (by omega)]
    simp only [nil_append, decodeFrom]
    rw [byte_eq first (by omega)]
    rfl
  | case3 first second =>
    have one := byte first
    have two := byte second
    have pads : padding (digits [first, second]).length = ['='] := rfl
    rw [pads, digits, sextets, map_cons, map_cons, map_cons, map_nil,
      cons_append, cons_append, cons_append, decode_first (by omega),
      decode_second (by omega), decode_third (by omega)]
    simp only [nil_append, decodeFrom]
    rw [byte_eq first (by omega), byte_eq second (by omega)]
    rfl
  | case4 first second third rest ih =>
    have one := byte first
    have two := byte second
    have three := byte third
    have pads : padding (digits (first :: second :: third :: rest)).length =
        padding (digits rest).length := by
      simp only [padding, digits, sextets, map_cons, length_cons]
      congr 2
      omega
    rw [pads, digits, sextets]
    simp only [map_cons, cons_append]
    rw [decode_first (by omega), decode_second (by omega), decode_third (by omega),
      decode_fourth (by omega), ← digits, ih, byte_eq first (by omega),
      byte_eq second (by omega), byte_eq third (by omega)]
    rfl

theorem encode_rstrip (bytes : List UInt8) :
    (urlsafeEncode bytes).rdropWhile (· = '=') = digits bytes := by
  have pads : ∀ count, (digits bytes ++ List.replicate count '=').rdropWhile (· = '=') =
      digits bytes := by
    intro count
    induction count with
    | zero =>
      rw [replicate_zero, append_nil, rdropWhile_eq_self_iff]
      intro nonempty last
      exact (digits_plain bytes _ (getLast_mem nonempty)).1 (by simpa using last)
    | succ count ih =>
      rw [replicate_succ', ← append_assoc, rdropWhile_concat_pos _ _ _ (by simp)]
      exact ih
  exact pads _

theorem decode_stripped (bytes : List UInt8) :
    urlsafeDecode ((urlsafeEncode bytes).rdropWhile (· = '=') ++
      padding ((urlsafeEncode bytes).rdropWhile (· = '=')).length) = some bytes := by
  have ascii : ((digits bytes ++ padding (digits bytes).length).all
      fun char => char.toNat < 128) = true := by
    rw [all_append, Bool.and_eq_true, all_eq_true, all_eq_true]
    constructor
    · intro char mem
      exact decide_eq_true (digits_plain bytes char mem).2
    · intro char mem
      rw [eq_of_mem_replicate mem]
      rfl
  rw [encode_rstrip, urlsafeDecode, if_pos ascii, decode_digits]

end AgentMate.Base64
