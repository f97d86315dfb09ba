import AgentMate.Json
import Mathlib.Data.List.TakeWhile

/-!
# Numbers and strings in a JSON text

How `json.dumps` writes a number or a string with `ensure_ascii=False`, and how
`json.loads` reads it. A text is a list of characters. The texts of floats are a
parameter: `float.__repr__` writes a numeral with a fraction or an exponent, from which
`float()` reads the same float. Lone surrogates, `NaN` and the infinities have no `Json`
value and are not read.
-/

namespace AgentMate

open List

def isNatToken (token : List Char) : Bool :=
  !token.isEmpty && token.all Char.isDigit && (token = ['0'] || token.head? ≠ some '0')

/-- `[eE][-+]?[0-9]+`. -/
def isExponent : List Char → Bool
  | mark :: rest =>
    let digits := match rest with
      | '-' :: digits | '+' :: digits => digits
      | digits => digits
    (mark = 'e' || mark = 'E') && !digits.isEmpty && digits.all Char.isDigit
  | [] => false

/-- What follows the integer part of a float: a fraction, an exponent or both. -/
def isFloatTail : List Char → Bool
  | '.' :: rest =>
    let exponent := rest.dropWhile Char.isDigit
    !(rest.takeWhile Char.isDigit).isEmpty && (exponent.isEmpty || isExponent exponent)
  | rest => isExponent rest

def unsigned : List Char → List Char
  | '-' :: rest => rest
  | token => token

/-- A numeral that `json.loads` gives to `float()`. -/
def isFloatToken (token : List Char) : Bool :=
  isNatToken ((unsigned token).takeWhile Char.isDigit) &&
    isFloatTail ((unsigned token).dropWhile Char.isDigit)

/-- A numeral that `json.loads` gives to `int()`. -/
def isIntToken (token : List Char) : Bool := isNatToken (unsigned token)

def readInt (token : List Char) : Int :=
  let value : Int := Nat.ofDigitChars 10 (unsigned token) 0
  if token.head? = some '-' then -value else value

/-- `int.__repr__`. -/
def intText (value : Int) : List Char :=
  if value < 0 then '-' :: Nat.toDigits 10 value.natAbs else Nat.toDigits 10 value.natAbs

/-- `float.__repr__` and `float()`. -/
structure FloatText where
  repr : PyFloat → List Char
  read : List Char → Option PyFloat

structure FloatText.Lawful (floats : FloatText) : Prop where
  token : ∀ value, isFloatToken (floats.repr value) = true
  read_repr : ∀ value, floats.read (floats.repr value) = some value

def isNumberChar (char : Char) : Bool :=
  char.isDigit || char = '-' || char = '+' || char = '.' || char = 'e' || char = 'E'

def parseNumber (floats : FloatText) (text : List Char) : Option (Json × List Char) :=
  let token := text.takeWhile isNumberChar
  let rest := text.dropWhile isNumberChar
  if isFloatToken token then (floats.read token).map fun value => (.float value, rest)
  else if isIntToken token then some (.int (readInt token), rest)
  else none

section

def NumberEnds (rest : List Char) : Prop := ∀ char ∈ rest.head?, isNumberChar char = false

theorem take_while_ends {chars rest : List Char} (allowed : ∀ char ∈ chars, isNumberChar char = true)
    (ends : NumberEnds rest) :
    (chars ++ rest).takeWhile isNumberChar = chars ∧
      (chars ++ rest).dropWhile isNumberChar = rest := by
  rw [takeWhile_append_of_pos allowed, dropWhile_append_of_pos allowed]
  cases rest with
  | nil => simp
  | cons head tail =>
    have closed : isNumberChar head = false := ends head rfl
    simp [closed]

theorem digit_number_char {char : Char} (digit : char.isDigit = true) :
    isNumberChar char = true := by
  simp [isNumberChar, digit]

theorem to_digits_head {value : Nat} (positive : 0 < value) :
    (Nat.toDigits 10 value).head? ≠ some '0' := by
  induction value using Nat.strong_induction_on with
  | _ value ih =>
    by_cases small : value < 10
    · have nonzero : ∀ digit < 10, 0 < digit → some digit.digitChar ≠ some '0' := by decide
      rw [Nat.toDigits_of_lt_base small, head?_cons]
      exact nonzero value small positive
    · rw [Nat.toDigits_of_base_le (by decide) (by omega),
        head?_append_of_ne_nil _ Nat.toDigits_ne_nil]
      exact ih (value / 10) (by omega) (by omega)

theorem to_digits_digit (value : Nat) :
    ∀ char ∈ Nat.toDigits 10 value, char.isDigit = true := fun _ mem =>
  Nat.isDigit_of_mem_toDigits (by decide) (by decide) mem

theorem to_digits_token (value : Nat) : isNatToken (Nat.toDigits 10 value) = true := by
  have digits : (Nat.toDigits 10 value).all Char.isDigit = true :=
    all_eq_true.mpr (to_digits_digit value)
  have nonempty : (Nat.toDigits 10 value).isEmpty = false := by
    simp [Nat.toDigits_ne_nil]
  rw [isNatToken, digits, nonempty]
  rcases Nat.eq_zero_or_pos value with rfl | positive
  · rfl
  · simp [to_digits_head positive]

theorem unsigned_digits {digits : List Char} (all : ∀ char ∈ digits, char.isDigit = true) :
    unsigned digits = digits := by
  unfold unsigned
  split
  · next rest =>
    have sign := all '-' mem_cons_self
    exact absurd sign (by decide)
  · rfl

theorem unsigned_int_text (value : Int) :
    unsigned (intText value) = Nat.toDigits 10 value.natAbs := by
  unfold intText
  split
  · rfl
  · exact unsigned_digits (to_digits_digit value.natAbs)

theorem int_text_not_float (value : Int) : isFloatToken (intText value) = false := by
  have all := to_digits_digit value.natAbs
  rw [isFloatToken, unsigned_int_text]
  have nothing : (Nat.toDigits 10 value.natAbs).dropWhile Char.isDigit = [] :=
    dropWhile_eq_nil_iff.mpr all
  rw [nothing, Bool.and_eq_false_iff]
  exact Or.inr rfl

theorem int_text_number (value : Int) : ∀ char ∈ intText value, isNumberChar char = true := by
  intro char mem
  unfold intText at mem
  split at mem
  · rcases mem_cons.mp mem with rfl | digit
    · decide
    · exact digit_number_char (to_digits_digit _ char digit)
  · exact digit_number_char (to_digits_digit _ char mem)

theorem read_int_text (value : Int) : readInt (intText value) = value := by
  rw [readInt, unsigned_int_text, Nat.ofDigitChars_ten_toDigits]
  unfold intText
  split
  · simp only [head?_cons, if_true]
    omega
  · next nonnegative =>
    have unsignedHead : (Nat.toDigits 10 value.natAbs).head? ≠ some '-' := by
      intro head
      have sign := to_digits_digit value.natAbs '-' (mem_of_mem_head? head)
      exact absurd sign (by decide)
    rw [if_neg unsignedHead]
    omega

variable {rest token : List Char}

theorem parse_int_text (floats : FloatText) (value : Int) (ends : NumberEnds rest) :
    parseNumber floats (intText value ++ rest) = some (.int value, rest) := by
  obtain ⟨taken, dropped⟩ := take_while_ends (int_text_number value) ends
  have token : isIntToken (intText value) = true := by
    rw [isIntToken, unsigned_int_text]
    exact to_digits_token value.natAbs
  simp only [parseNumber, taken, dropped, int_text_not_float, Bool.false_eq_true, if_false, token,
    if_true, read_int_text]

theorem exponent_number (exponent : isExponent token = true) :
    ∀ char ∈ token, isNumberChar char = true := by
  cases token with
  | nil => intro char mem; cases mem
  | cons mark rest =>
    simp only [isExponent, Bool.and_eq_true, Bool.or_eq_true, decide_eq_true_eq] at exponent
    obtain ⟨⟨marked, -⟩, digits⟩ := exponent
    intro char mem
    rcases mem_cons.mp mem with rfl | mem
    · rcases marked with rfl | rfl <;> decide
    · split at digits
      · next tail =>
        rcases mem_cons.mp mem with rfl | mem
        · decide
        · exact digit_number_char (all_eq_true.mp digits char mem)
      · next tail =>
        rcases mem_cons.mp mem with rfl | mem
        · decide
        · exact digit_number_char (all_eq_true.mp digits char mem)
      · exact digit_number_char (all_eq_true.mp digits char mem)

theorem float_tail_number (tail : isFloatTail token = true) :
    ∀ char ∈ token, isNumberChar char = true := by
  unfold isFloatTail at tail
  split at tail
  · next rest =>
    simp only [Bool.and_eq_true, Bool.or_eq_true] at tail
    intro char mem
    rcases mem_cons.mp mem with rfl | mem
    · decide
    · rw [← takeWhile_append_dropWhile (p := Char.isDigit) (l := rest)] at mem
      rcases mem_append.mp mem with digit | rest
      · exact digit_number_char (mem_takeWhile_imp digit)
      · rcases tail.2 with none | exponent
        · rw [List.isEmpty_iff.mp none] at rest
          cases rest
        · exact exponent_number exponent char rest
  · exact exponent_number tail

theorem float_token_number (float : isFloatToken token = true) :
    ∀ char ∈ token, isNumberChar char = true := by
  rw [isFloatToken, Bool.and_eq_true] at float
  have unsignedNumber : ∀ char ∈ unsigned token, isNumberChar char = true := by
    intro char mem
    rw [← takeWhile_append_dropWhile (p := Char.isDigit) (l := unsigned token)] at mem
    rcases mem_append.mp mem with digit | tail
    · exact digit_number_char (mem_takeWhile_imp digit)
    · exact float_tail_number float.2 char tail
  unfold unsigned at unsignedNumber
  split at unsignedNumber
  · intro char mem
    rcases mem_cons.mp mem with rfl | mem
    · decide
    · exact unsignedNumber char mem
  · exact unsignedNumber

theorem parse_float_text {floats : FloatText} (lawful : floats.Lawful) (value : PyFloat)
    (ends : NumberEnds rest) :
    parseNumber floats (floats.repr value ++ rest) = some (.float value, rest) := by
  obtain ⟨taken, dropped⟩ := take_while_ends (float_token_number (lawful.token value)) ends
  simp only [parseNumber, taken, dropped, lawful.token, if_true, lawful.read_repr, Option.map_some]

end

def hexDigit (value : Nat) : Char := Nat.digitChar value

def hexValue (char : Char) : Option Nat :=
  if '0' ≤ char ∧ char ≤ '9' then some (char.toNat - 48)
  else if 'a' ≤ char ∧ char ≤ 'f' then some (char.toNat - 87)
  else if 'A' ≤ char ∧ char ≤ 'F' then some (char.toNat - 55)
  else none

/-- The short entries of `ESCAPE_DCT`, each with its letter. -/
def shortEscapes : List (Char × Char) :=
  [('\x22', '\x22'), ('\x5c', '\x5c'), ('\x08', 'b'), ('\x0c', 'f'), ('\n', 'n'), ('\r', 'r'),
    ('\t', 't')]

/-- The text of a character in a string: the quote, the backslash and the control
characters are escaped. -/
def escapeChar (char : Char) : List Char :=
  match shortEscapes.find? fun entry => entry.1 = char with
  | some entry => ['\x5c', entry.2]
  | none =>
    if char.toNat < 32 then
      ['\x5c', 'u', '0', '0', hexDigit (char.toNat / 16), hexDigit (char.toNat % 16)]
    else [char]

/-- `BACKSLASH`. -/
def unescape (mark : Char) : Option Char :=
  ((('/', '/') :: shortEscapes).find? fun entry => entry.2 = mark).map Prod.fst

/-- `_decode_uXXXX`. -/
def hexUnit (first second third fourth : Char) : Option Nat := do
  let high ← hexValue first
  let upper ← hexValue second
  let lower ← hexValue third
  let low ← hexValue fourth
  return ((high * 16 + upper) * 16 + lower) * 16 + low

def pushChar (char : Char) (parsed : Option (List Char × List Char)) :
    Option (List Char × List Char) :=
  parsed.map fun result => (char :: result.1, result.2)

/-- `scanstring`, after the opening quote. -/
def parseString : List Char → Option (List Char × List Char)
  | [] => none
  | '\x22' :: rest => some ([], rest)
  | '\x5c' :: 'u' :: first :: second :: third :: fourth :: rest =>
    match hexUnit first second third fourth with
    | none => none
    | some unit =>
      if 0xd800 ≤ unit ∧ unit ≤ 0xdbff then
        match rest with
        | '\x5c' :: 'u' :: fifth :: sixth :: seventh :: eighth :: later =>
          match hexUnit fifth sixth seventh eighth with
          | some low =>
            if 0xdc00 ≤ low ∧ low ≤ 0xdfff then
              pushChar (Char.ofNat (0x10000 + (unit - 0xd800) * 1024 + (low - 0xdc00)))
                (parseString later)
            else none
          | none => none
        | _ => none
      else if 0xdc00 ≤ unit ∧ unit ≤ 0xdfff then none
      else pushChar (Char.ofNat unit) (parseString rest)
  | '\x5c' :: mark :: rest => (unescape mark).bind fun char => pushChar char (parseString rest)
  | char :: rest => if char.toNat < 32 then none else pushChar char (parseString rest)

theorem hex_value_digit : ∀ value < 16, hexValue (hexDigit value) = some value := by decide

theorem hex_unit_control {char : Char} (control : char.toNat < 32) :
    hexUnit '0' '0' (hexDigit (char.toNat / 16)) (hexDigit (char.toNat % 16)) =
      some char.toNat := by
  have zero : hexValue '0' = some 0 := rfl
  rw [hexUnit, zero, hex_value_digit _ (by omega), hex_value_digit _ (by omega)]
  change some (((0 * 16 + 0) * 16 + char.toNat / 16) * 16 + char.toNat % 16) = some char.toNat
  congr 1
  omega

theorem parse_plain_char {char : Char} (noQuote : char ≠ '\x22') (noMark : char ≠ '\x5c')
    (printable : ¬char.toNat < 32) (rest : List Char) :
    parseString (char :: rest) = pushChar char (parseString rest) := by
  rw [parseString.eq_def]
  split <;> simp_all

theorem short_escape_read : ∀ entry ∈ shortEscapes,
    entry.2 ≠ 'u' ∧ unescape entry.2 = some entry.1 := by
  decide

theorem parse_short_escape {mark : Char} (other : mark ≠ 'u') (rest : List Char) :
    parseString ('\x5c' :: mark :: rest) =
      (unescape mark).bind fun char => pushChar char (parseString rest) := by
  rw [parseString.eq_def]
  split <;> grind

theorem parse_escape_char (char : Char) (rest : List Char) :
    parseString (escapeChar char ++ rest) = pushChar char (parseString rest) := by
  unfold escapeChar
  split
  · next entry found =>
    obtain ⟨other, read⟩ := short_escape_read entry (mem_of_find?_eq_some found)
    have same : entry.1 = char := by simpa using find?_some found
    rw [cons_append, cons_append, nil_append, parse_short_escape other, read, same]
    rfl
  · next unescaped =>
    have absent := find?_eq_none.mp unescaped
    split
    · next control =>
      have low : ¬(0xd800 ≤ char.toNat ∧ char.toNat ≤ 0xdbff) := by omega
      have high : ¬(0xdc00 ≤ char.toNat ∧ char.toNat ≤ 0xdfff) := by omega
      simp only [cons_append, nil_append, parseString, hex_unit_control control, low,
        high, if_false, Char.ofNat_toNat]
    · next printable =>
      apply parse_plain_char _ _ printable
      · rintro rfl
        exact absent ('\x22', '\x22') (by decide) (by decide)
      · rintro rfl
        exact absent ('\x5c', '\x5c') (by decide) (by decide)

theorem parse_escaped (chars rest : List Char) :
    parseString (chars.flatMap escapeChar ++ '\x22' :: rest) = some (chars, rest) := by
  induction chars with
  | nil => rfl
  | cons char chars ih =>
    rw [flatMap_cons, append_assoc, parse_escape_char, ih]
    rfl

end AgentMate
