import Mathlib.Data.Rat.Floor

/-!
# JSON values as the Server reads them

Payloads, capabilities and request snapshots are decoded JSON documents. The
store reads them with Python's `dict.get`, truth test, `str()` and `int()`;
`_contains_secret_key` walks them.
-/

namespace AgentMate

/-- A finite Python float; `-0.0` is equal to `0.0` but has a text of its own. -/
inductive PyFloat where
  | number (value : ℚ)
  | negativeZero
  deriving DecidableEq

def PyFloat.value : PyFloat → ℚ
  | number value => value
  | negativeZero => 0

inductive Json where
  | null
  | bool (value : Bool)
  | int (value : Int)
  | float (value : PyFloat)
  | str (value : String)
  | arr (items : List Json)
  | obj (fields : List (String × Json))
  deriving Inhabited

/-- Python's text conversions that depend on the interpreter: `json.dumps` with
the store's options, `str()` of a value that is no string, `int()` of a string. -/
structure PyText where
  dumps : Json → String
  strOf : Json → String
  intOf : String → Option Int

namespace Json

/-- `dict.get`; anything but an object has no keys. -/
def get? (key : String) : Json → Option Json
  | obj fields => (fields.find? fun field => field.1 = key).map Prod.snd
  | _ => none

def truthy : Json → Bool
  | null => false
  | bool value => value
  | int value => value ≠ 0
  | float value => value.value ≠ 0
  | str value => value ≠ ""
  | arr items => !items.isEmpty
  | obj fields => !fields.isEmpty

/-- `str(value)`. -/
def pyStr (text : PyText) : Json → String
  | str value => value
  | value => text.strOf value

/-- `int(value)`; `none` is the `TypeError` or `ValueError`. -/
def pyInt (text : PyText) : Json → Option Int
  | bool value => some (if value then 1 else 0)
  | int value => some value
  | float value => some (Int.tdiv value.value.num value.value.den)
  | str value => text.intOf value
  | _ => none

/-- `payload.get(key) or <default>`: a missing or falsy value gives `none`. -/
def getTruthy (key : String) (payload : Json) : Option Json :=
  (payload.get? key).filter truthy

/-- `str(payload.get(key) or "")`. -/
def strField (text : PyText) (key : String) (payload : Json) : String :=
  (payload.getTruthy key).elim "" (pyStr text)

/-- `int(payload.get(key) or 0)`. -/
def intField (text : PyText) (key : String) (payload : Json) : Option Int :=
  (payload.getTruthy key).elim (some 0) (pyInt text)

/-- `payload.get(key) if isinstance(payload.get(key), list) else []`. -/
def listField (key : String) (payload : Json) : List Json :=
  match payload.get? key with
  | some (arr items) => items
  | _ => []

/-- `payload.get(key) if isinstance(payload.get(key), dict) else {}`. -/
def dictField (key : String) (payload : Json) : Json :=
  match payload.get? key with
  | some (obj fields) => obj fields
  | _ => obj []

end Json

/-- `text[:count]`. -/
def clip (count : Nat) (text : String) : String := String.ofList (text.toList.take count)

/-- What follows `mark` in a text that starts with it. -/
def afterPrefix? (mark text : String) : Option String :=
  if mark.toList.isPrefixOf text.toList then
    some (String.ofList (text.toList.drop mark.toList.length))
  else none

theorem after_prefix_eq_some {mark text rest : String} :
    afterPrefix? mark text = some rest ↔ text = mark ++ rest := by
  unfold afterPrefix?
  constructor
  · intro found
    split at found
    · next matched =>
      obtain ⟨tail, same⟩ := List.isPrefixOf_iff_prefix.mp matched
      cases found
      rw [← String.toList_inj, String.toList_append, String.toList_ofList, ← same, List.drop_left]
    · cases found
  · rintro rfl
    have matched : mark.toList.isPrefixOf (mark ++ rest).toList = true := by
      rw [List.isPrefixOf_iff_prefix, String.toList_append]
      exact List.prefix_append _ _
    rw [if_pos matched, String.toList_append, List.drop_left, String.ofList_toList]

def secretKeys : List String :=
  ["token", "secret", "password", "apikey", "authorization", "credential",
    "privatekey", "accesstoken", "refreshtoken", "clientsecret"]

/-- `str.lower` followed by the filter `[a-z0-9]`. Besides A to Z only the
Kelvin sign and the dotted capital I lower to something the filter keeps. -/
def normalizeKeyChar (char : Char) : Option Char :=
  if 'A' ≤ char ∧ char ≤ 'Z' then some (Char.ofNat (char.toNat + 32))
  else if char = Char.ofNat 0x212A then some 'k'
  else if char = Char.ofNat 0x130 then some 'i'
  else if ('a' ≤ char ∧ char ≤ 'z') ∨ ('0' ≤ char ∧ char ≤ '9') then some char
  else none

def normalizeKey (key : String) : String :=
  String.ofList (key.toList.filterMap normalizeKeyChar)

mutual

def containsSecretKey : Json → Bool
  | .obj fields => containsSecretField fields
  | .arr items => containsSecretItem items
  | _ => false

def containsSecretField : List (String × Json) → Bool
  | [] => false
  | (key, child) :: rest =>
    secretKeys.contains (normalizeKey key) || containsSecretKey child || containsSecretField rest

def containsSecretItem : List Json → Bool
  | [] => false
  | item :: rest => containsSecretKey item || containsSecretItem rest

end

example : containsSecretKey (.obj [("meta", .arr [.obj [("Api-Key", .str "x")]])]) = true := by
  decide +kernel

end AgentMate
