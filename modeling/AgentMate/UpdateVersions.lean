import AgentMate.PlainText
import AgentMate.RunStore

/-!
# Versions of desktop releases

`_VERSION_RE`, `version_tuple` and `select_update` of `update_store.py`, and the precedence of
semantic versions that the tuples stand for. A channel has one active release; only this one is
offered to a client.
-/

namespace AgentMate.Updates

open List Option

/-- The zeros of the decimal digits of Unicode: `\d` matches the ten characters from each on. -/
def decimalZeros : List Nat :=
  [0x30, 0x660, 0x6f0, 0x7c0, 0x966, 0x9e6, 0xa66, 0xae6, 0xb66, 0xbe6, 0xc66, 0xce6, 0xd66, 0xde6,
    0xe50, 0xed0, 0xf20, 0x1040, 0x1090, 0x17e0, 0x1810, 0x1946, 0x19d0, 0x1a80, 0x1a90, 0x1b50,
    0x1bb0, 0x1c40, 0x1c50, 0xa620, 0xa8d0, 0xa900, 0xa9d0, 0xa9f0, 0xaa50, 0xabf0, 0xff10, 0x104a0,
    0x10d30, 0x11066, 0x110f0, 0x11136, 0x111d0, 0x112f0, 0x11450, 0x114d0, 0x11650, 0x116c0,
    0x11730, 0x118e0, 0x11950, 0x11c50, 0x11d50, 0x11da0, 0x16a60, 0x16ac0, 0x16b50, 0x1d7ce,
    0x1d7d8, 0x1d7e2, 0x1d7ec, 0x1d7f6, 0x1e140, 0x1e2f0, 0x1e950, 0x1fbf0]

def digitOf (c : Char) : Option Nat :=
  (decimalZeros.find? fun first => first ≤ c.toNat ∧ c.toNat < first + 10).map (c.toNat - ·)

def isDecimal (c : Char) : Bool := (digitOf c).isSome

/-- `[0-9A-Za-z.-]`. -/
def isSuffixChar (c : Char) : Bool :=
  ('0' ≤ c && c ≤ '9') || ('A' ≤ c && c ≤ 'Z') || ('a' ≤ c && c ≤ 'z') || c = '.' || c = '-'

/-- `\d+` at the start of a text. -/
def digitRun (text : List Char) : Option (List Char × List Char) :=
  if text.takeWhile isDecimal = [] then none
  else some (text.takeWhile isDecimal, text.dropWhile isDecimal)

/-- `\d+\.` at the start of a text. -/
def digitsPoint (text : List Char) : Option (List Char × List Char) :=
  match digitRun text with
  | some (digits, '.' :: rest) => some (digits, rest)
  | _ => none

structure VersionParts where
  major : List Char
  minor : List Char
  patch : List Char
  suffix : List Char

def versionParts (text : List Char) : Option VersionParts := do
  let (major, rest) ← digitsPoint text
  let (minor, rest) ← digitsPoint rest
  let (patch, suffix) ← digitRun rest
  return ⟨major, minor, patch, suffix⟩

def isSuffix : List Char → Bool
  | [] => true
  | sign :: rest => (sign = '-' || sign = '+') && rest ≠ [] && rest.all isSuffixChar

/-- `_VERSION_RE.fullmatch`. -/
def versionRe (text : List Char) : Bool :=
  (versionParts text).any fun parts => isSuffix parts.suffix

/-- The number that decimal digits write. -/
def numeral (text : List Char) : Option Nat :=
  if text = [] then none
  else text.foldlM (fun value c => (digitOf c).map fun digit => 10 * value + digit) 0

/-- The limit of `int` on the digits of a text, which Python has from 3.11 on. -/
def maxStrDigits : Nat := 4300

/-- `int` of a text without signs, spaces and underscores. -/
def intOf (text : List Char) : Option Nat :=
  if maxStrDigits < text.length then none else numeral text

/-- What `version_tuple` returns. -/
structure VersionTuple where
  major : Nat
  minor : Nat
  patch : Nat
  prerelease : List (List Char)
  deriving DecidableEq

def versionTuple (value : List Char) : Option VersionTuple :=
  if versionRe value then
    let main := value.takeWhile (· ≠ '-')
    let suffix := ((value.dropWhile (· ≠ '-')).drop 1).takeWhile (· ≠ '+')
    match (main.splitOn '.').map intOf with
    | [some major, some minor, some patch] =>
      some ⟨major, minor, patch, if suffix = [] then [['~']] else suffix.splitOn '.'⟩
    | _ => none
  else none

/-- `<` of the tuples. -/
def VersionTuple.Before (left right : VersionTuple) : Prop :=
  left.major < right.major ∨ left.major = right.major ∧
    (left.minor < right.minor ∨ left.minor = right.minor ∧
      (left.patch < right.patch ∨ left.patch = right.patch ∧ left.prerelease < right.prerelease))

instance (left right : VersionTuple) : Decidable (left.Before right) := by
  unfold VersionTuple.Before
  infer_instance

structure SemVer where
  major : Nat
  minor : Nat
  patch : Nat
  prerelease : Option (List (List Char))
  deriving DecidableEq

def isNumber (identifier : List Char) : Bool := identifier ≠ [] && identifier.all Char.isDigit

def numberOf (identifier : List Char) : Nat :=
  identifier.foldl (fun value c => 10 * value + (c.toNat - 48)) 0

/-- Numbers are compared numerically and are below words, which are compared as texts. -/
def IdentifierBefore (left right : List Char) : Prop :=
  if isNumber left then
    if isNumber right then numberOf left < numberOf right else True
  else if isNumber right then False else left < right

def IdentifierSame (left right : List Char) : Prop :=
  if isNumber left ∧ isNumber right then numberOf left = numberOf right else left = right

/-- The first identifiers that differ decide; a longer list is above its own beginning. -/
def IdentifiersBefore : List (List Char) → List (List Char) → Prop
  | _, [] => False
  | [], _ :: _ => True
  | left :: lefts, right :: rights => IdentifierBefore left right ∨
      (IdentifierSame left right ∧ IdentifiersBefore lefts rights)

def PrereleaseBefore : Option (List (List Char)) → Option (List (List Char)) → Prop
  | none, _ => False
  | some _, none => True
  | some left, some right => IdentifiersBefore left right

def SemVer.Precedes (left right : SemVer) : Prop :=
  left.major < right.major ∨ left.major = right.major ∧
    (left.minor < right.minor ∨ left.minor = right.minor ∧
      (left.patch < right.patch ∨ left.patch = right.patch ∧
        PrereleaseBefore left.prerelease right.prerelease))

/-- The version that an accepted text stands for; build metadata is left out. -/
def VersionParts.semVer (parts : VersionParts) : Option SemVer := do
  let major ← numeral parts.major
  let minor ← numeral parts.minor
  let patch ← numeral parts.patch
  return ⟨major, minor, patch,
    if parts.suffix.head? = some '-' then some (parts.suffix.tail.splitOn '.') else none⟩

def semVer (text : List Char) : Option SemVer := (versionParts text).bind VersionParts.semVer

theorem signs_not_decimal :
    isDecimal '.' = false ∧ isDecimal '-' = false ∧ isDecimal '+' = false := by
  decide +kernel

theorem digit_run_spec {text run rest : List Char} (taken : digitRun text = some (run, rest)) :
    text = run ++ rest ∧ run ≠ [] ∧ ∀ c ∈ run, isDecimal c = true := by
  rw [digitRun] at taken
  split at taken
  · cases taken
  · next nonempty =>
    cases taken
    exact ⟨takeWhile_append_dropWhile.symm, nonempty, fun c mem =>
      mem_takeWhile_imp mem⟩

theorem digits_point_spec {text run rest : List Char}
    (taken : digitsPoint text = some (run, rest)) :
    text = run ++ '.' :: rest ∧ run ≠ [] ∧ ∀ c ∈ run, isDecimal c = true := by
  rw [digitsPoint] at taken
  split at taken
  · next found =>
    cases taken
    exact digit_run_spec found
  · cases taken

theorem numeral_run {digits : List Char} (nonempty : digits ≠ [])
    (decimal : ∀ c ∈ digits, isDecimal c = true) : ∃ value, numeral digits = some value := by
  have fold : ∀ start : Nat, ∃ value, digits.foldlM (fun value c =>
      (digitOf c).map fun digit => 10 * value + digit) start = some value := by
    clear nonempty
    induction digits with
    | nil => exact fun start => ⟨start, rfl⟩
    | cons c rest ih =>
      intro start
      obtain ⟨digit, found⟩ := isSome_iff_exists.mp (decimal c mem_cons_self)
      rw [foldlM_cons, found]
      exact ih (fun other mem => decimal other (mem_cons_of_mem c mem)) _
  rw [numeral, if_neg nonempty]
  exact fold 0

theorem int_of_short {digits : List Char} (short : digits.length ≤ maxStrDigits) :
    intOf digits = numeral digits :=
  if_neg (Nat.not_lt.mpr short)

/-- Each of the three numbers is short enough for `int`. -/
def Short (text : List Char) : Prop :=
  ∀ parts ∈ versionParts text, ∀ run ∈ [parts.major, parts.minor, parts.patch],
    run.length ≤ maxStrDigits

instance (text : List Char) : Decidable (Short text) :=
  inferInstanceAs (Decidable (∀ parts ∈ versionParts text, _))

structure VersionParts.Reads (parts : VersionParts) (text : List Char) : Prop where
  text : text = (parts.major ++ '.' :: (parts.minor ++ '.' :: parts.patch)) ++ parts.suffix
  digits : ∀ run ∈ [parts.major, parts.minor, parts.patch], run ≠ [] ∧ ∀ c ∈ run, isDecimal c = true

variable {text left right : List Char} {parts : VersionParts}

theorem version_parts_read (read : versionParts text = some parts) : parts.Reads text := by
  simp only [versionParts, bind, bind_eq_some_iff, pure, Option.some.injEq] at read
  obtain ⟨⟨major, first⟩, one, ⟨minor, second⟩, two, ⟨patch, suffix⟩, three, rfl⟩ := read
  obtain ⟨rfl, major⟩ := digits_point_spec one
  obtain ⟨rfl, minor⟩ := digits_point_spec two
  obtain ⟨rfl, patch⟩ := digit_run_spec three
  exact ⟨by simp, by simpa using ⟨major, minor, patch⟩⟩

theorem not_mem_run {c : Char} (other : isDecimal c = false) {run : List Char}
    (decimal : ∀ c ∈ run, isDecimal c = true) : c ∉ run := by
  intro mem
  rw [decimal c mem] at other
  cases other

theorem version_tuple_plain (read : versionParts text = some parts) (short : Short text)
    (accepted : isSuffix parts.suffix = true) (plain : parts.suffix.head? ≠ some '+') :
    ∃ version, semVer text = some version ∧ versionTuple text = some
      ⟨version.major, version.minor, version.patch, version.prerelease.getD [['~']]⟩ := by
  obtain ⟨content, digits⟩ := version_parts_read read
  obtain ⟨point, minus, -⟩ := signs_not_decimal
  simp only [forall_mem_cons] at digits
  obtain ⟨⟨someMajor, majors⟩, ⟨someMinor, minors⟩, ⟨somePatch, patches⟩, -⟩ := digits
  obtain ⟨major, isMajor⟩ := numeral_run someMajor majors
  obtain ⟨minor, isMinor⟩ := numeral_run someMinor minors
  obtain ⟨patch, isPatch⟩ := numeral_run somePatch patches
  have within := short parts read
  simp only [forall_mem_cons] at within
  have intMajor := (int_of_short within.1).trans isMajor
  have intMinor := (int_of_short within.2.1).trans isMinor
  have intPatch := (int_of_short within.2.2.1).trans isPatch
  have core : ∀ c ∈ parts.major ++ '.' :: (parts.minor ++ '.' :: parts.patch),
      decide (c ≠ '-') = true := by
    intro c mem
    rw [decide_eq_true_iff]
    rintro rfl
    simp [not_mem_run minus majors, not_mem_run minus minors, not_mem_run minus patches] at mem
  have split : (parts.major ++ '.' :: (parts.minor ++ '.' :: parts.patch)).splitOn '.' =
      [parts.major, parts.minor, parts.patch] := by
    rw [splitOn_append_cons_self_of_not_mem (not_mem_run point majors),
      splitOn_append_cons_self_of_not_mem (not_mem_run point minors),
      splitOn_eq_singleton (not_mem_run point patches)]
  have matched : versionRe text = true := by
    rw [versionRe, read]
    exact accepted
  rw [versionTuple, if_pos matched, content, takeWhile_append_of_pos core,
    dropWhile_append_of_pos core, semVer, ← content, read]
  simp only [bind_some, VersionParts.semVer, isMajor, isMinor, isPatch, bind, pure]
  cases ending : parts.suffix with
  | nil => exact ⟨_, rfl, by simp [split, intMajor, intMinor, intPatch]⟩
  | cons sign rest =>
    simp only [ending, isSuffix, Bool.and_eq_true, Bool.or_eq_true, decide_eq_true_eq,
      List.all_eq_true] at accepted
    rw [ending, head?_cons] at plain
    obtain ⟨⟨signed, some⟩, chars⟩ := accepted
    have dash : sign = '-' := signed.resolve_right fun plus => plain (congrArg _ plus)
    have whole : rest.takeWhile (fun c => !decide (c = '+')) = rest := by
      rw [takeWhile_eq_self_iff]
      intro c mem
      rw [Bool.not_eq_true', decide_eq_false_iff_not]
      rintro rfl
      exact absurd (chars '+' mem) (by decide)
    exact ⟨_, rfl, by simp [dash, whole, some, split, intMajor, intMinor, intPatch]⟩

/-- Two different identifiers whose texts are in the order of the identifiers. -/
def Alike (left right : List Char) : Prop :=
  if isNumber left then
    if isNumber right then left < right ↔ numberOf left < numberOf right else left < right
  else if isNumber right then right < left else True

instance (left right : List Char) : Decidable (IdentifierSame left right) := by
  unfold IdentifierSame
  infer_instance

/-- The first identifiers that differ are alike. One number that is written in two ways leaves the
order to what follows. -/
def FirstAlike : List (List Char) → List (List Char) → Prop
  | left :: lefts, right :: rights =>
    if left = right then FirstAlike lefts rights
    else if IdentifierSame left right then left < right ↔ IdentifiersBefore lefts rights
    else Alike left right
  | _, _ => True

theorem char_lt_iff {left right : Char} : left < right ↔ left.toNat < right.toNat :=
  UInt32.lt_iff_toNat_lt

theorem number_fold_lt (same : left.length = right.length)
    (digits : ∀ c ∈ left ++ right, c.isDigit = true) (first second : Nat) :
    left.foldl (fun value c => 10 * value + (c.toNat - 48)) first <
        right.foldl (fun value c => 10 * value + (c.toNat - 48)) second ↔
      first < second ∨ first = second ∧ left < right := by
  induction left generalizing right first second with
  | nil =>
    rw [length_nil, eq_comm, length_eq_zero_iff] at same
    simp [same]
  | cons c rest ih =>
    cases right with
    | nil => cases same
    | cons d others =>
      have within : ∀ e, e = c ∨ e = d → 48 ≤ e.toNat ∧ e.toNat ≤ 57 := by
        intro e either
        refine Char.isDigit_iff_toNat.mp (digits e ?_)
        rcases either with rfl | rfl <;> simp
      have low := within c (.inl rfl)
      have high := within d (.inr rfl)
      have equal : c = d ↔ c.toNat = d.toNat := Char.toNat_inj.symm
      have later : ∀ e ∈ rest ++ others, e.isDigit = true := by
        intro e mem
        apply digits
        rcases mem_append.mp mem with mem | mem <;> simp [mem]
      rw [foldl_cons, foldl_cons, ih (Nat.succ.inj same) later,
        cons_lt_cons_iff, char_lt_iff, equal]
      by_cases tail : rest < others
      · simp only [tail, and_true]
        omega
      · simp only [tail, and_false, or_false]
        omega

theorem number_lt (leftNumber : isNumber left = true) (rightNumber : isNumber right = true)
    (same : left.length = right.length) :
    numberOf left < numberOf right ↔ left < right := by
  simp only [isNumber, Bool.and_eq_true, List.all_eq_true] at leftNumber rightNumber
  have digits : ∀ c ∈ left ++ right, c.isDigit = true := by
    intro c mem
    rcases mem_append.mp mem with mem | mem
    · exact leftNumber.2 c mem
    · exact rightNumber.2 c mem
  rw [numberOf, numberOf, number_fold_lt same digits]
  simp

theorem number_lt_word {number word : List Char} (isANumber : isNumber number = true)
    (letter : word.head?.any Char.isAlpha = true) : number < word := by
  cases number with
  | nil => cases isANumber
  | cons c rest =>
    cases word with
    | nil => cases letter
    | cons d others =>
      simp only [isNumber, all_cons, Bool.and_eq_true] at isANumber
      have digit := Char.isDigit_iff_toNat.mp isANumber.2.1
      have alpha : 65 ≤ d.toNat := by
        rcases Bool.or_eq_true _ _ ▸ letter with upper | lower
        · exact UInt32.le_iff_toNat_le.mp (of_decide_eq_true upper).1
        · have above : decide ('a'.val ≤ d.val) = true := Bool.and_elim_left lower
          exact le_trans (by decide) (UInt32.le_iff_toNat_le.mp (of_decide_eq_true above))
      have nine : '9'.toNat = 57 := rfl
      exact cons_lt_cons_iff.mpr (.inl (char_lt_iff.mpr (by omega)))

theorem alike_numbers (leftNumber : isNumber left = true) (rightNumber : isNumber right = true)
    (same : left.length = right.length) : Alike left right := by
  rw [Alike, if_pos leftNumber, if_pos rightNumber]
  exact (number_lt leftNumber rightNumber same).symm

theorem alike_words (leftWord : isNumber left = false) (rightWord : isNumber right = false) :
    Alike left right := by
  simp [Alike, leftWord, rightWord]

theorem alike_letter {number word : List Char} (isANumber : isNumber number = true)
    (letter : word.head?.any Char.isAlpha = true) : Alike number word ∧ Alike word number := by
  have below := number_lt_word isANumber letter
  have other : isNumber word = false := by
    by_contra digits
    rw [Bool.not_eq_false] at digits
    exact List.lt_irrefl word (number_lt_word digits letter)
  simp [Alike, isANumber, other, below]

theorem identifier_before_iff (differ : left ≠ right) :
    (left < right ↔ IdentifierBefore left right) ↔ Alike left right := by
  rw [Alike, IdentifierBefore]
  by_cases first : isNumber left = true
  · by_cases second : isNumber right = true
    · rw [if_pos first, if_pos first, if_pos second, if_pos second]
    · rw [if_pos first, if_pos first, if_neg second, if_neg second, iff_true]
  · by_cases second : isNumber right = true
    · rw [if_neg first, if_neg first, if_pos second, if_pos second, iff_false]
      constructor
      · intro notBelow
        by_contra notAbove
        exact differ (List.le_antisymm (List.not_lt.mp notAbove) (List.not_lt.mp notBelow))
      · exact List.lt_asymm
    · rw [if_neg first, if_neg first, if_neg second, if_neg second, iff_true]

theorem same_not_before (same : IdentifierSame left right) : ¬ IdentifierBefore left right := by
  rw [IdentifierSame] at same
  rw [IdentifierBefore]
  split at same
  · next numbers =>
    rw [if_pos numbers.1, if_pos numbers.2, same]
    exact Nat.lt_irrefl _
  · subst same
    split
    · exact Nat.lt_irrefl _
    · exact List.lt_irrefl left

/-- The order of the lists is that of the identifiers just where the first that differ are alike. -/
theorem identifiers_before_iff {left right : List (List Char)} :
    (left < right ↔ IdentifiersBefore left right) ↔ FirstAlike left right := by
  induction left generalizing right with
  | nil => cases right <;> simp [IdentifiersBefore, FirstAlike]
  | cons first lefts ih =>
    cases right with
    | nil => simp [IdentifiersBefore, FirstAlike]
    | cons second rights =>
      rw [FirstAlike, cons_lt_cons_iff, IdentifiersBefore]
      by_cases equal : first = second
      · subst equal
        have self : IdentifierSame first first := by simp [IdentifierSame]
        simp [← ih, same_not_before self, self, List.lt_irrefl first]
      · rw [if_neg equal]
        split
        · next same => simp [equal, same, same_not_before same]
        · next differ =>
          rw [← identifier_before_iff equal]
          simp [equal, differ]

/-- An accepted text without build metadata and long numbers, and the version it stands for. -/
def Plain (text : List Char) (version : SemVer) : Prop :=
  versionRe text = true ∧ '+' ∉ text ∧ Short text ∧ semVer text = some version

instance (text : List Char) (version : SemVer) : Decidable (Plain text version) := by
  unfold Plain
  infer_instance

/-- Where two pre-releases have the same numbers, their first identifiers that differ are alike. -/
def SemVer.Alike (left right : SemVer) : Prop :=
  left.major = right.major → left.minor = right.minor → left.patch = right.patch →
    ∀ first ∈ left.prerelease, ∀ second ∈ right.prerelease, FirstAlike first second

theorem mem_split {text part : List Char} {separator c : Char}
    (listed : part ∈ text.splitOn separator) (mem : c ∈ part) : c ∈ text := by
  induction text generalizing part with
  | nil =>
    rw [splitOn_nil, mem_singleton] at listed
    rw [listed] at mem
    cases mem
  | cons head rest ih =>
    rw [splitOn_cons_eq_if_modifyHead] at listed
    split at listed
    · rcases mem_cons.mp listed with rfl | listed
      · cases mem
      · exact mem_cons_of_mem head (ih listed mem)
    · obtain ⟨first, others, split⟩ := exists_cons_of_ne_nil (splitOn_ne_nil separator rest)
      rw [split, modifyHead_cons] at listed
      rcases mem_cons.mp listed with rfl | listed
      · rcases mem_cons.mp mem with rfl | mem
        · exact mem_cons_self
        · exact mem_cons_of_mem head (ih (split ▸ mem_cons_self) mem)
      · exact mem_cons_of_mem head (ih (split ▸ mem_cons_of_mem first listed) mem)

theorem plain_tuple (accepted : versionRe text = true) (plain : '+' ∉ text) (short : Short text) :
    ∃ version, Plain text version ∧ versionTuple text = some
        ⟨version.major, version.minor, version.patch, version.prerelease.getD [['~']]⟩ ∧
      ∀ prerelease ∈ version.prerelease, prerelease < [['~']] := by
  obtain ⟨parts, read, suffix⟩ := (Option.any_eq_true _ _).mp accepted
  have content := (version_parts_read read).text
  have unsigned : parts.suffix.head? ≠ some '+' := by
    intro plus
    exact plain (content ▸ mem_append_right _ (mem_of_mem_head? plus))
  obtain ⟨version, stands, tuple⟩ := version_tuple_plain read short suffix unsigned
  refine ⟨version, ⟨accepted, plain, short, stands⟩, tuple, ?_⟩
  intro prerelease found
  rw [semVer, read, bind_some] at stands
  simp only [VersionParts.semVer, bind, bind_eq_some_iff, pure, Option.some.injEq] at stands
  obtain ⟨major, -, minor, -, patch, -, rfl⟩ := stands
  simp only [mem_def, ite_none_right_eq_some, Option.some.injEq] at found
  obtain ⟨dash, rfl⟩ := found
  cases ending : parts.suffix with
  | nil =>
    rw [ending] at dash
    cases dash
  | cons sign rest =>
    simp only [ending, isSuffix, Bool.and_eq_true, List.all_eq_true] at suffix
    obtain ⟨first, others, split⟩ := exists_cons_of_ne_nil (splitOn_ne_nil '.' rest)
    rw [tail_cons, split, cons_lt_cons_iff]
    left
    cases firstCase : first with
    | nil => exact nil_lt_cons _ _
    | cons c chars =>
      have mem : c ∈ rest := mem_split (split ▸ mem_cons_self) (firstCase ▸ mem_cons_self)
      have known := suffix.2 c mem
      refine cons_lt_cons_iff.mpr (.inl (char_lt_iff.mpr ?_))
      simp only [isSuffixChar, Bool.or_eq_true, Bool.and_eq_true, decide_eq_true_eq] at known
      have tilde : '~'.toNat = 126 := rfl
      rw [tilde]
      rcases known with (((digit | upper) | lower) | rfl) | rfl
      · exact lt_of_le_of_lt (UInt32.le_iff_toNat_le.mp digit.2) (by decide)
      · exact lt_of_le_of_lt (UInt32.le_iff_toNat_le.mp upper.2) (by decide)
      · exact lt_of_le_of_lt (UInt32.le_iff_toNat_le.mp lower.2) (by decide)
      · decide
      · decide

theorem tuple_before_iff {first second : SemVer} {one two : VersionTuple}
    (leftPlain : Plain left first) (rightPlain : Plain right second) (alike : first.Alike second)
    (leftTuple : versionTuple left = some one) (rightTuple : versionTuple right = some two) :
    (one.Before two ↔ first.Precedes second) ∧ (one = two ↔ first = second) := by
  obtain ⟨_, same, leftIs, leftBelow⟩ := plain_tuple leftPlain.1 leftPlain.2.1 leftPlain.2.2.1
  cases Option.some.inj (leftPlain.2.2.2.symm.trans same.2.2.2)
  obtain ⟨_, same, rightIs, rightBelow⟩ :=
    plain_tuple rightPlain.1 rightPlain.2.1 rightPlain.2.2.1
  cases Option.some.inj (rightPlain.2.2.2.symm.trans same.2.2.2)
  cases Option.some.inj (leftTuple.symm.trans leftIs)
  cases Option.some.inj (rightTuple.symm.trans rightIs)
  obtain ⟨major, minor, patch, before⟩ := first
  obtain ⟨major', minor', patch', after⟩ := second
  have differ (earlier : List (List Char)) (below : earlier < [['~']]) : earlier ≠ [['~']] := by
    rintro rfl
    exact List.lt_irrefl _ below
  constructor
  · refine or_congr Iff.rfl (and_congr_right fun sameMajor => or_congr Iff.rfl
      (and_congr_right fun sameMinor => or_congr Iff.rfl (and_congr_right fun samePatch => ?_)))
    dsimp only
    cases before with
    | none =>
      cases after with
      | none => exact iff_of_false (List.lt_irrefl _) not_false
      | some later => exact iff_of_false (List.lt_asymm (rightBelow later rfl)) not_false
    | some earlier =>
      cases after with
      | none => exact iff_of_true (leftBelow earlier rfl) trivial
      | some later =>
        exact identifiers_before_iff.mpr (alike sameMajor sameMinor samePatch earlier rfl later rfl)
  · have prerelease : before.getD [['~']] = after.getD [['~']] ↔ before = after := by
      cases before with
      | none =>
        cases after with
        | none => simp
        | some later => simp [(differ later (rightBelow later rfl)).symm]
      | some earlier =>
        cases after with
        | none => simp [differ earlier (leftBelow earlier rfl)]
        | some later => simp
    simp only [VersionTuple.mk.injEq, SemVer.mk.injEq, prerelease]

structure ReleaseArtifact where
  target : String
  arch : String
  url : String
  signature : String
  sha256 : String
  sizeBytes : Nat
  deriving DecidableEq

structure DesktopRelease where
  id : String
  version : String
  channel : String
  notes : String
  state : String
  publishedAt : Option Time
  createdAt : Time
  artifacts : List ReleaseArtifact

structure UpdateChannel where
  channel : String
  activeReleaseId : Option String
  rolloutPercent : Nat
  rolloutSalt : String
  minSupportedVersion : String
  paused : Bool
  rollback : Bool

structure UpdateRequest where
  channel : String
  target : String
  arch : String
  currentVersion : String
  deviceId : String

structure UpdateEvent where
  request : UpdateRequest
  event : String
  releaseId : Option String

structure UpdateStore where
  releases : List DesktopRelease
  channels : List UpdateChannel
  events : List UpdateEvent

/-- The first eight bytes of a SHA-256, `strftime`, and what the event table keeps. -/
structure UpdateHost where
  sha256Head : String → Nat
  gmtime : Time → String
  keep : List UpdateEvent → UpdateEvent → List UpdateEvent

/-- `intError` is the error of `int`, whose text is the language's. -/
inductive UpdateError where
  | valueError (text : String)
  | intError
  | lookupError (text : String)

def isDeviceChar (c : Char) : Bool :=
  c.isUpper || c.isLower || c.isDigit || c = '.' || c = '_' || c = ':' || c = '-'

/-- `validate_device_id`. -/
def isDeviceId (value : String) : Bool :=
  let text := PlainText.stripChars value.toList
  text.all isDeviceChar && 8 ≤ text.length && text.length ≤ 160

def UpdateHost.bucket (host : UpdateHost) (deviceId salt : String) : Nat :=
  host.sha256Head (salt ++ ":" ++ deviceId) % 100

structure UpdateOffer where
  version : String
  notes : String
  pubDate : String
  url : String
  signature : String
  rollback : Bool
  forced : Bool
  sha256 : String
  sizeBytes : Nat
  releaseId : String
  deriving DecidableEq

section

variable (host : UpdateHost) (store : UpdateStore) (request : UpdateRequest)

def offerOf (row : UpdateChannel) (release : DesktopRelease) (artifact : ReleaseArtifact)
    (forced : Bool) : UpdateOffer where
  version := release.version
  notes := release.notes
  pubDate := host.gmtime ((release.publishedAt.filter (· ≠ 0)).getD release.createdAt)
  url := artifact.url
  signature := artifact.signature
  rollback := row.rollback
  forced := forced
  sha256 := artifact.sha256
  sizeBytes := artifact.sizeBytes
  releaseId := release.id

def versionOrError (value : String) : Except UpdateError VersionTuple :=
  match versionTuple value.toList with
  | some version => .ok version
  | none =>
    .error (if versionRe value.toList then .intError
      else .valueError "version must be semantic x.y.z")

def recordEvent (event : String) (releaseId : Option String) :
    Except UpdateError (List UpdateEvent) :=
  if isDeviceId request.deviceId = false then .error (.valueError "invalid device id")
  else if request.channel ∉ ["stable", "beta"] ∨ event ∉ ["check", "offered", "no_update",
      "download_failed", "install_failed", "installed"] then
    .error (.valueError "invalid update event")
  else .ok (host.keep store.events ⟨request, event, releaseId⟩)

/-- The release that the channel offers, `none` while the channel is paused. -/
def UpdateStore.activeRelease (row : UpdateChannel) : Option DesktopRelease :=
  if row.paused ∨ row.activeReleaseId.getD "" = "" then none
  else (store.releases.find? fun release => release.id = row.activeReleaseId.getD "").filter
    fun release => release.state = "published"

def DesktopRelease.artifactFor (release : DesktopRelease) : Option ReleaseArtifact :=
  release.artifacts.find? fun item => item.target = request.target ∧ item.arch = request.arch

def decideUpdate (row : UpdateChannel) (current : VersionTuple) (release : DesktopRelease)
    (artifact : ReleaseArtifact) : Except UpdateError (Option UpdateOffer × List UpdateEvent) := do
  let least ← versionOrError row.minSupportedVersion
  let version ← versionOrError release.version
  let eligible := current.Before least ∨
    host.bucket request.deviceId row.rolloutSalt < row.rolloutPercent
  if eligible ∧ (current.Before version ∨ (row.rollback ∧ version ≠ current)) then
    let events ← recordEvent host store request "offered" (some release.id)
    return (some (offerOf host row release artifact (decide (current.Before least))), events)
  else
    let events ← recordEvent host store request "no_update" (some release.id)
    return (none, events)

/-- `record_event` of a request that gets nothing. -/
def noUpdate (releaseId : Option String) :
    Except UpdateError (Option UpdateOffer × List UpdateEvent) := do
  let events ← recordEvent host store request "no_update" releaseId
  return (none, events)

def selectUpdate : Except UpdateError (Option UpdateOffer × List UpdateEvent) := do
  let current ← versionOrError request.currentVersion
  if isDeviceId request.deviceId = false then throw (.valueError "invalid device id")
  match store.channels.find? fun row => row.channel = request.channel with
  | none => throw (.lookupError "channel not found")
  | some row =>
    match store.activeRelease row with
    | none =>
      if row.paused ∨ row.activeReleaseId.getD "" = "" then noUpdate host store request none
      else return (none, store.events)
    | some release =>
      match release.artifactFor request with
      | none => noUpdate host store request (some release.id)
      | some artifact => decideUpdate host store request row current release artifact

end

section

variable {host : UpdateHost} {store : UpdateStore} {request : UpdateRequest} {row : UpdateChannel}
  {client least : SemVer}

theorem version_or_error_plain {value : String} {version : SemVer}
    (plain : Plain value.toList version) :
    ∃ tuple, versionTuple value.toList = some tuple ∧ versionOrError value = .ok tuple := by
  obtain ⟨_, -, tuple, -⟩ := plain_tuple plain.1 plain.2.1 plain.2.2.1
  exact ⟨_, tuple, by rw [versionOrError, tuple]⟩

theorem record_event_ok (device : isDeviceId request.deviceId = true)
    (known : request.channel ∈ ["stable", "beta"]) {event : String}
    (listed : event ∈ ["offered", "no_update"]) (releaseId : Option String) :
    recordEvent host store request event releaseId =
      .ok (host.keep store.events ⟨request, event, releaseId⟩) := by
  rw [recordEvent, if_neg (by simp [device]), if_neg]
  rintro (unknown | other)
  · exact unknown known
  · rcases mem_cons.mp listed with rfl | listed
    · simp at other
    · rw [mem_singleton.mp listed] at other
      simp at other

def Eligible (host : UpdateHost) (request : UpdateRequest) (row : UpdateChannel)
    (client least : SemVer) : Prop :=
  client.Precedes least ∨ host.bucket request.deviceId row.rolloutSalt < row.rolloutPercent

theorem select_update_offers (clientPlain : Plain request.currentVersion.toList client)
    (device : isDeviceId request.deviceId = true) (known : request.channel ∈ ["stable", "beta"])
    (found : (store.channels.find? fun row => row.channel = request.channel) = some row)
    (leastPlain : Plain row.minSupportedVersion.toList least) (leastAlike : client.Alike least)
    (releases : ∀ release ∈ store.activeRelease row, ∃ version,
      Plain release.version.toList version ∧ client.Alike version) (offer : UpdateOffer) :
    (∃ events, selectUpdate host store request = .ok (some offer, events)) ↔
      ∃ release ∈ store.activeRelease row, ∃ artifact ∈ release.artifactFor request, ∃ version,
        Plain release.version.toList version ∧ Eligible host request row client least ∧
        (client.Precedes version ∨ (row.rollback = true ∧ version ≠ client)) ∧
        ∃ forced, (forced = true ↔ client.Precedes least) ∧
          offer = offerOf host row release artifact forced := by
  obtain ⟨current, currentTuple, currentIs⟩ := version_or_error_plain clientPlain
  obtain ⟨minimum, leastTuple, leastIs⟩ := version_or_error_plain leastPlain
  have recorded (event : String) (listed : event ∈ ["offered", "no_update"]) (releaseId) :
      recordEvent host store request event releaseId = _ :=
    record_event_ok device known listed releaseId
  have nothing : ∀ releaseId events, noUpdate host store request releaseId ≠
      .ok (some offer, events) := by
    intro releaseId events same
    simp [noUpdate, recorded "no_update" (by simp), bind, Except.bind, pure, Except.pure] at same
  simp only [selectUpdate, currentIs, device, bind, Except.bind, found, Bool.true_eq_false,
    if_false, pure, Except.pure]
  cases active : store.activeRelease row with
  | none =>
    refine iff_of_false ?_ (by simp)
    rintro ⟨events, same⟩
    dsimp only at same
    split at same
    · exact nothing _ _ same
    · cases same
  | some release =>
    obtain ⟨version, releasePlain, alike⟩ := releases release active
    obtain ⟨tuple, releaseTuple, releaseIs⟩ := version_or_error_plain releasePlain
    cases artifact : release.artifactFor request with
    | none =>
      refine iff_of_false ?_ (by simp [artifact])
      rintro ⟨events, same⟩
      simp only [artifact] at same
      exact nothing _ _ same
    | some item =>
      have forced := tuple_before_iff clientPlain leastPlain leastAlike currentTuple leastTuple
      have newer := tuple_before_iff clientPlain releasePlain alike currentTuple releaseTuple
      have other : tuple ≠ current ↔ version ≠ client := by
        rw [ne_comm, ne_eq, newer.2, ← ne_eq, ne_comm]
      have eligible : (current.Before minimum ∨
          host.bucket request.deviceId row.rolloutSalt < row.rolloutPercent) ↔
            Eligible host request row client least := or_congr_left forced.1
      have chosen : (current.Before tuple ∨ (row.rollback = true ∧ tuple ≠ current)) ↔
          (client.Precedes version ∨ (row.rollback = true ∧ version ≠ client)) :=
        or_congr newer.1 (and_congr_right fun _ => other)
      simp only [artifact, decideUpdate, leastIs, releaseIs, bind, Except.bind, pure,
        Except.pure, recorded "offered" (by simp),
        recorded "no_update" (by simp)]
      constructor
      · rintro ⟨events, same⟩
        split at same
        · next both =>
          cases same
          exact ⟨release, rfl, item, artifact, version, releasePlain, eligible.mp both.1,
            chosen.mp both.2, _, by rw [decide_eq_true_iff, forced.1], rfl⟩
        · cases same
      · rintro ⟨_, ⟨⟩, _, only, named, plain, isEligible, isChosen, isForced, exact, rfl⟩
        cases Option.some.inj (artifact.symm.trans only)
        cases Option.some.inj (releasePlain.2.2.2.symm.trans plain.2.2.2)
        have same : isForced = decide (current.Before minimum) := by
          rw [Bool.eq_iff_iff, exact, decide_eq_true_iff, forced.1]
        refine ⟨host.keep store.events ⟨request, "offered", some release.id⟩, ?_⟩
        rw [if_pos ⟨eligible.mpr isEligible, chosen.mpr isChosen⟩, same]

/-- The tuple of a version without build metadata and long numbers is defined, alike versions are
in their order by precedence, words, numbers of one length and a number with a word that starts with
a letter are alike, and a channel offers its active release, where it has an artifact, to just the
devices that are forced or in the rollout and that it is newer for, or in a rollback another. -/
theorem versions_and_updates : (∀ text, versionRe text = true → '+' ∉ text → Short text →
      ∃ version, Plain text version ∧ (versionTuple text).isSome = true) ∧
    (∀ left right first second one two, Plain left first → Plain right second →
      first.Alike second → versionTuple left = some one → versionTuple right = some two →
      (one.Before two ↔ first.Precedes second)) ∧
    (∀ left right, (isNumber left = false ∧ isNumber right = false ∨
        isNumber left = true ∧ isNumber right = true ∧ left.length = right.length ∨
        isNumber left = true ∧ right.head?.any Char.isAlpha = true ∨
        isNumber right = true ∧ left.head?.any Char.isAlpha = true) → Alike left right) ∧
    ∀ (host : UpdateHost) (store : UpdateStore) (request : UpdateRequest) (row : UpdateChannel)
      (client least : SemVer) (offer : UpdateOffer), Plain request.currentVersion.toList client →
      isDeviceId request.deviceId = true → request.channel ∈ ["stable", "beta"] →
      (store.channels.find? fun row => row.channel = request.channel) = some row →
      Plain row.minSupportedVersion.toList least → client.Alike least →
      (∀ release ∈ store.activeRelease row, ∃ version,
        Plain release.version.toList version ∧ client.Alike version) →
      ((∃ events, selectUpdate host store request = .ok (some offer, events)) ↔
        ∃ release ∈ store.activeRelease row, ∃ artifact ∈ release.artifactFor request, ∃ version,
          Plain release.version.toList version ∧ Eligible host request row client least ∧
          (client.Precedes version ∨ (row.rollback = true ∧ version ≠ client)) ∧
          ∃ forced, (forced = true ↔ client.Precedes least) ∧
            offer = offerOf host row release artifact forced) := by
  refine ⟨?_, ?_, ?_, ?_⟩
  · intro text accepted plain short
    obtain ⟨version, stands, tuple, -⟩ := plain_tuple accepted plain short
    exact ⟨version, stands, by rw [tuple]; rfl⟩
  · intro left right first second one two leftPlain rightPlain alike leftTuple rightTuple
    exact (tuple_before_iff leftPlain rightPlain alike leftTuple rightTuple).1
  · rintro left right (words | numbers | letter | letter)
    · exact alike_words words.1 words.2
    · exact alike_numbers numbers.1 numbers.2.1 numbers.2.2
    · exact (alike_letter letter.1 letter.2).1
    · exact (alike_letter letter.1 letter.2).2
  · intro host store request row client least offer clientPlain device known found leastPlain
      leastAlike releases
    exact select_update_offers clientPlain device known found leastPlain leastAlike releases offer

end

def stableRollback : UpdateStore where
  releases := [⟨"release-1", "1.0.0", "stable", "", "published", some 1, 1,
    [⟨"darwin", "arm64", "https://x", "s", "h", 1⟩]⟩]
  channels := [⟨"stable", some "release-1", 100, "salt", "0.0.0", false, true⟩]
  events := []

def darwinClient : UpdateRequest := ⟨"stable", "darwin", "arm64", "2.0.0", "device-1"⟩

def plainUpdates : UpdateHost := ⟨fun _ => 0, fun _ => "", fun events event => events ++ [event]⟩

def longVersion : List Char := List.replicate 4301 '9' ++ ".0.0".toList

theorem accepted_version_without_tuple :
    (versionRe "1.0.0+build".toList = true ∧ versionTuple "1.0.0+build".toList = none) ∧
    (versionRe longVersion = true ∧ versionTuple longVersion = none) ∧
    (versionTuple "1.0.0-rc.10".toList = some ⟨1, 0, 0, ["rc".toList, "10".toList]⟩ ∧
      versionTuple "1.0.0-rc.9".toList = some ⟨1, 0, 0, ["rc".toList, "9".toList]⟩ ∧
      VersionTuple.Before ⟨1, 0, 0, ["rc".toList, "10".toList]⟩
        ⟨1, 0, 0, ["rc".toList, "9".toList]⟩) ∧
    (selectUpdate plainUpdates stableRollback darwinClient).toOption.bind
      (fun result => result.1.map UpdateOffer.version) = some "1.0.0" := by
  decide +kernel

def candidateRelease : DesktopRelease :=
  ⟨"release-2", "1.0.0-rc.10", "stable", "", "published", some 1, 1,
    [⟨"darwin", "arm64", "https://x", "s", "h", 1⟩]⟩

def stableRow : UpdateChannel := ⟨"stable", some "release-2", 100, "salt", "0.0.0", false, false⟩

def stableCandidate : UpdateStore := ⟨[candidateRelease], [stableRow], []⟩

def candidateClient : UpdateRequest := ⟨"stable", "darwin", "arm64", "1.0.0-rc.1", "device-1"⟩

theorem later_candidate_offered : (VersionTuple.Before ⟨1, 0, 0, ["rc".toList, "1".toList]⟩
        ⟨1, 0, 0, ["rc".toList, "10".toList]⟩ ↔
      SemVer.Precedes ⟨1, 0, 0, some ["rc".toList, "1".toList]⟩
        ⟨1, 0, 0, some ["rc".toList, "10".toList]⟩) ∧
    (∃ version, Plain "1.0.0-rc.1".toList version) ∧ Alike "1".toList "2".toList ∧
    ∃ events, selectUpdate plainUpdates stableCandidate candidateClient =
      .ok (some (offerOf plainUpdates stableRow candidateRelease
        ⟨"darwin", "arm64", "https://x", "s", "h", 1⟩ false), events) := by
  have first : Plain "1.0.0-rc.1".toList ⟨1, 0, 0, some ["rc".toList, "1".toList]⟩ := by
    decide +kernel
  have tenth : Plain "1.0.0-rc.10".toList ⟨1, 0, 0, some ["rc".toList, "10".toList]⟩ := by
    decide +kernel
  have least : Plain "0.0.0".toList ⟨0, 0, 0, none⟩ := by decide +kernel
  have alike : SemVer.Alike ⟨1, 0, 0, some ["rc".toList, "1".toList]⟩
      ⟨1, 0, 0, some ["rc".toList, "10".toList]⟩ := by
    rintro _ _ _ _ ⟨⟩ _ ⟨⟩
    simp [FirstAlike, IdentifierSame, Alike, isNumber, numberOf]
  have below : SemVer.Precedes ⟨1, 0, 0, some ["rc".toList, "1".toList]⟩
      ⟨1, 0, 0, some ["rc".toList, "10".toList]⟩ := by
    refine .inr ⟨rfl, .inr ⟨rfl, .inr ⟨rfl, .inr ⟨?_, .inl ?_⟩⟩⟩⟩
    · simp [IdentifierSame]
    · simp [IdentifierBefore, isNumber, numberOf]
  obtain ⟨stands, ordered, alikes, offers⟩ := versions_and_updates
  refine ⟨?_, ?_, ?_, ?_⟩
  · exact ordered _ _ _ _ _ _ first tenth alike (by decide +kernel) (by decide +kernel)
  · obtain ⟨version, plain, -⟩ := stands "1.0.0-rc.1".toList first.1 first.2.1 first.2.2.1
    exact ⟨version, plain⟩
  · exact alikes _ _ (.inr (.inl (by decide)))
  · have above : ¬ SemVer.Precedes ⟨1, 0, 0, some ["rc".toList, "1".toList]⟩ ⟨0, 0, 0, none⟩ := by
      simp [SemVer.Precedes]
    refine (offers plainUpdates stableCandidate candidateClient stableRow _ _ _ first
      (by decide +kernel) (by decide) rfl least ?_ ?_).mpr ?_
    · rintro major
      cases major
    · rintro release ⟨⟩
      exact ⟨_, tenth, alike⟩
    · exact ⟨candidateRelease, rfl, _, rfl, _, tenth, .inr (by decide), .inl below, false,
        iff_of_false Bool.false_ne_true above, rfl⟩

end AgentMate.Updates
