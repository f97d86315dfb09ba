import Mathlib.Data.Int.ConditionallyCompleteOrder
import Mathlib.Data.Nat.Log
import Mathlib.Data.Rat.Floor
import Mathlib.Tactic.Linarith
import Mathlib.Tactic.Ring

/-!
# Natural numbers as binary64 values

A float with 53 significant bits holds a natural number exactly up to `2 ^ 53`; above
that, and after a product, the nearest such value is taken, ties going to the even one.
The rounding of a natural number never adds more than one part in `2 ^ 52`; the rounding of a
rational number keeps the order.
-/

namespace AgentMate.RoundedDoubles

def spacing (value : Nat) : Nat := 2 ^ (value.log2 - 52)

def roundDouble (value : Nat) : Nat :=
  let low := value / spacing value
  let rest := value % spacing value
  if spacing value < 2 * rest ∨ (spacing value = 2 * rest ∧ low % 2 = 1) then
    (low + 1) * spacing value
  else low * spacing value

theorem spacing_le (value : Nat) (rounded : spacing value ≠ 1) :
    spacing value ≤ value / 2 ^ 52 := by
  have large : 52 < value.log2 := by
    by_contra small
    exact rounded (by simp [spacing, Nat.sub_eq_zero_of_le (not_lt.mp small)])
  have nonzero : value ≠ 0 := by
    rintro rfl
    simp at large
  have bits : spacing value * 2 ^ 52 = 2 ^ value.log2 := by
    rw [spacing, ← pow_add, Nat.sub_add_cancel large.le]
  rw [Nat.le_div_iff_mul_le (Nat.two_pow_pos 52), bits]
  exact Nat.log2_self_le nonzero

theorem round_double_le (value : Nat) : roundDouble value ≤ value + value / 2 ^ 52 := by
  have split : spacing value * (value / spacing value) + value % spacing value = value :=
    Nat.div_add_mod value (spacing value)
  have down : value / spacing value * spacing value ≤ value := Nat.div_mul_le_self value _
  by_cases exact_value : spacing value = 1
  · simp [roundDouble, exact_value, Nat.mod_one]
  · have unit := spacing_le value exact_value
    have up : (value / spacing value + 1) * spacing value ≤ value + value / 2 ^ 52 := by
      rw [Nat.add_mul, Nat.one_mul]
      exact Nat.add_le_add down unit
    rw [roundDouble]
    split_ifs
    · exact up
    · exact down.trans (Nat.le_add_right _ _)

/-- The integer part of the product of a natural number with `mantissa / 2 ^ 53`. -/
def scaleDown (mantissa value : Nat) : Nat :=
  roundDouble (roundDouble value * mantissa) / 2 ^ 53

/-- A factor below one half-unit less than one never scales a number up. -/
theorem scale_down_le {mantissa : Nat} (below : mantissa ≤ 2 ^ 52 + 2 ^ 51 + 2 ^ 50)
    (value : Nat) : scaleDown mantissa value ≤ value := by
  have first := round_double_le value
  have second := round_double_le (roundDouble value * mantissa)
  have product : roundDouble value * mantissa ≤
      (value + value / 2 ^ 52) * (2 ^ 52 + 2 ^ 51 + 2 ^ 50) := Nat.mul_le_mul first below
  rw [scaleDown]
  omega

/-- The distance of neighbouring 53-bit values around a rational number from 1 on. -/
def ratioSpacing (value : ℚ) : ℚ := 2 ^ ⌊value⌋.toNat.log2 / 2 ^ 52

def nearestEven (value : ℚ) : ℤ :=
  if 1 / 2 < value - ⌊value⌋ ∨ (value - ⌊value⌋ = 1 / 2 ∧ ⌊value⌋ % 2 = 1) then ⌊value⌋ + 1
  else ⌊value⌋

def roundRatio (value : ℚ) : ℚ := nearestEven (value / ratioSpacing value) * ratioSpacing value

theorem ratio_spacing_pos (value : ℚ) : 0 < ratioSpacing value := by
  unfold ratioSpacing
  positivity

theorem nearest_even_int (value : ℤ) : nearestEven value = value := by
  rw [nearestEven, Int.floor_intCast, sub_self]
  norm_num

theorem nearest_even_mono : Monotone nearestEven := by
  intro low high le
  have floors : ⌊low⌋ ≤ ⌊high⌋ := Int.floor_mono le
  rcases floors.lt_or_eq with less | same
  · have upper : nearestEven low ≤ ⌊low⌋ + 1 := by
      unfold nearestEven
      split <;> omega
    have lower : ⌊high⌋ ≤ nearestEven high := by
      unfold nearestEven
      split <;> omega
    omega
  · unfold nearestEven
    rw [same]
    split
    · next up =>
      have still : 1 / 2 < high - ⌊high⌋ ∨ (high - ⌊high⌋ = 1 / 2 ∧ ⌊high⌋ % 2 = 1) := by
        rcases up with above | ⟨tie, odd⟩
        · exact Or.inl (by linarith)
        · rcases le.lt_or_eq with less | equal
          · exact Or.inl (by linarith)
          · exact Or.inr ⟨by linarith, odd⟩
      rw [if_pos still]
    · split <;> omega

/-- Every number lies below the power of two that follows its spacing's. -/
theorem round_ratio_le (value : ℚ) : roundRatio value ≤ 2 ^ (⌊value⌋.toNat.log2 + 1) := by
  have positive := ratio_spacing_pos value
  have below : value ≤ 2 ^ (⌊value⌋.toNat.log2 + 1) := by
    have floor : ⌊value⌋ + 1 ≤ (2 ^ (⌊value⌋.toNat.log2 + 1) : ℕ) := by
      have bits := Nat.lt_log2_self (n := ⌊value⌋.toNat)
      omega
    have cast : (⌊value⌋ : ℚ) + 1 ≤ 2 ^ (⌊value⌋.toNat.log2 + 1) := by exact_mod_cast floor
    exact (Int.lt_floor_add_one value).le.trans cast
  have units : (2 : ℚ) ^ (⌊value⌋.toNat.log2 + 1) = (2 ^ 53 : ℤ) * ratioSpacing value := by
    rw [ratioSpacing, pow_succ]
    push_cast
    ring
  have near : nearestEven (value / ratioSpacing value) ≤ (2 ^ 53 : ℤ) := by
    rw [← nearest_even_int (2 ^ 53)]
    apply nearest_even_mono
    rw [div_le_iff₀ positive, ← units]
    exact below
  rw [units, roundRatio]
  exact mul_le_mul_of_nonneg_right (by exact_mod_cast near) positive.le

theorem le_round_ratio {value : ℚ} (bits : ⌊value⌋.toNat.log2 ≠ 0) :
    2 ^ ⌊value⌋.toNat.log2 ≤ roundRatio value := by
  have positive := ratio_spacing_pos value
  have above : (2 : ℚ) ^ ⌊value⌋.toNat.log2 ≤ value := by
    have nonzero : ⌊value⌋.toNat ≠ 0 := by
      intro zero
      rw [zero] at bits
      exact bits Nat.log2_zero
    have floor : ((2 ^ ⌊value⌋.toNat.log2 : ℕ) : ℤ) ≤ ⌊value⌋ := by
      have self := Nat.log2_self_le nonzero
      omega
    have cast : (2 : ℚ) ^ ⌊value⌋.toNat.log2 ≤ (⌊value⌋ : ℚ) := by exact_mod_cast floor
    exact cast.trans (Int.floor_le value)
  have units : (2 : ℚ) ^ ⌊value⌋.toNat.log2 = (2 ^ 52 : ℤ) * ratioSpacing value := by
    rw [ratioSpacing]
    push_cast
    ring
  have near : (2 ^ 52 : ℤ) ≤ nearestEven (value / ratioSpacing value) := by
    rw [← nearest_even_int (2 ^ 52)]
    apply nearest_even_mono
    rw [le_div_iff₀ positive, ← units]
    exact above
  rw [units, roundRatio]
  exact mul_le_mul_of_nonneg_right (by exact_mod_cast near) positive.le

/-- Within one power of two the spacing is the same; from one to the next the power of two
between them separates the rounded values. -/
theorem round_ratio_mono : Monotone roundRatio := by
  intro low high le
  have floors : ⌊low⌋.toNat ≤ ⌊high⌋.toNat := Int.toNat_le_toNat (Int.floor_mono le)
  have bits : ⌊low⌋.toNat.log2 ≤ ⌊high⌋.toNat.log2 := by
    simp only [Nat.log2_eq_log_two]
    exact Nat.log_mono_right floors
  rcases bits.lt_or_eq with less | same
  · have between : (2 : ℚ) ^ (⌊low⌋.toNat.log2 + 1) ≤ 2 ^ ⌊high⌋.toNat.log2 :=
      pow_le_pow_right₀ one_le_two less
    exact (round_ratio_le low).trans (between.trans (le_round_ratio (by omega)))
  · have spacing : ratioSpacing low = ratioSpacing high := by
      rw [ratioSpacing, ratioSpacing, same]
    have positive := ratio_spacing_pos high
    have near : nearestEven (low / ratioSpacing high) ≤ nearestEven (high / ratioSpacing high) :=
      nearest_even_mono (div_le_div_of_nonneg_right le positive.le)
    rw [roundRatio, roundRatio, spacing]
    exact mul_le_mul_of_nonneg_right (by exact_mod_cast near) positive.le

end AgentMate.RoundedDoubles
