import Mathlib.Data.Nat.Cast.Order.Field
import TunnelSettings.Number.Shortest
import TunnelSettings.Proofs.Rounding

/-!
The shortest decimal of a binary number. Seventeen digits are always enough for a decimal that is rounded
to the number, so the search for the fewest digits ends with one that is.
-/
namespace TunnelSettings

open Binary64

namespace Interval

/-- A rational number between the ends of an interval; an end itself only if the interval is closed. -/
def Has (i : Interval) (x : ℚ) : Prop :=
  i.low / i.den ≤ x ∧ x ≤ i.high / i.den ∧ (x = i.low / i.den ∨ x = i.high / i.den → i.closed = true)

theorem holds_iff (i : Interval) (pos : 0 < i.den) {num den : Nat} (pos_den : 0 < den) :
    i.holds num den = true ↔ i.Has (num / den) := by
  have pos : (0 : ℚ) < i.den := by exact_mod_cast pos
  have pos_den : (0 : ℚ) < den := by exact_mod_cast pos_den
  have low : (i.low / i.den : ℚ) ≤ num / den ↔ i.low * den ≤ num * i.den := by
    rw [div_le_div_iff₀ pos pos_den]
    exact_mod_cast Iff.rfl
  have high : (num / den : ℚ) ≤ i.high / i.den ↔ num * i.den ≤ i.high * den := by
    rw [div_le_div_iff₀ pos_den pos]
    exact_mod_cast Iff.rfl
  have at_low : (num / den : ℚ) = i.low / i.den ↔ num * i.den = i.low * den := by
    rw [div_eq_div_iff pos_den.ne' pos.ne']
    exact_mod_cast Iff.rfl
  have at_high : (num / den : ℚ) = i.high / i.den ↔ num * i.den = i.high * den := by
    rw [div_eq_div_iff pos_den.ne' pos.ne']
    exact_mod_cast Iff.rfl
  rw [Has, low, high, at_low, at_high, holds]
  cases closed : i.closed
  · simp only [Bool.false_eq_true, if_false, Bool.and_eq_true, decide_eq_true_eq, imp_false, not_or]
    constructor
    · rintro ⟨above, below⟩
      exact ⟨above.le, below.le, above.ne', below.ne⟩
    · rintro ⟨above, below, not_low, not_high⟩
      exact ⟨above.lt_of_ne' not_low, below.lt_of_ne not_high⟩
  · simp only [if_true, Bool.and_eq_true, decide_eq_true_eq, implies_true, and_true]

theorem den_around (m : Nat) (e : Int) : 0 < (around m e).den := by
  change 0 < if 0 ≤ e then 4 else 4 * Nat.pow 2 (-e).toNat
  split
  · decide
  · exact Nat.mul_pos (by decide) (Nat.pow_pos (by decide))

/-- The scale of the interval around a number is a quarter of the unit in its last place. -/
theorem scale_around (e : Int) :
    (((if 0 ≤ e then Nat.pow 2 e.toNat else 1 : Nat) : ℚ) /
      (if 0 ≤ e then 4 else 4 * Nat.pow 2 (-e).toNat : Nat)) = 2 ^ e / 4 := by
  split
  · next h => rw [two_pow_toNat h]; norm_num
  · next h =>
    rw [Nat.cast_mul, two_pow_toNat (by omega), zpow_neg]
    field_simp
    norm_num

theorem low_around {m : Nat} (e : Int) (pos : 0 < m) :
    ((around m e).low / (around m e).den : ℚ) = (m - gap m e) * 2 ^ e := by
  have below (k : Nat) (h : k ≤ 2) : ((4 * m - k : Nat) : ℚ) = 4 * m - k := by
    rw [Nat.cast_sub (by omega)]
    push_cast
    rfl
  rw [around, Nat.cast_mul, mul_div_assoc, scale_around, gap]
  by_cases power : m = Nat.pow 2 52 ∧ -1074 < e
  · rw [if_pos (by simpa using power), if_pos power, below 1 (by decide)]
    push_cast
    ring
  · rw [if_neg (by simpa using power), if_neg power, below 2 (by decide)]
    push_cast
    ring

theorem high_around (m : Nat) (e : Int) :
    ((around m e).high / (around m e).den : ℚ) = (m + 1 / 2) * 2 ^ e := by
  rw [around, Nat.cast_mul, mul_div_assoc, scale_around]
  push_cast
  ring

theorem value_around (m : Nat) (e : Int) :
    ((around m e).value / (around m e).den : ℚ) = m * 2 ^ e := by
  rw [around, Nat.cast_mul, mul_div_assoc, scale_around]
  push_cast
  ring

/-- The interval around a number has the rational numbers that are rounded to it. -/
theorem has_around_iff {m : Nat} (e : Int) (pos : 0 < m) (x : ℚ) : (around m e).Has x ↔ RoundsTo x m e := by
  have closed : (around m e).closed = true ↔ m % 2 = 0 := by
    rw [around]
    exact decide_eq_true_iff
  rw [Has, low_around e pos, high_around, closed]
  exact ⟨fun ⟨low, high, even⟩ => ⟨low, high, even⟩, fun h => ⟨h.low, h.high, h.even⟩⟩

/-! ### Multiples of a power of ten -/

theorem ten_step (place : Int) :
    ((Nat.pow 10 place.toNat : Nat) / (Nat.pow 10 (-place).toNat : Nat) : ℚ) = 10 ^ place := by
  by_cases h : 0 ≤ place
  · have : (-place).toNat = 0 := by omega
    rw [ten_pow_toNat h, this, Nat.pow_eq, pow_zero, Nat.cast_one, div_one]
  · have : place.toNat = 0 := by omega
    rw [ten_pow_toNat (by omega : 0 ≤ -place), this, Nat.pow_eq, pow_zero, Nat.cast_one, zpow_neg, one_div,
      inv_inv]

theorem pow_ten_pos (k : Nat) : 0 < Nat.pow 10 k := Nat.pow_pos (by decide)

theorem inside_iff (i : Interval) (pos : 0 < i.den) (place : Int) (n : Nat) :
    i.holds (n * Nat.pow 10 place.toNat) (Nat.pow 10 (-place).toNat) = true ↔ i.Has (n * 10 ^ place) := by
  rw [holds_iff i pos (pow_ten_pos _), Nat.cast_mul, mul_div_assoc, ten_step]

theorem nearer_eq (num den : Nat) :
    (if (2 * (num % den) < den || (2 * (num % den) = den && num / den % 2 = 0) : Bool) then num / den
      else num / den + 1) = roundHalfEven num den := by
  rw [roundHalfEven]
  simp only [Bool.or_eq_true, Bool.and_eq_true, decide_eq_true_eq]
  split <;> split <;> omega

/-- The multiple nearest to the value, in steps. -/
def nearest (i : Interval) (place : Int) : Nat :=
  roundHalfEven (i.value * Nat.pow 10 (-place).toNat) (i.den * Nat.pow 10 place.toNat)

/-- The nearest multiple is tried first, and then one other. -/
theorem onGrid_eq (i : Interval) (place : Int) : ∃ other, i.onGrid place =
    if i.holds (i.nearest place * Nat.pow 10 place.toNat) (Nat.pow 10 (-place).toNat) then
      some (i.nearest place)
    else if i.holds (other * Nat.pow 10 place.toNat) (Nat.pow 10 (-place).toNat) then some other
    else none := by
  rw [nearest, ← nearer_eq]
  exact ⟨_, rfl⟩

/-- A multiple that is found is in the interval. -/
theorem has_of_onGrid {i : Interval} (pos : 0 < i.den) {place : Int} {n : Nat}
    (found : i.onGrid place = some n) : i.Has (n * 10 ^ place) := by
  obtain ⟨other, eq⟩ := i.onGrid_eq place
  rw [← inside_iff i pos]
  rw [eq] at found
  split at found
  · next inside =>
    rw [← Option.some.inj found]
    exact inside
  split at found
  · next inside =>
    rw [← Option.some.inj found]
    exact inside
  · cases found

/-- A multiple is found if all numbers that are at most half a step from the value are in the interval. -/
theorem exists_onGrid {i : Interval} (pos : 0 < i.den) {place : Int}
    (wide : ∀ x : ℚ, |x - i.value / i.den| ≤ 10 ^ place / 2 → i.Has x) : ∃ n, i.onGrid place = some n := by
  have step : (0 : ℚ) < 10 ^ place := zpow_pos (by norm_num) place
  have near : |(i.nearest place : ℚ) * 10 ^ place - i.value / i.den| ≤ 10 ^ place / 2 := by
    have near := abs_roundHalfEven_sub_le (i.value * Nat.pow 10 (-place).toNat)
      (i.den * Nat.pow 10 place.toNat) (Nat.mul_pos pos (pow_ten_pos _))
    have quotient : ((i.value * Nat.pow 10 (-place).toNat : Nat) / (i.den * Nat.pow 10 place.toNat : Nat) : ℚ) =
        i.value / i.den / 10 ^ place := by
      rw [← ten_step, Nat.cast_mul, Nat.cast_mul]
      field_simp
    rw [quotient] at near
    have scaled := mul_le_mul_of_nonneg_right near step.le
    rw [← abs_of_pos step, ← abs_mul, abs_of_pos step, sub_mul, div_mul_cancel₀ _ step.ne'] at scaled
    refine scaled.trans (le_of_eq ?_)
    ring
  obtain ⟨other, eq⟩ := i.onGrid_eq place
  rw [eq, if_pos ((inside_iff i pos place _).2 (wide _ near))]
  exact ⟨_, rfl⟩

end Interval

/-! ### The search -/

theorem dropZeros_eq (fuel n : Nat) : (dropZeros fuel n).1 * 10 ^ (dropZeros fuel n).2 = n := by
  induction fuel generalizing n with
  | zero => exact Nat.mul_one n
  | succ fuel ih =>
    rw [dropZeros]
    split
    · next zero =>
      dsimp only
      rw [Nat.pow_succ, ← Nat.mul_assoc, ih]
      omega
    · exact Nat.mul_one n

/-- A positive quotient is at least the power of ten below its size. -/
theorem ten_pow_size_le {num den : Nat} (pos_num : 0 < num) (pos_den : 0 < den) :
    (10 : ℚ) ^ (decimalSize num den - 1) ≤ num / den := by
  have pos_num' : (0 : ℚ) < num := by exact_mod_cast pos_num
  have pos_den' : (0 : ℚ) < den := by exact_mod_cast pos_den
  rw [decimalSize]
  split
  · next large =>
    have whole : 0 < num / den := Nat.div_pos large pos_den
    rw [decimalLength, if_neg whole.ne']
    exact (length_toString_bounds whole).1.trans Nat.cast_div_le
  · next small =>
    have short : (den - 1) / num < 10 ^ decimalLength ((den - 1) / num) := by
      rw [decimalLength]
      split
      · next zero => rw [zero]; decide
      · next some_digits =>
        have := (length_toString_bounds (Nat.pos_of_ne_zero some_digits)).2
        rw [zpow_natCast] at this
        exact_mod_cast this
    have : den ≤ 10 ^ decimalLength ((den - 1) / num) * num := by
      have := (Nat.div_lt_iff_lt_mul pos_num).1 short
      omega
    rw [sub_sub_cancel_left, zpow_neg, zpow_natCast, le_div_iff₀ pos_den', inv_mul_le_iff₀ (by positivity)]
    exact_mod_cast this

/-- Seventeen digits are fine enough for a decimal that is rounded to a number. -/
theorem roundsTo_of_near {m : Nat} {e : Int} (canonical : Canonical m e) (size : Int)
    (bound : (10 : ℚ) ^ (size - 1) ≤ m * 2 ^ e) (x : ℚ) (near : |x - m * 2 ^ e| ≤ 10 ^ (size - 17) / 2) :
    RoundsTo x m e := by
  have unit := two_zpow_pos e
  have few : (m : ℚ) + 1 ≤ (Nat.pow 2 53 : Nat) := by exact_mod_cast canonical.1
  have fine : (m : ℚ) / (2 * 10 ^ 16) < gap m e := by
    rw [gap]
    split
    · next power =>
      rw [power.1]
      norm_num
    · rw [div_lt_iff₀ (by norm_num)]
      push_cast at few
      linarith
  have strict : |x - m * 2 ^ e| < gap m e * 2 ^ e := by
    calc |x - m * 2 ^ e| ≤ 10 ^ (size - 17) / 2 := near
      _ = 10 ^ (size - 1) / (2 * 10 ^ 16) := by
        rw [show size - 17 = size - 1 - (16 : Nat) by omega, zpow_sub₀ (by norm_num), zpow_natCast]
        ring
      _ ≤ m * 2 ^ e / (2 * 10 ^ 16) := by gcongr
      _ = m / (2 * 10 ^ 16) * 2 ^ e := by ring
      _ < gap m e * 2 ^ e := by gcongr
  obtain ⟨above, below⟩ := abs_lt.1 strict
  have half : gap m e * 2 ^ e ≤ 1 / 2 * 2 ^ e := by
    gcongr
    exact gap_le m e
  have low : (m - gap m e) * 2 ^ e < x := by linarith
  have high : x < (m + 1 / 2) * 2 ^ e := by linarith
  exact ⟨low.le, high.le, fun tie => absurd tie (not_or.2 ⟨low.ne', high.ne⟩)⟩

theorem value_around_pos {m : Nat} (e : Int) (pos : 0 < m) : 0 < (Interval.around m e).value := by
  change 0 < 4 * m * if 0 ≤ e then Nat.pow 2 e.toNat else 1
  refine Nat.mul_pos (by omega) ?_
  split
  · exact Nat.pow_pos (by decide)
  · decide

/-- The search ends with a decimal in the interval if one of at most seventeen digits is there. -/
theorem shortest_spec {m : Nat} {e : Int}
    (found : ∃ n, (Interval.around m e).onGrid
      (decimalSize (Interval.around m e).value (Interval.around m e).den - (17 : Nat)) = some n) :
    (Interval.around m e).Has ((shortest m e).1 * 10 ^ (shortest m e).2) := by
  obtain ⟨n, found⟩ := found
  rw [shortest]
  cases result : (List.range' 1 17).findSome? _ with
  | none =>
    have missed := List.findSome?_eq_none_iff.1 result 17 (by decide)
    rw [found] at missed
    cases missed
  | some r =>
    obtain ⟨count, _, hit⟩ := List.exists_of_findSome?_eq_some result
    obtain ⟨n, on, rfl⟩ := Option.map_eq_some_iff.1 hit
    have inside := Interval.has_of_onGrid (Interval.den_around m e) on
    have same := congrArg (fun k : Nat => (k : ℚ)) (dropZeros_eq 20 n)
    push_cast at same
    rw [Option.getD_some, zpow_add₀ (by norm_num), zpow_natCast]
    rw [← same] at inside
    convert inside using 1
    ring

/-- The shortest decimal of a positive number is rounded to the number. -/
theorem roundsTo_shortest {m : Nat} {e : Int} (pos : 0 < m) (canonical : Canonical m e) :
    RoundsTo ((shortest m e).1 * 10 ^ (shortest m e).2) m e := by
  have den := Interval.den_around m e
  have bound := ten_pow_size_le (value_around_pos e pos) den
  rw [Interval.value_around] at bound
  refine (Interval.has_around_iff e pos _).1 (shortest_spec (Interval.exists_onGrid den fun x near => ?_))
  rw [Interval.value_around] at near
  exact (Interval.has_around_iff e pos x).2 (roundsTo_of_near canonical _ bound x near)

/-- The shortest decimal of a number is read as the number. -/
theorem ofDecimal_shortest (negative : Bool) {m : Nat} {e : Int} (pos : 0 < m) (canonical : Canonical m e) :
    ofDecimal negative (shortest m e).1 (shortest m e).2 = .finite negative m e canonical :=
  ofDecimal_eq negative canonical pos (roundsTo_shortest pos canonical)

end TunnelSettings
