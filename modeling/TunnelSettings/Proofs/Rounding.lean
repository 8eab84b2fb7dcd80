import Mathlib.Algebra.Order.Field.Power
import Mathlib.Data.Nat.Log
import Mathlib.Data.Rat.Cast.Order
import Mathlib.Tactic.FieldSimp
import Mathlib.Tactic.GCongr
import Mathlib.Tactic.Linarith
import Mathlib.Tactic.NormNum
import Mathlib.Tactic.Positivity
import Mathlib.Tactic.Ring
import TunnelSettings.Number.Binary64

/-!
Rounding to binary numbers. The rational numbers that round to a binary number are those between the
middles to its neighbours, and every such number is rounded to it.
-/
namespace TunnelSettings

/-! ### Whole numbers -/

theorem roundHalfEven_spec (num den : Nat) (pos : 0 < den) :
    2 * (roundHalfEven num den * den) ≤ 2 * num + den ∧ 2 * num ≤ 2 * (roundHalfEven num den * den) + den := by
  have split := Nat.div_add_mod num den
  have below := Nat.mod_lt num pos
  rw [Nat.mul_comm] at split
  rw [roundHalfEven]
  split
  · next up =>
    rw [Bool.or_eq_true, Bool.and_eq_true, decide_eq_true_eq, decide_eq_true_eq] at up
    rw [Nat.add_mul]
    omega
  · next down =>
    rw [Bool.or_eq_true, Bool.and_eq_true, decide_eq_true_eq, decide_eq_true_eq] at down
    omega

/-- A whole number that is nearest to a quotient, and even if another one is as near, is what the quotient is
rounded to. -/
theorem roundHalfEven_eq {num den n : Nat} (pos : 0 < den) (low : 2 * (n * den) ≤ 2 * num + den)
    (high : 2 * num ≤ 2 * (n * den) + den)
    (even : 2 * (n * den) = 2 * num + den ∨ 2 * num = 2 * (n * den) + den → n % 2 = 0) :
    roundHalfEven num den = n := by
  have split := Nat.div_add_mod num den
  have below := Nat.mod_lt num pos
  rw [Nat.mul_comm] at split
  have upper : n ≤ num / den + 1 := by
    by_contra beyond
    have := Nat.mul_le_mul_right den (Nat.lt_of_not_le beyond)
    have : (num / den + 1).succ * den = num / den * den + 2 * den := by
      rw [Nat.succ_mul, Nat.add_mul]
      ring
    omega
  have lower : num / den ≤ n := by
    by_contra under
    have := Nat.mul_le_mul_right den (Nat.lt_of_not_le under)
    have : n.succ * den = n * den + den := Nat.succ_mul n den
    omega
  rw [roundHalfEven]
  obtain rfl | rfl : n = num / den ∨ n = num / den + 1 := by omega
  · rw [if_neg]
    rw [Bool.or_eq_true, Bool.and_eq_true, decide_eq_true_eq, decide_eq_true_eq, decide_eq_true_eq]
    omega
  · rw [if_pos]
    rw [Bool.or_eq_true, Bool.and_eq_true, decide_eq_true_eq, decide_eq_true_eq, decide_eq_true_eq]
    rw [Nat.add_mul] at *
    omega

/-- How near a quotient is to the whole number that it is rounded to. -/
theorem abs_roundHalfEven_sub_le (num den : Nat) (pos : 0 < den) :
    |(roundHalfEven num den : ℚ) - num / den| ≤ 1 / 2 := by
  obtain ⟨low, high⟩ := roundHalfEven_spec num den pos
  have pos : (0 : ℚ) < den := by exact_mod_cast pos
  have low : 2 * ((roundHalfEven num den : ℚ) * den) ≤ 2 * num + den := by exact_mod_cast low
  have high : 2 * (num : ℚ) ≤ 2 * (roundHalfEven num den * den) + den := by exact_mod_cast high
  rw [abs_le]
  constructor
  · rw [← sub_nonneg]
    have : (roundHalfEven num den : ℚ) - num / den - -(1 / 2) =
        (2 * (roundHalfEven num den * den) + den - 2 * num) / (2 * den) := by
      field_simp
      ring
    rw [this]
    apply div_nonneg <;> linarith
  · rw [← sub_nonneg]
    have : (1 / 2 : ℚ) - (roundHalfEven num den - num / den) =
        (2 * num + den - 2 * (roundHalfEven num den * den)) / (2 * den) := by
      field_simp
      ring
    rw [this]
    apply div_nonneg <;> linarith

theorem roundHalfEven_eq_of_near {num den n : Nat} (pos : 0 < den) (low : (n : ℚ) - 1 / 2 ≤ num / den)
    (high : (num : ℚ) / den ≤ n + 1 / 2)
    (even : (num : ℚ) / den = n - 1 / 2 ∨ (num : ℚ) / den = n + 1 / 2 → n % 2 = 0) :
    roundHalfEven num den = n := by
  have pos' : (0 : ℚ) < den := by exact_mod_cast pos
  rw [le_div_iff₀ pos'] at low
  rw [div_le_iff₀ pos'] at high
  rw [div_eq_iff pos'.ne', div_eq_iff pos'.ne'] at even
  refine roundHalfEven_eq pos ?_ ?_ fun tie => even ?_
  · have : 2 * ((n : ℚ) * den) ≤ 2 * num + den := by linarith
    exact_mod_cast this
  · have : 2 * (num : ℚ) ≤ 2 * (n * den) + den := by linarith
    exact_mod_cast this
  · rcases tie with tie | tie
    · left
      have tie : 2 * ((n : ℚ) * den) = 2 * num + den := by exact_mod_cast tie
      linarith
    · right
      have tie : 2 * (num : ℚ) = 2 * (n * den) + den := by exact_mod_cast tie
      linarith

namespace Binary64

/-! ### Units and exponents -/

theorem two_pow_toNat {e : Int} (h : 0 ≤ e) : ((Nat.pow 2 e.toNat : Nat) : ℚ) = 2 ^ e := by
  have same : (2 : ℚ) ^ e = 2 ^ (e.toNat : Int) := by rw [Int.toNat_of_nonneg h]
  rw [same, zpow_natCast]
  exact Nat.cast_pow 2 e.toNat

theorem two_zpow_pos (e : Int) : (0 : ℚ) < 2 ^ e := zpow_pos (by norm_num) e

theorem exists_inUnits (num den : Nat) (e : Int) (pos : 0 < den) :
    ∃ a b, 0 < b ∧ inUnits num den e = roundHalfEven a b ∧ (a / b : ℚ) = num / den / 2 ^ e := by
  by_cases h : 0 ≤ e
  · refine ⟨num, den * Nat.pow 2 e.toNat, Nat.mul_pos pos (Nat.pow_pos (by decide)), by rw [inUnits, if_pos h],
      ?_⟩
    rw [Nat.cast_mul, two_pow_toNat h, div_div]
  · refine ⟨num * Nat.pow 2 (-e).toNat, den, pos, by rw [inUnits, if_neg h], ?_⟩
    rw [Nat.cast_mul, two_pow_toNat (by omega), zpow_neg]
    field_simp

theorem inUnits_eq {num den n : Nat} {e : Int} (pos : 0 < den)
    (low : ((n : ℚ) - 1 / 2) * 2 ^ e ≤ num / den) (high : (num : ℚ) / den ≤ (n + 1 / 2) * 2 ^ e)
    (even : (num : ℚ) / den = (n - 1 / 2) * 2 ^ e ∨ (num : ℚ) / den = (n + 1 / 2) * 2 ^ e → n % 2 = 0) :
    inUnits num den e = n := by
  obtain ⟨a, b, pos_b, eq, value⟩ := exists_inUnits num den e pos
  have unit := two_zpow_pos e
  rw [eq]
  refine roundHalfEven_eq_of_near pos_b ?_ ?_ ?_
  · rwa [value, le_div_iff₀ unit]
  · rwa [value, div_le_iff₀ unit]
  · rwa [value, div_eq_iff unit.ne', div_eq_iff unit.ne']

theorem two_zpow_lt {a b : Int} : (2 : ℚ) ^ a < 2 ^ b ↔ a < b := zpow_lt_zpow_iff_right₀ (by norm_num)

theorem two_zpow_le {a b : Int} : (2 : ℚ) ^ a ≤ 2 ^ b ↔ a ≤ b := zpow_le_zpow_iff_right₀ (by norm_num)

/-- A positive number lies between two powers of two. -/
theorem log2_bounds {n : Nat} (pos : 0 < n) :
    (2 : ℚ) ^ (n.log2 : Int) ≤ n ∧ (n : ℚ) < 2 ^ ((n.log2 : Int) + 1) := by
  constructor
  · rw [zpow_natCast]
    exact_mod_cast Nat.log2_self_le pos.ne'
  · have := Nat.lt_log2_self (n := n)
    rw [← Int.natCast_succ, zpow_natCast]
    exact_mod_cast this

/-- A quotient lies between powers of two around the quotient of those below its terms. -/
theorem ratio_bounds {num den : Nat} (pos_num : 0 < num) (pos_den : 0 < den) :
    (2 : ℚ) ^ ((num.log2 : Int) - den.log2 - 1) < num / den ∧
      (num / den : ℚ) < 2 ^ ((num.log2 : Int) - den.log2 + 1) := by
  obtain ⟨num_low, num_high⟩ := log2_bounds pos_num
  obtain ⟨den_low, den_high⟩ := log2_bounds pos_den
  have pos : (0 : ℚ) < den := by exact_mod_cast pos_den
  have unit := two_zpow_pos
  constructor
  · rw [lt_div_iff₀ pos]
    calc (2 : ℚ) ^ ((num.log2 : Int) - den.log2 - 1) * den
        < 2 ^ ((num.log2 : Int) - den.log2 - 1) * 2 ^ ((den.log2 : Int) + 1) := by gcongr
      _ = 2 ^ (num.log2 : Int) := by
        rw [← zpow_add₀ (by norm_num)]
        ring_nf
      _ ≤ num := num_low
  · rw [div_lt_iff₀ pos]
    calc (num : ℚ) < 2 ^ ((num.log2 : Int) + 1) := num_high
      _ = 2 ^ ((num.log2 : Int) - den.log2 + 1) * 2 ^ (den.log2 : Int) := by
        rw [← zpow_add₀ (by norm_num)]
        ring_nf
      _ ≤ 2 ^ ((num.log2 : Int) - den.log2 + 1) * den := by gcongr

/-- Comparing a quotient with `2 ^ 52` units. -/
theorem below_iff (num den : Nat) (e : Int) (pos : 0 < den) :
    (if 0 ≤ e then num < Nat.pow 2 52 * den * Nat.pow 2 e.toNat
      else num * Nat.pow 2 (-e).toNat < Nat.pow 2 52 * den) ↔ (num / den : ℚ) < 2 ^ (e + 52) := by
  have pos : (0 : ℚ) < den := by exact_mod_cast pos
  have unit : (0 : ℚ) < 2 ^ e := two_zpow_pos e
  have thousand : ((Nat.pow 2 52 : Nat) : ℚ) = 2 ^ (52 : Int) := two_pow_toNat (by decide : (0 : Int) ≤ 52)
  rw [zpow_add₀ (by norm_num), div_lt_iff₀ pos, ← thousand]
  split
  · next h =>
    rw [← two_pow_toNat h, ← Nat.cast_lt (α := ℚ)]
    push_cast
    constructor <;> intro <;> linarith
  · next h =>
    have inverse : ((Nat.pow 2 (-e).toNat : Nat) : ℚ) * 2 ^ e = 1 := by
      rw [two_pow_toNat (by omega), ← zpow_add₀ (by norm_num), neg_add_cancel, zpow_zero]
    rw [← Nat.cast_lt (α := ℚ), Nat.cast_mul, Nat.cast_mul, ← mul_lt_mul_iff_left₀ unit, mul_assoc, inverse,
      mul_one]
    constructor <;> intro <;> linarith

/-- The exponent at which a positive number is rounded. -/
theorem exponentFor_spec (num den : Nat) (pos_num : 0 < num) (pos_den : 0 < den) :
    -1074 ≤ exponentFor num den ∧ (num / den : ℚ) < 2 ^ (exponentFor num den + 53) ∧
      ((2 : ℚ) ^ (exponentFor num den + 52) ≤ num / den ∨ exponentFor num den = -1074) := by
  obtain ⟨low, high⟩ := ratio_bounds pos_num pos_den
  have below := below_iff num den ((num.log2 : Int) - den.log2 - 52) pos_den
  obtain ⟨e, is_e, upper, lower⟩ : ∃ e, exponentFor num den = max e (-1074) ∧
      (num / den : ℚ) < 2 ^ (e + 53) ∧ (2 : ℚ) ^ (e + 52) ≤ num / den := by
    by_cases less : (num / den : ℚ) < 2 ^ ((num.log2 : Int) - den.log2 - 52 + 52)
    · refine ⟨(num.log2 : Int) - den.log2 - 52 - 1, by rw [exponentFor, if_pos (below.2 less)], ?_, ?_⟩
      · exact less.trans_le (two_zpow_le.2 (by omega))
      · exact (two_zpow_le.2 (by omega)).trans low.le
    · refine ⟨(num.log2 : Int) - den.log2 - 52, by rw [exponentFor, if_neg (mt below.1 less)], ?_, ?_⟩
      · exact high.trans_le (two_zpow_le.2 (by omega))
      · exact le_of_not_gt less
  rw [is_e]
  refine ⟨le_max_right .., upper.trans_le (two_zpow_le.2 (by omega)), ?_⟩
  rcases le_total (-1074) e with h | h
  · left
    rwa [max_eq_left h]
  · right
    exact max_eq_right h

theorem exponentFor_eq {num den : Nat} {e : Int} (pos_num : 0 < num) (pos_den : 0 < den) (least : -1074 ≤ e)
    (upper : (num / den : ℚ) < 2 ^ (e + 53)) (lower : (2 : ℚ) ^ (e + 52) ≤ num / den ∨ e = -1074) :
    exponentFor num den = e := by
  obtain ⟨least', upper', lower'⟩ := exponentFor_spec num den pos_num pos_den
  apply le_antisymm
  · rcases lower' with lower' | least'
    · have := two_zpow_lt.1 (lower'.trans_lt upper)
      omega
    · omega
  · rcases lower with lower | least
    · have := two_zpow_lt.1 (lower.trans_lt upper')
      omega
    · omega

/-! ### Nearest numbers -/

/-- Half the distance of a binary number to the one below it, in units of its last place. Below a power of
two the numbers lie twice as close. -/
def gap (m : Nat) (e : Int) : ℚ := if m = Nat.pow 2 52 ∧ -1074 < e then 1 / 4 else 1 / 2

/-- The rational numbers that are rounded to `m · 2 ^ e`: those between the middles to its neighbours, and
the middles themselves if `m` is even. -/
structure RoundsTo (x : ℚ) (m : Nat) (e : Int) : Prop where
  low : (m - gap m e) * 2 ^ e ≤ x
  high : x ≤ (m + 1 / 2) * 2 ^ e
  even : x = (m - gap m e) * 2 ^ e ∨ x = (m + 1 / 2) * 2 ^ e → m % 2 = 0

theorem gap_le (m : Nat) (e : Int) : gap m e ≤ 1 / 2 := by
  rw [gap]
  split <;> norm_num

theorem RoundsTo.pos {x : ℚ} {m : Nat} {e : Int} (h : RoundsTo x m e) (pos : 0 < m) : 0 < x := by
  have : (1 : ℚ) ≤ m := by exact_mod_cast pos
  refine lt_of_lt_of_le (mul_pos ?_ (two_zpow_pos e)) h.low
  linarith [gap_le m e]

theorem two_zpow_add_nat (e : Int) (k : Nat) : (2 : ℚ) ^ (e + k) = ((Nat.pow 2 k : Nat) : ℚ) * 2 ^ e := by
  rw [zpow_add₀ (by norm_num), zpow_natCast, mul_comm, Nat.pow_eq, Nat.cast_pow]
  rfl

theorem two_zpow_add_52 (e : Int) : (2 : ℚ) ^ (e + 52) = ((Nat.pow 2 52 : Nat) : ℚ) * 2 ^ e :=
  two_zpow_add_nat e 52

theorem two_zpow_add_53 (e : Int) : (2 : ℚ) ^ (e + 53) = ((Nat.pow 2 53 : Nat) : ℚ) * 2 ^ e :=
  two_zpow_add_nat e 53

/-- Numbers that are rounded to a number of at most 53 bits have at most 53 bits before the point. -/
theorem RoundsTo.lt {x : ℚ} {m : Nat} {e : Int} (h : RoundsTo x m e) (few : m < Nat.pow 2 53) :
    x < 2 ^ (e + 53) := by
  have few : ((m + 1 : Nat) : ℚ) ≤ (Nat.pow 2 53 : Nat) := by exact_mod_cast few
  refine h.high.trans_lt ?_
  rw [two_zpow_add_53]
  refine mul_lt_mul_of_pos_right ?_ (two_zpow_pos e)
  push_cast at few ⊢
  linarith

theorem RoundsTo.inUnits_eq {num den m : Nat} {e : Int} (pos : 0 < den) (h : RoundsTo (num / den) m e) :
    inUnits num den e = m := by
  have unit := two_zpow_pos e
  have wide : ((m : ℚ) - 1 / 2) * 2 ^ e ≤ (m - gap m e) * 2 ^ e := by
    gcongr
    exact gap_le m e
  refine Binary64.inUnits_eq pos (wide.trans h.low) h.high fun tie => ?_
  rcases tie with tie | tie
  · by_cases power : m = Nat.pow 2 52 ∧ -1074 < e
    · rw [power.1]
    · refine h.even (.inl ?_)
      rw [tie, gap, if_neg power]
  · exact h.even (.inr tie)

/-- Numbers that are rounded to a power of two from below. -/
theorem RoundsTo.of_lt {x : ℚ} {m : Nat} {e : Int} (h : RoundsTo x m e) (large : Nat.pow 2 52 ≤ m)
    (below : x < 2 ^ (e + 52)) : m = Nat.pow 2 52 := by
  by_contra other
  have more : ((Nat.pow 2 52 + 1 : Nat) : ℚ) ≤ m := by exact_mod_cast Nat.lt_of_le_of_ne large (Ne.symm other)
  refine absurd h.low (not_le_of_gt (below.trans_le ?_))
  rw [two_zpow_add_52]
  refine mul_le_mul_of_nonneg_right ?_ (two_zpow_pos e).le
  rw [Nat.cast_add, Nat.cast_one] at more
  linarith [gap_le m e]

theorem ofRatio_eq_of_inUnits (negative : Bool) {num den m : Nat} {e : Int} (pos : 0 < num)
    (is_e : exponentFor num den = e) (is_m : inUnits num den e = m) :
    ofRatio negative num den = if m = Nat.pow 2 53 then ofMagnitude negative (Nat.pow 2 52) (e + 1)
      else ofMagnitude negative m e := by
  rw [ofRatio, if_neg pos.ne', is_e]
  dsimp only
  rw [is_m]

theorem ofMagnitude_of_canonical (negative : Bool) {m : Nat} {e : Int} (h : Canonical m e) :
    ofMagnitude negative m e = .finite negative m e h := by
  rw [ofMagnitude, dif_pos h]

/-- A positive number is rounded to the binary number that it is nearest to. -/
theorem ofRatio_eq (negative : Bool) {num den m : Nat} {e : Int} (pos_num : 0 < num) (pos_den : 0 < den)
    (canonical : Canonical m e) (rounds : RoundsTo (num / den) m e) :
    ofRatio negative num den = .finite negative m e canonical := by
  have few := canonical.1
  have least := canonical.2.1
  have large := canonical.2.2.2
  by_cases normal : (2 : ℚ) ^ (e + 52) ≤ num / den ∨ e = -1074
  · have is_e := exponentFor_eq pos_num pos_den least (rounds.lt few) normal
    rw [ofRatio_eq_of_inUnits negative pos_num is_e (rounds.inUnits_eq pos_den), if_neg few.ne,
      ofMagnitude_of_canonical]
  · rw [not_or, not_le] at normal
    obtain ⟨below, above⟩ := normal
    -- the number is just below a power of two, and is rounded up to it in the smaller units below
    obtain rfl := rounds.of_lt (large.resolve_right above) below
    have half : (2 : ℚ) ^ e = 2 * 2 ^ (e - 1) := by
      rw [← zpow_one_add₀ (by norm_num), add_sub_cancel]
    have unit := two_zpow_pos (e - 1)
    have low : ((Nat.pow 2 53 : Nat) - 1 / 2 : ℚ) * 2 ^ (e - 1) ≤ num / den := by
      refine le_trans (le_of_eq ?_) rounds.low
      rw [gap, if_pos ⟨rfl, by omega⟩, half]
      push_cast
      ring
    have high : (num / den : ℚ) < (Nat.pow 2 53 : Nat) * 2 ^ (e - 1) := by
      refine below.trans_le (le_of_eq ?_)
      rw [two_zpow_add_52, half]
      push_cast
      ring
    have is_e : exponentFor num den = e - 1 := by
      refine exponentFor_eq pos_num pos_den (by omega) ?_ (.inl ?_)
      · rw [two_zpow_add_53]
        exact high
      · refine le_trans ?_ low
        rw [two_zpow_add_52]
        gcongr
        norm_num
    have is_m : inUnits num den (e - 1) = Nat.pow 2 53 :=
      inUnits_eq pos_den low (high.le.trans (by gcongr; norm_num)) fun _ => by decide
    rw [ofRatio_eq_of_inUnits negative pos_num is_e is_m, if_pos rfl]
    rw [sub_add_cancel, ofMagnitude_of_canonical]

/-! ### Decimals -/

theorem two_pow_le_ten_pow : (2 : ℚ) ^ 1075 ≤ 10 ^ 331 := by
  calc (2 : ℚ) ^ 1075 = (2 ^ 13) ^ 82 * 2 ^ 9 := by rw [← pow_mul, ← pow_add]
    _ ≤ (10 ^ 4) ^ 82 * 10 ^ 3 := by gcongr <;> norm_num
    _ = 10 ^ 331 := by rw [← pow_mul, ← pow_add]

/-- The middle between zero and the least positive binary number is no tiny decimal. -/
theorem tiny_le : (10 : ℚ) ^ (-331 : Int) ≤ 2 ^ (-1075 : Int) := by
  rw [zpow_neg, zpow_neg]
  exact inv_anti₀ (by positivity) two_pow_le_ten_pow

/-- All finite binary numbers are less than a huge decimal. -/
theorem le_huge : (2 : ℚ) ^ (1024 : Int) ≤ 10 ^ (310 : Int) := by
  have le : (2 : ℚ) ^ 1024 ≤ 10 ^ 310 := by
    calc (2 : ℚ) ^ 1024 = (2 ^ 93) ^ 11 * 2 := by rw [← pow_mul, ← pow_succ]
      _ ≤ (10 ^ 28) ^ 11 * 10 ^ 2 := by gcongr <;> norm_num
      _ = 10 ^ 310 := by rw [← pow_mul, ← pow_add]
  exact le

theorem RoundsTo.bounds {x : ℚ} {m : Nat} {e : Int} (h : RoundsTo x m e) (canonical : Canonical m e)
    (pos : 0 < m) : 10 ^ (-331 : Int) ≤ x ∧ x < 10 ^ (310 : Int) := by
  obtain ⟨few, least, most, _⟩ := canonical
  constructor
  · have one : (1 : ℚ) ≤ m := by exact_mod_cast pos
    calc (10 : ℚ) ^ (-331 : Int) ≤ 2 ^ (-1075 : Int) := tiny_le
      _ ≤ 2 ^ (e - 1) := two_zpow_le.2 (by omega)
      _ = 1 / 2 * 2 ^ e := by rw [zpow_sub_one₀ (by norm_num)]; ring
      _ ≤ (m - gap m e) * 2 ^ e := by
        gcongr
        linarith [gap_le m e]
      _ ≤ x := h.low
  · exact (h.lt few).trans_le ((two_zpow_le.2 (by omega)).trans le_huge)

theorem ten_zpow_lt {a b : Int} : (10 : ℚ) ^ a < 10 ^ b ↔ a < b := zpow_lt_zpow_iff_right₀ (by norm_num)

/-- A positive number lies between the powers of ten that its number of digits gives. -/
theorem length_toString_bounds {n : Nat} (pos : 0 < n) :
    (10 : ℚ) ^ (((toString n).length : Int) - 1) ≤ n ∧ (n : ℚ) < 10 ^ ((toString n).length : Int) := by
  have length : (toString n).length = (Nat.toDigits 10 n).length := by
    rw [Nat.toString_eq_ofList_toDigits, String.length_ofList]
  have some_digits : 0 < (Nat.toDigits 10 n).length := Nat.length_toDigits_pos
  rw [length]
  constructor
  · have sub : ((Nat.toDigits 10 n).length : Int) - 1 = ((Nat.toDigits 10 n).length - 1 : Nat) := by omega
    rw [sub, zpow_natCast]
    by_cases one : (Nat.toDigits 10 n).length = 1
    · rw [one, Nat.sub_self, pow_zero]
      exact_mod_cast pos
    · have more := mt (Nat.length_toDigits_le_iff (b := 10) (n := n) (k := (Nat.toDigits 10 n).length - 1)
        (by decide) (by omega)).2 (by omega)
      exact_mod_cast Nat.le_of_not_lt more
  · rw [zpow_natCast]
    exact_mod_cast (Nat.length_toDigits_le_iff (by decide) some_digits).1 (Nat.le_refl _)

theorem ten_pow_toNat {e : Int} (h : 0 ≤ e) : ((Nat.pow 10 e.toNat : Nat) : ℚ) = 10 ^ e := by
  have same : (10 : ℚ) ^ e = 10 ^ (e.toNat : Int) := by rw [Int.toNat_of_nonneg h]
  rw [same, zpow_natCast]
  exact Nat.cast_pow 10 e.toNat

/-- A decimal is read as the binary number that it is nearest to. -/
theorem ofDecimal_eq (negative : Bool) {digits m : Nat} {exponent e : Int} (canonical : Canonical m e)
    (pos : 0 < m) (rounds : RoundsTo (digits * 10 ^ exponent) m e) :
    ofDecimal negative digits exponent = .finite negative m e canonical := by
  have ten := zpow_pos (by norm_num : (0 : ℚ) < 10) exponent
  have some_digits : 0 < digits := by
    rw [Nat.pos_iff_ne_zero]
    rintro rfl
    have := rounds.pos pos
    simp at this
  obtain ⟨low, high⟩ := length_toString_bounds some_digits
  obtain ⟨least, most⟩ := rounds.bounds canonical pos
  have not_tiny : ¬ ((toString digits).length : Int) + exponent < -330 := by
    intro tiny
    have : (digits : ℚ) * 10 ^ exponent < 10 ^ (((toString digits).length : Int) + exponent) := by
      rw [zpow_add₀ (by norm_num)]
      gcongr
    have := ten_zpow_lt.1 (least.trans_lt this)
    omega
  have not_huge : ¬ 310 < ((toString digits).length : Int) + exponent := by
    intro huge
    have : (10 : ℚ) ^ (((toString digits).length : Int) - 1 + exponent) ≤ digits * 10 ^ exponent := by
      rw [zpow_add₀ (by norm_num)]
      gcongr
    have := ten_zpow_lt.1 (this.trans_lt most)
    omega
  have plain : ¬ ((digits = 0 : Bool) || (((toString digits).length : Int) + exponent < -330 : Bool)) = true := by
    rw [Bool.or_eq_true, decide_eq_true_eq, decide_eq_true_eq, not_or]
    exact ⟨some_digits.ne', not_tiny⟩
  have ten_pos (k : Nat) : 0 < Nat.pow 10 k := Nat.pow_pos (by decide)
  rw [ofDecimal, if_neg plain, if_neg not_huge]
  split
  · next whole =>
    refine ofRatio_eq negative (Nat.mul_pos some_digits (ten_pos _)) Nat.one_pos canonical ?_
    rwa [Nat.cast_mul, ten_pow_toNat whole, Nat.cast_one, div_one]
  · next fraction =>
    refine ofRatio_eq negative some_digits (ten_pos _) canonical ?_
    rwa [ten_pow_toNat (by omega), zpow_neg, div_inv_eq_mul]

end Binary64
end TunnelSettings
