import Mathlib.Algebra.Order.Field.Power
import Mathlib.Algebra.Order.Floor
import Mathlib.Data.Int.Log
import Mathlib.Data.Rat.Floor
import Mathlib.Tactic.Linarith

/-!
# Python floats

Every arithmetic operation on Python floats computes the exact result and rounds it to a
double: IEEE 754 binary64, to the nearest, a tie to the even significand. The model keeps
numbers as rationals and applies that rounding where the code does arithmetic on floats.

`roundBinary64` is that rounding, with its significand of 53 bits and its smallest spacing
`2^-1074` (subnormals). The proofs about the code use one fact of it: it is monotone
(`roundBinary64_mono`), so it never moves a result past a float (`lt_of_roundBinary64_lt`).
Runs at concrete readings evaluate it through the binade of the value (`roundBinary64_of_binade`).
The exponent is not bounded above: the values the model rounds (clock readings, deadlines,
delays) are far below `2^1024`, where Python's floats overflow to `inf`.
-/

set_option autoImplicit false

namespace Cheval
namespace Python

/-! ## 1. Rounding to nearest, ties to even -/

/-- `m` rounded to the nearest integer, a tie to the even one. -/
def roundHalfEven (m : ℚ) : ℤ :=
  if m - ⌊m⌋ < 1 / 2 then ⌊m⌋
  else if 1 / 2 < m - ⌊m⌋ then ⌊m⌋ + 1
  else if ⌊m⌋ % 2 = 0 then ⌊m⌋ else ⌊m⌋ + 1

theorem floor_le_roundHalfEven (m : ℚ) : ⌊m⌋ ≤ roundHalfEven m := by
  unfold roundHalfEven
  split_ifs <;> omega

theorem roundHalfEven_le_floor_add_one (m : ℚ) : roundHalfEven m ≤ ⌊m⌋ + 1 := by
  unfold roundHalfEven
  split_ifs <;> omega

/-- Rounding to the nearest integer is monotone, the tie rule included: a tie rounds up only
from an odd floor, and then every larger value with that floor rounds up too. -/
theorem roundHalfEven_mono : Monotone roundHalfEven := by
  intro m m' h
  have hf : ⌊m⌋ ≤ ⌊m'⌋ := Int.floor_mono h
  rcases lt_or_eq_of_le hf with hlt | heq
  · have := roundHalfEven_le_floor_add_one m
    have := floor_le_roundHalfEven m'
    omega
  · have hr : m - ⌊m⌋ ≤ m' - ⌊m'⌋ := by rw [heq]; linarith
    unfold roundHalfEven
    rw [heq] at hr ⊢
    split_ifs <;> first | omega | linarith

/-! ## 2. Doubles -/

/-- How far a positive `q` is scaled up to bring its significand into `[2^52, 2^53)`: 52 less its
binary exponent, and at most 1074 (below `2^-1022` the spacing stays `2^-1074`). -/
def scaleOf (q : ℚ) : ℤ := min (52 - Int.log 2 q) 1074

/-- The double nearest to a positive `q`. -/
def roundPos (q : ℚ) : ℚ := roundHalfEven (q * 2 ^ scaleOf q) / 2 ^ scaleOf q

/-- The double nearest to `q`, a tie to the even significand. -/
def roundBinary64 (q : ℚ) : ℚ :=
  if 0 < q then roundPos q else if q < 0 then -roundPos (-q) else 0

theorem two_zpow_pos (n : ℤ) : (0 : ℚ) < 2 ^ n := zpow_pos (by norm_num) n

theorem roundPos_nonneg {q : ℚ} (hq : 0 < q) : 0 ≤ roundPos q := by
  have h0 : (0 : ℤ) ≤ roundHalfEven (q * 2 ^ scaleOf q) :=
    (Int.floor_nonneg.2 (mul_pos hq (two_zpow_pos _)).le).trans (floor_le_roundHalfEven _)
  exact div_nonneg (by exact_mod_cast h0) (two_zpow_pos _).le

/-- The scaled significand of a positive `q` is below `2^53`, so its double is at most
`2^(53 - scale)`. -/
theorem roundPos_le {q : ℚ} (hq : 0 < q) : roundPos q ≤ 2 ^ (53 - scaleOf q) := by
  have hlt : q * 2 ^ scaleOf q < 2 ^ (53 : ℤ) := by
    have h1 := Int.lt_zpow_succ_log_self (b := 2) (by norm_num) q
    have h2 : (2 : ℚ) ^ scaleOf q ≤ 2 ^ (52 - Int.log 2 q) :=
      zpow_le_zpow_right₀ (by norm_num) (min_le_left _ _)
    calc q * 2 ^ scaleOf q ≤ q * 2 ^ (52 - Int.log 2 q) :=
          mul_le_mul_of_nonneg_left h2 hq.le
      _ < 2 ^ (Int.log 2 q + 1) * 2 ^ (52 - Int.log 2 q) :=
          mul_lt_mul_of_pos_right (by exact_mod_cast h1) (two_zpow_pos _)
      _ = 2 ^ (53 : ℤ) := by rw [← zpow_add₀ (by norm_num)]; ring_nf
  have hfl : ⌊q * 2 ^ scaleOf q⌋ < (2 : ℤ) ^ 53 :=
    Int.floor_lt.2 (by exact_mod_cast hlt)
  have hr : (roundHalfEven (q * 2 ^ scaleOf q) : ℚ) ≤ 2 ^ (53 : ℤ) := by
    have := roundHalfEven_le_floor_add_one (q * 2 ^ scaleOf q)
    exact_mod_cast (show roundHalfEven (q * 2 ^ scaleOf q) ≤ (2 : ℤ) ^ 53 by omega)
  rwa [roundPos, div_le_iff₀ (two_zpow_pos _), ← zpow_add₀ (by norm_num), sub_add_cancel]

/-- Where the scale is not capped, the scaled significand is at least `2^52`, so the double is
at least `2^(52 - scale)`. -/
theorem le_roundPos {q : ℚ} (hq : 0 < q) (hs : scaleOf q = 52 - Int.log 2 q) :
    2 ^ (52 - scaleOf q) ≤ roundPos q := by
  have hle : (2 : ℚ) ^ (52 : ℤ) ≤ q * 2 ^ scaleOf q := by
    have h1 := Int.zpow_log_le_self (b := 2) (by norm_num) hq
    calc (2 : ℚ) ^ (52 : ℤ) = 2 ^ Int.log 2 q * 2 ^ scaleOf q := by
          rw [← zpow_add₀ (by norm_num), hs]; ring_nf
      _ ≤ q * 2 ^ scaleOf q := mul_le_mul_of_nonneg_right (by exact_mod_cast h1)
          (two_zpow_pos _).le
  have hfl : (2 : ℤ) ^ 52 ≤ ⌊q * 2 ^ scaleOf q⌋ := Int.le_floor.2 (by exact_mod_cast hle)
  have hr : (2 : ℚ) ^ (52 : ℤ) ≤ roundHalfEven (q * 2 ^ scaleOf q) := by
    have := floor_le_roundHalfEven (q * 2 ^ scaleOf q)
    exact_mod_cast (show (2 : ℤ) ^ 52 ≤ roundHalfEven (q * 2 ^ scaleOf q) by omega)
  rwa [roundPos, le_div_iff₀ (two_zpow_pos _), ← zpow_add₀ (by norm_num), sub_add_cancel]

theorem scaleOf_anti {x y : ℚ} (hx : 0 < x) (h : x ≤ y) : scaleOf y ≤ scaleOf x :=
  min_le_min_right _ (by linarith [Int.log_mono_right (b := 2) hx h])

/-- Rounding to the nearest double is monotone on positive values: within one binade the
scaled values round monotonically, and a higher binade starts at a power of two that bounds
every double below it. -/
theorem roundPos_mono {x y : ℚ} (hx : 0 < x) (h : x ≤ y) : roundPos x ≤ roundPos y := by
  rcases eq_or_lt_of_le (scaleOf_anti hx h) with heq | hlt
  · rw [roundPos, roundPos, heq]
    exact div_le_div_of_nonneg_right
      (by exact_mod_cast roundHalfEven_mono (mul_le_mul_of_nonneg_right h (two_zpow_pos _).le))
      (two_zpow_pos _).le
  · have hy : scaleOf y = 52 - Int.log 2 y := by
      unfold scaleOf at hlt ⊢
      exact min_eq_left (by omega)
    calc roundPos x ≤ 2 ^ (53 - scaleOf x) := roundPos_le hx
      _ ≤ 2 ^ (52 - scaleOf y) := zpow_le_zpow_right₀ (by norm_num) (by omega)
      _ ≤ roundPos y := le_roundPos (hx.trans_le h) hy

theorem roundBinary64_mono : Monotone roundBinary64 := by
  intro x y h
  unfold roundBinary64
  by_cases hx : 0 < x
  · rw [if_pos hx, if_pos (hx.trans_le h)]
    exact roundPos_mono hx h
  by_cases hx' : x < 0
  · rw [if_neg hx, if_pos hx']
    by_cases hy : 0 < y
    · rw [if_pos hy]
      linarith [roundPos_nonneg (neg_pos.2 hx'), roundPos_nonneg hy]
    by_cases hy' : y < 0
    · rw [if_neg hy, if_pos hy']
      exact neg_le_neg (roundPos_mono (neg_pos.2 hy') (neg_le_neg h))
    · rw [if_neg hy, if_neg hy']
      linarith [roundPos_nonneg (neg_pos.2 hx')]
  · have hx0 : x = 0 := le_antisymm (not_lt.1 hx) (not_lt.1 hx')
    subst hx0
    rw [if_neg hx, if_neg hx']
    rcases eq_or_lt_of_le h with rfl | hy
    · simp
    · rw [if_pos hy]
      exact roundPos_nonneg hy

/-- Rounding never moves a result past a float, which it leaves in place. -/
theorem lt_of_roundBinary64_lt {x y : ℚ} (hy : roundBinary64 y = y) (h : roundBinary64 x < y) :
    x < y :=
  not_le.1 fun hyx => absurd (hy ▸ roundBinary64_mono hyx) (not_le.2 h)

/-! ## 3. Evaluation -/

theorem log_two_eq {q : ℚ} {e : ℤ} (hq : 0 < q) (h1 : 2 ^ e ≤ q) (h2 : q < 2 ^ (e + 1)) :
    Int.log 2 q = e :=
  le_antisymm (Int.lt_add_one_iff.1 ((Int.lt_zpow_iff_log_lt (by norm_num) hq).1 h2))
    ((Int.zpow_le_iff_le_log (by norm_num) hq).1 h1)

/-- A positive `q` in the binade `[2^e, 2^(e+1))` of a normal double is rounded at the scale
`52 - e`. -/
theorem roundBinary64_of_binade {q : ℚ} {e : ℤ} (hq : 0 < q) (h1 : 2 ^ e ≤ q)
    (h2 : q < 2 ^ (e + 1)) (he : -1022 ≤ e) :
    roundBinary64 q = roundHalfEven (q * 2 ^ (52 - e)) / 2 ^ (52 - e) := by
  have hs : scaleOf q = 52 - e := by
    rw [scaleOf, log_two_eq hq h1 h2]
    exact min_eq_left (by omega)
  rw [roundBinary64, if_pos hq, roundPos, hs]

theorem roundHalfEven_intCast (k : ℤ) : roundHalfEven k = k := by
  simp [roundHalfEven]

/-- A float is its own rounding: a positive `q` whose significand at its binade's scale is a
whole number. -/
theorem roundBinary64_eq_self {q : ℚ} {e k : ℤ} (hq : 0 < q) (h1 : 2 ^ e ≤ q)
    (h2 : q < 2 ^ (e + 1)) (he : -1022 ≤ e) (hk : q * 2 ^ (52 - e) = k) : roundBinary64 q = q := by
  rw [roundBinary64_of_binade hq h1 h2 he, hk, roundHalfEven_intCast, ← hk,
    mul_div_cancel_right₀ _ (two_zpow_pos _).ne']

@[simp] theorem roundBinary64_zero : roundBinary64 0 = 0 := by simp [roundBinary64]

theorem roundBinary64_neg (q : ℚ) : roundBinary64 (-q) = -roundBinary64 q := by
  unfold roundBinary64
  rcases lt_trichotomy q 0 with h | rfl | h
  · simp [h, h.not_lt]
  · simp
  · simp [h, h.not_lt]

/-- Every integer of magnitude below `2^53` is a float. -/
theorem roundBinary64_intCast {k : ℤ} (hk : |k| < 2 ^ 53) : roundBinary64 k = k := by
  wlog hpos : 0 < k generalizing k
  · rcases eq_or_lt_of_le (not_lt.1 hpos) with rfl | hneg
    · simp
    · have := this (k := -k) (by rwa [abs_neg]) (by omega)
      push_cast at this
      rw [roundBinary64_neg, neg_inj] at this
      exact this
  have hq : (0 : ℚ) < k := by exact_mod_cast hpos
  have hlo : (0 : ℤ) ≤ Int.log 2 (k : ℚ) :=
    (Int.zpow_le_iff_le_log (by norm_num) hq).1
      (by simpa using (show (1 : ℚ) ≤ k by exact_mod_cast hpos))
  have hhi : Int.log 2 (k : ℚ) < 53 :=
    (Int.lt_zpow_iff_log_lt (by norm_num) hq).1 (by
      have : k < 2 ^ 53 := by rw [abs_of_pos hpos] at hk; exact hk
      exact_mod_cast this)
  obtain ⟨n, hn⟩ : ∃ n : ℕ, 52 - Int.log 2 (k : ℚ) = n := ⟨(52 - Int.log 2 (k : ℚ)).toNat, by omega⟩
  exact roundBinary64_eq_self (k := k * 2 ^ n) hq (Int.zpow_log_le_self (by norm_num) hq)
    (Int.lt_zpow_succ_log_self (by norm_num) _) (le_trans (by norm_num) hlo)
    (by rw [hn, zpow_natCast]; push_cast; rfl)

/-! ## 4. Float arithmetic -/

/-- `a + b` on floats. -/
def fadd (a b : ℚ) : ℚ := roundBinary64 (a + b)

/-- `a * b` on floats. -/
def fmul (a b : ℚ) : ℚ := roundBinary64 (a * b)

/-- `a / b` on floats. -/
def fdiv (a b : ℚ) : ℚ := roundBinary64 (a / b)

/-- `a - b` on floats. -/
def fsub (a b : ℚ) : ℚ := roundBinary64 (a - b)

theorem fadd_le_fadd_right {a b : ℚ} (h : a ≤ b) (c : ℚ) : fadd a c ≤ fadd b c :=
  roundBinary64_mono (add_le_add_right h c)

/-! ## 5. Exact subtraction -/

/-- A positive double's significand at its own scale is a whole number. -/
theorem exists_int_of_roundBinary64 {q : ℚ} (hq : 0 < q) (h : roundBinary64 q = q) :
    ∃ k : ℤ, q * 2 ^ scaleOf q = k := by
  rw [roundBinary64, if_pos hq, roundPos, div_eq_iff (two_zpow_pos _).ne'] at h
  exact ⟨_, h.symm⟩

/-- A whole number at one scale is a whole number at every finer scale. -/
theorem exists_int_of_le_scale {q : ℚ} {s s' k : ℤ} (hk : q * 2 ^ s = k) (h : s ≤ s') :
    ∃ k' : ℤ, q * 2 ^ s' = k' := by
  obtain ⟨n, hn⟩ : ∃ n : ℕ, s' = s + n := ⟨(s' - s).toNat, by omega⟩
  refine ⟨k * 2 ^ n, ?_⟩
  rw [hn, zpow_add₀ two_ne_zero, ← mul_assoc, hk, zpow_natCast]
  push_cast
  rfl

/-- A positive `q` whose significand at its own scale is a whole number is a double. -/
theorem roundBinary64_of_int {q : ℚ} {k : ℤ} (hq : 0 < q) (hk : q * 2 ^ scaleOf q = k) :
    roundBinary64 q = q := by
  rw [roundBinary64, if_pos hq, roundPos, hk, roundHalfEven_intCast, ← hk,
    mul_div_cancel_right₀ _ (two_zpow_pos _).ne']

/-- The difference of two doubles `y ≤ x ≤ 2y` is a double: it is below `y`, so its scale is at
least theirs, at which both are whole numbers. -/
theorem roundBinary64_sub_of_le {x y : ℚ} (hy : 0 < y) (hx : roundBinary64 x = x)
    (hy' : roundBinary64 y = y) (h1 : y ≤ x) (h2 : x ≤ 2 * y) :
    roundBinary64 (x - y) = x - y := by
  rcases eq_or_lt_of_le h1 with rfl | hlt
  · simp
  have hd : 0 < x - y := sub_pos.2 hlt
  have hsy : scaleOf y ≤ scaleOf (x - y) := scaleOf_anti hd (by linarith)
  have hsx : scaleOf x ≤ scaleOf y := scaleOf_anti hy h1
  obtain ⟨kx, hkx⟩ := exists_int_of_roundBinary64 (hy.trans hlt) hx
  obtain ⟨ky, hky⟩ := exists_int_of_roundBinary64 hy hy'
  obtain ⟨kx', hkx'⟩ := exists_int_of_le_scale hkx (hsx.trans hsy)
  obtain ⟨ky', hky'⟩ := exists_int_of_le_scale hky hsy
  exact roundBinary64_of_int hd (k := kx' - ky') (by rw [sub_mul, hkx', hky']; push_cast; rfl)

/-- **Sterbenz.** Float subtraction of two positive doubles within a factor of two of each other
is exact. -/
theorem fsub_eq_sub {x y : ℚ} (hx0 : 0 < x) (hy0 : 0 < y) (hx : roundBinary64 x = x)
    (hy : roundBinary64 y = y) (h1 : y ≤ 2 * x) (h2 : x ≤ 2 * y) : fsub x y = x - y := by
  rcases le_total y x with h | h
  · exact roundBinary64_sub_of_le hy0 hx hy h h2
  · rw [fsub, ← neg_sub, roundBinary64_neg, roundBinary64_sub_of_le hx0 hy hx h h1]

end Python
end Cheval
