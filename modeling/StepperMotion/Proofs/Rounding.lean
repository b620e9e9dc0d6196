import Mathlib.Algebra.Group.Int.Defs
import Mathlib.Algebra.Group.Nat.Defs
import StepperMotion.Numeric.Rounding

/-!
# Rounding respects the order

Rounding to `p` significant bits moves a number, but never past another one (`roundToBits_mono`),
and a number of at most `p` significant bits stays where it is (`roundToBits_of_fits`). The two
together bound a rounded number by any number of that kind that bounds the exact one, which is all
that is used of rounding elsewhere.

Between two powers of two all numbers are rounded to multiples of one unit, so that the order is
that of `roundShift`. Numbers that are rounded to different units have a power of two between
them, and that power separates the results: what lies below it is rounded to it at most, and what
lies above it is rounded to it at least.
-/

namespace StepperMotion

/-! ## To multiples of a unit -/

theorem le_roundShift (n k : Nat) : n / 2 ^ k ≤ roundShift n k := by
  simp only [roundShift, Nat.pow_eq]
  split
  · exact Nat.le_succ _
  · exact Nat.le_refl _

theorem roundShift_le (n k : Nat) : roundShift n k ≤ n / 2 ^ k + 1 := by
  simp only [roundShift, Nat.pow_eq]
  split
  · exact Nat.le_refl _
  · exact Nat.le_succ _

theorem roundShift_mono {m n : Nat} (h : m ≤ n) (k : Nat) : roundShift m k ≤ roundShift n k := by
  have hquot : m / 2 ^ k ≤ n / 2 ^ k := Nat.div_le_div_right h
  rcases Nat.lt_or_eq_of_le hquot with hlt | heq
  · -- a multiple of the unit lies between the two
    exact Nat.le_trans (roundShift_le m k) (Nat.le_trans hlt (le_roundShift n k))
  · -- both lie over the same multiple, and what is left of the greater one is no less
    have hrem : m % 2 ^ k ≤ n % 2 ^ k := by
      have hm := Nat.div_add_mod m (2 ^ k)
      have hn := Nat.div_add_mod n (2 ^ k)
      rw [heq] at hm
      omega
    simp only [roundShift, Nat.pow_eq, heq]
    split <;> split <;> omega

/-- A multiple of the unit is not moved. -/
theorem roundShift_multiple (a k : Nat) : roundShift (2 ^ k * a) k = a := by
  have hunit : 0 < 2 ^ k := Nat.two_pow_pos k
  have hquot : 2 ^ k * a / 2 ^ k = a := Nat.mul_div_cancel_left a hunit
  have hrem : 2 ^ k * a % 2 ^ k = 0 := Nat.mul_mod_right _ a
  simp only [roundShift, Nat.pow_eq, hquot, hrem]
  split
  · omega
  · rfl

/-! ## To a number of significant bits -/

theorem roundToBits_eq (p n : Nat) :
    roundToBits p n = roundShift n (excessBits p n) * 2 ^ excessBits p n := rfl

@[simp]
theorem roundToBits_zero (p : Nat) : roundToBits p 0 = 0 := by
  simp [roundToBits, roundShift]

/-- A number whose bits all fit is kept. -/
theorem roundToBits_of_dvd {p n : Nat} (h : 2 ^ excessBits p n ∣ n) : roundToBits p n = n := by
  obtain ⟨a, ha⟩ := h
  have hkept : roundShift n (excessBits p n) = a := by
    rw [← roundShift_multiple a (excessBits p n), ← ha]
  rw [roundToBits_eq, hkept, Nat.mul_comm, ← ha]

/-- **A multiple of a power of two, up to the `2 ^ p`-th one, is not moved.** -/
theorem roundToBits_of_fits {p a : Nat} (hp : 0 < p) (ha : a ≤ 2 ^ p) (k : Nat) :
    roundToBits p (a * 2 ^ k) = a * 2 ^ k := by
  rcases Nat.eq_zero_or_pos a with rfl | hpos
  · simp
  apply roundToBits_of_dvd
  have hne : a * 2 ^ k ≠ 0 := Nat.mul_ne_zero (Nat.ne_of_gt hpos) (Nat.ne_of_gt (Nat.two_pow_pos k))
  rcases Nat.lt_or_eq_of_le ha with hlt | heq
  · -- no more bits are cut off than there are zeros at the end
    have hsize : a * 2 ^ k < 2 ^ (p + k) := by
      rw [Nat.pow_add]
      exact Nat.mul_lt_mul_of_pos_right hlt (Nat.two_pow_pos k)
    have hlog := (Nat.log2_lt hne).mpr hsize
    have hexcess : excessBits p (a * 2 ^ k) ≤ k := by
      unfold excessBits
      omega
    exact Nat.dvd_trans (Nat.pow_dvd_pow 2 hexcess) (Nat.dvd_mul_left _ a)
  · -- the `2 ^ p`-th multiple is a power of two itself
    have hpow : a * 2 ^ k = 2 ^ (p + k) := by rw [heq, Nat.pow_add]
    have hexcess : excessBits p (a * 2 ^ k) ≤ p + k := by
      rw [hpow, excessBits, Nat.log2_two_pow]
      omega
    rw [hpow] at hexcess ⊢
    exact Nat.pow_dvd_pow 2 hexcess

/-- What lies below a power of two is not rounded past it. -/
theorem roundToBits_le_pow {p n b : Nat} (h : n < 2 ^ b) : roundToBits p n ≤ 2 ^ b := by
  rcases Nat.eq_zero_or_pos n with rfl | hpos
  · simp
  have hlog := (Nat.log2_lt (Nat.ne_of_gt hpos)).mpr h
  have hexcess : excessBits p n ≤ b := by
    unfold excessBits
    omega
  have hsplit : 2 ^ (b - excessBits p n) * 2 ^ excessBits p n = 2 ^ b := by
    rw [← Nat.pow_add, Nat.sub_add_cancel hexcess]
  have hquot : n / 2 ^ excessBits p n < 2 ^ (b - excessBits p n) := by
    rw [Nat.div_lt_iff_lt_mul (Nat.two_pow_pos _), hsplit]
    exact h
  calc roundToBits p n = roundShift n (excessBits p n) * 2 ^ excessBits p n := rfl
    _ ≤ 2 ^ (b - excessBits p n) * 2 ^ excessBits p n :=
        Nat.mul_le_mul_right _ (Nat.le_trans (roundShift_le _ _) hquot)
    _ = 2 ^ b := hsplit

/-- A number is not rounded below the greatest power of two in it. -/
theorem pow_log2_le_roundToBits {p n : Nat} (hp : 0 < p) (hn : n ≠ 0) :
    2 ^ n.log2 ≤ roundToBits p n := by
  have hexcess : excessBits p n ≤ n.log2 := by
    unfold excessBits
    omega
  have hsplit : 2 ^ (n.log2 - excessBits p n) * 2 ^ excessBits p n = 2 ^ n.log2 := by
    rw [← Nat.pow_add, Nat.sub_add_cancel hexcess]
  have hquot : 2 ^ (n.log2 - excessBits p n) ≤ n / 2 ^ excessBits p n := by
    rw [Nat.le_div_iff_mul_le (Nat.two_pow_pos _), hsplit]
    exact Nat.log2_self_le hn
  calc 2 ^ n.log2 = 2 ^ (n.log2 - excessBits p n) * 2 ^ excessBits p n := hsplit.symm
    _ ≤ roundShift n (excessBits p n) * 2 ^ excessBits p n :=
        Nat.mul_le_mul_right _ (Nat.le_trans hquot (le_roundShift _ _))
    _ = roundToBits p n := rfl

/-- **Rounding respects the order.** -/
theorem roundToBits_mono {p m n : Nat} (hp : 0 < p) (h : m ≤ n) :
    roundToBits p m ≤ roundToBits p n := by
  rcases Nat.eq_zero_or_pos m with rfl | hm
  · simp
  have hn : n ≠ 0 := by omega
  rcases Nat.lt_or_ge m (2 ^ n.log2) with hbelow | habove
  · -- the greatest power of two in the second number lies between the two
    exact Nat.le_trans (roundToBits_le_pow hbelow) (pow_log2_le_roundToBits hp hn)
  · -- the two are rounded to the same unit
    have hlow : n.log2 ≤ m.log2 := (Nat.le_log2 (Nat.ne_of_gt hm)).mpr habove
    have hhigh : m.log2 ≤ n.log2 :=
      (Nat.le_log2 hn).mpr (Nat.le_trans (Nat.log2_self_le (Nat.ne_of_gt hm)) h)
    have hunit : excessBits p m = excessBits p n := by
      unfold excessBits
      omega
    rw [roundToBits_eq, roundToBits_eq, hunit]
    exact Nat.mul_le_mul_right _ (roundShift_mono h _)

end StepperMotion
