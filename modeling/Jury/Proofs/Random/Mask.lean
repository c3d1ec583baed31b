import Mathlib.Algebra.Group.Nat.Defs
import Mathlib.Data.Nat.Size
import Mathlib.Tactic.Common
import Jury.Random.Source

/-!
# The mask of a bound

A value below `n` is drawn from words masked to the bits of `n - 1`. Smearing a word leaves one
less than a power of two (`toNat_smear`), so masking takes the remainder by that power
(`toNat_and_smear`). The power is at least `n`, and less than twice as large, so that more than
half of all words are below `n` when masked.
-/

namespace Jury.RandomSource

/-! ### Smearing -/

/-- Whether the bits of `x` are those with a bit of `n` less than `width` places above. -/
def Smeared (width : Nat) (n x : UInt64) : Prop :=
  ∀ i, x.toNat.testBit i = true ↔ ∃ j, i ≤ j ∧ j < i + width ∧ n.toNat.testBit j = true

/-- A word that is moved down by the width that it is smeared over doubles the width. -/
lemma Smeared.double {width : Nat} {n x : UInt64} (h : Smeared width n x) (shift : UInt64)
    (hshift : shift.toNat = width) (hwidth : width < 64) :
    Smeared (2 * width) n (x ||| (x >>> shift)) := by
  intro i
  have hbit : (x ||| (x >>> shift)).toNat.testBit i =
      (x.toNat.testBit i || x.toNat.testBit (width + i)) := by
    rw [UInt64.toNat_or, UInt64.toNat_shiftRight, hshift, Nat.mod_eq_of_lt hwidth,
      Nat.testBit_or, Nat.testBit_shiftRight]
  rw [hbit, Bool.or_eq_true, h i, h (width + i)]
  constructor
  · rintro (⟨j, hle, hlt, hj⟩ | ⟨j, hle, hlt, hj⟩)
    · exact ⟨j, hle, by omega, hj⟩
    · exact ⟨j, by omega, by omega, hj⟩
  · rintro ⟨j, hle, hlt, hj⟩
    by_cases hnear : j < i + width
    · exact .inl ⟨j, hle, hnear, hj⟩
    · exact .inr ⟨j, by omega, by omega, hj⟩

lemma smeared_smear (n : UInt64) : Smeared 64 n (smear n) := by
  have hself : Smeared 1 n n := by
    intro i
    constructor
    · intro hi
      exact ⟨i, Nat.le_refl i, Nat.lt_succ_self i, hi⟩
    · rintro ⟨j, hle, hlt, hj⟩
      obtain rfl : j = i := by omega
      exact hj
  have h₂ := hself.double 1 rfl (by decide)
  have h₄ := h₂.double 2 rfl (by decide)
  have h₈ := h₄.double 4 rfl (by decide)
  have h₁₆ := h₈.double 8 rfl (by decide)
  have h₃₂ := h₁₆.double 16 rfl (by decide)
  exact h₃₂.double 32 rfl (by decide)

/-- Smearing fills all bits up to the highest one. -/
theorem toNat_smear (n : UInt64) : (smear n).toNat = 2 ^ n.toNat.size - 1 := by
  apply Nat.eq_of_testBit_eq
  intro i
  rw [Nat.testBit_two_pow_sub_one, Bool.eq_iff_iff, smeared_smear n i, decide_eq_true_iff,
    Nat.lt_size]
  constructor
  · rintro ⟨j, hle, -, hj⟩
    calc 2 ^ i ≤ 2 ^ j := Nat.pow_le_pow_right Nat.two_pos hle
      _ ≤ n.toNat := Nat.ge_two_pow_of_testBit hj
  · intro hi
    obtain ⟨j, hle, hj⟩ := Nat.exists_ge_and_testBit_of_ge_two_pow hi
    have hj64 : 2 ^ j < 2 ^ 64 := Nat.lt_of_le_of_lt (Nat.ge_two_pow_of_testBit hj) n.toNat_lt
    have hlt : j < 64 := (Nat.pow_lt_pow_iff_right Nat.one_lt_two).mp hj64
    exact ⟨j, hle, by omega, hj⟩

/-- Masking by a smeared word takes a remainder. -/
lemma toNat_and_smear (word n : UInt64) :
    (word &&& smear n).toNat = word.toNat % 2 ^ n.toNat.size := by
  rw [UInt64.toNat_and, toNat_smear, Nat.and_two_pow_sub_one_eq_mod]

/-! ### The mask of a bound -/

section

variable {n : UInt64} (hn : n ≠ 0)

include hn

lemma toNat_pred_add_one : (n - 1).toNat + 1 = n.toNat := by
  have hpos : 1 ≤ n.toNat := by
    rw [Nat.one_le_iff_ne_zero, ne_eq, ← UInt64.toNat_zero, UInt64.toNat_inj]
    exact hn
  have hle : 1 ≤ n := UInt64.le_iff_toNat_le.mpr hpos
  rw [UInt64.toNat_sub_of_le _ _ hle]
  exact Nat.sub_add_cancel hpos

/-- Every value below the bound is below the power. -/
lemma toNat_le_two_pow_size : n.toNat ≤ 2 ^ (n - 1).toNat.size := by
  rw [← toNat_pred_add_one hn]
  exact Nat.lt_size_self _

/-- The power is less than twice the bound. -/
lemma two_pow_size_lt : 2 ^ (n - 1).toNat.size < 2 * n.toNat := by
  have hpred := toNat_pred_add_one hn
  cases hsize : (n - 1).toNat.size with
  | zero => omega
  | succ k =>
    have hk : 2 ^ k ≤ (n - 1).toNat := Nat.lt_size.mp (by omega)
    rw [Nat.pow_succ]
    omega

/-- A value below the bound keeps all its bits when it is masked. -/
lemma and_smear_of_lt {v : UInt64} (hv : v < n) : v &&& smear (n - 1) = v := by
  apply UInt64.toNat_inj.mp
  rw [toNat_and_smear]
  apply Nat.mod_eq_of_lt
  exact Nat.lt_of_lt_of_le (UInt64.lt_iff_toNat_lt.mp hv) (toNat_le_two_pow_size hn)

end

end Jury.RandomSource
