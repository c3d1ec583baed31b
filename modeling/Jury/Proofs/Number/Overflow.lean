import Mathlib.Data.List.Basic
import Mathlib.Tactic.Ring
import Jury.Number.Parse
import Jury.Proofs.Text.Numerals

/-!
# Numbers that are too large

Rounding ends in an infinity from 2^1024 - 2^970 on (`isFinite_nearest_iff`): there the largest
finite number and 2^1024 are equally near, and the tie goes to the one beyond the range. The same
holds of a row of digits that is read as a decimal (`isFinite_ofDecimal_iff`), where the lengths of
the rows decide beforehand about what is far too large or far too small.
-/

namespace Jury.Binary64

/-! ### Rounding to an even quotient -/

section

variable {num den k : Nat}

lemma le_divideToEven (hden : 0 < den) (h : k * den ≤ num) : k ≤ divideToEven num den := by
  have hquotient : k ≤ num / den := (Nat.le_div_iff_mul_le hden).mpr h
  rw [divideToEven]
  split_ifs <;> omega

lemma divideToEven_le (hden : 0 < den) (h : num < k * den) : divideToEven num den ≤ k := by
  have hquotient : num / den < k := (Nat.div_lt_iff_lt_mul hden).mpr h
  rw [divideToEven]
  split_ifs <;> omega

/-- A quotient stays below an even number if it is nearer to the odd one before. -/
lemma divideToEven_lt_iff (hden : 0 < den) :
    divideToEven num den < 2 * (k + 1) ↔ 2 * num < (4 * k + 3) * den := by
  have hnum := Nat.div_add_mod num den
  have hmod := Nat.mod_lt num hden
  have hhalf : (4 * k + 3) * den = 2 * ((2 * k + 1) * den) + den := by ring
  rw [divideToEven, hhalf]
  rcases Nat.lt_trichotomy (num / den) (2 * k + 1) with hlt | hodd | hgt
  · have hfar : num < (2 * k + 1) * den := (Nat.div_lt_iff_lt_mul hden).mp hlt
    split_ifs <;> omega
  · rw [hodd, Nat.mul_comm] at hnum
    split_ifs <;> omega
  · have hfar : (2 * k + 2) * den ≤ num := (Nat.le_div_iff_mul_le hden).mp hgt
    have hstep : (2 * k + 2) * den = (2 * k + 1) * den + den := by ring
    split_ifs <;> omega

end

/-! ### Rounding to 53 bits -/

lemma lt_two_pow_spacing (units : Nat) : units < 2 ^ (53 + spacing units) := by
  refine Nat.lt_of_lt_of_le Nat.lt_log2_self (Nat.pow_le_pow_right (by decide) ?_)
  rw [spacing]
  omega

lemma two_pow_spacing_le {units : Nat} (h : 0 < spacing units) :
    2 ^ (52 + spacing units) ≤ units := by
  rw [spacing] at h ⊢
  have hunits : units ≠ 0 := by
    rintro rfl
    simp at h
  have hlog : 52 + (units.log2 - 52) = units.log2 := by omega
  rw [hlog]
  exact Nat.log2_self_le hunits

/-- Rounding to 53 bits stays below 2^(54 + top) up to halfway from the last number before. -/
lemma rounded_lt_iff (top : Nat) {num den shift : Nat} (hden : 0 < den)
    (hupper : num < 2 ^ (53 + shift) * den) (hlower : 0 < shift → 2 ^ (52 + shift) * den ≤ num) :
    divideToEven num (den * 2 ^ shift) * 2 ^ shift < 2 ^ (54 + top) ↔
      num < (2 ^ 54 - 1) * (2 ^ top * den) := by
  have hwide : 0 < den * 2 ^ shift := Nat.mul_pos hden (Nat.two_pow_pos shift)
  rw [Nat.pow_add, Nat.mul_assoc, Nat.mul_comm (2 ^ shift)] at hupper hlower
  rcases Nat.lt_trichotomy shift (top + 1) with hshort | rfl | hlong
  · have hstep : 2 ^ shift ≤ 2 ^ top := Nat.pow_le_pow_right (by decide) (by omega)
    have hsmall : den * 2 ^ shift ≤ 2 ^ top * den := by
      rw [Nat.mul_comm]
      exact Nat.mul_le_mul_right den hstep
    have hrounded := Nat.mul_le_mul (divideToEven_le hwide hupper) hstep
    have htop : 0 < 2 ^ top := Nat.two_pow_pos top
    rw [Nat.pow_add 2 54]
    omega
  · have heven : 2 ^ 53 = 2 * (2 ^ 52 - 1 + 1) := by decide
    have hhalf : (4 * (2 ^ 52 - 1) + 3) * (den * 2 ^ (top + 1)) =
        2 * ((2 ^ 54 - 1) * (2 ^ top * den)) := by
      have hodd : 4 * (2 ^ 52 - 1) + 3 = 2 ^ 54 - 1 := by decide
      rw [hodd, Nat.pow_succ]
      ring
    have hpow : 2 ^ (54 + top) = 2 ^ 53 * 2 ^ (top + 1) := by
      rw [← Nat.pow_add]
      congr 1
      omega
    rw [hpow, Nat.mul_lt_mul_right (Nat.two_pow_pos (top + 1)), heven, divideToEven_lt_iff hwide,
      hhalf]
    omega
  · have hstep : 2 ^ (top + 2) ≤ 2 ^ shift := Nat.pow_le_pow_right (by decide) hlong
    have hleast := hlower (by omega)
    have hlarge : 2 ^ top * den * 4 ≤ den * 2 ^ shift := by
      calc 2 ^ top * den * 4 = den * 2 ^ (top + 2) := by rw [Nat.pow_add]; ring
        _ ≤ den * 2 ^ shift := Nat.mul_le_mul_left den hstep
    have hrounded := Nat.mul_le_mul (le_divideToEven hwide hleast) hstep
    have hpos : 0 < 2 ^ top * den := Nat.mul_pos (Nat.two_pow_pos top) hden
    rw [Nat.pow_add 2 54]
    rw [Nat.pow_add] at hrounded
    omega

/-- Rounding ends in an infinity from halfway between the largest finite number and 2^1024 on, in
units of 2^-1074. -/
lemma isFinite_nearest_iff (negative : Bool) (num : Nat) {den : Nat} (hden : 0 < den) :
    (nearest negative num den).isFinite = true ↔ num < (2 ^ 54 - 1) * (2 ^ 2044 * den) := by
  have hceiling : ceiling = 2 ^ (54 + 2044) := by decide +kernel
  have hfinite : (nearest negative num den).isFinite = true ↔
      divideToEven num (den * 2 ^ spacing (num / den)) * 2 ^ spacing (num / den) <
        2 ^ (54 + 2044) := by
    rw [nearest, Nat.shiftLeft_eq, Nat.shiftLeft_eq, hceiling]
    split_ifs with h
    · exact iff_of_true rfl h
    · exact iff_of_false Bool.false_ne_true h
  rw [hfinite]
  apply rounded_lt_iff 2044 hden
  · exact (Nat.div_lt_iff_lt_mul hden).mp (lt_two_pow_spacing (num / den))
  · intro hspacing
    exact (Nat.le_div_iff_mul_le hden).mp (two_pow_spacing_le hspacing)

/-! ### Decimals -/

/-- The least size that is rounded to an infinity. -/
def limit : Nat :=
  2 ^ 1024 - 2 ^ 970

lemma limit_mul_one : limit * one = (2 ^ 54 - 1) * 2 ^ 2044 := by
  decide +kernel

lemma isFinite_nearest_mul_one_iff (negative : Bool) (value : Nat) {den : Nat} (hden : 0 < den) :
    (nearest negative (value * one) den).isFinite = true ↔ value < limit * den := by
  have hone : 0 < one := by decide +kernel
  rw [isFinite_nearest_iff negative _ hden, ← Nat.mul_assoc, ← limit_mul_one, Nat.mul_right_comm,
    Nat.mul_lt_mul_right hone]

/-- A decimal of as many digits as it says is read as an infinity from the limit on. -/
lemma isFinite_ofScaled_iff (negative : Bool) {value length : Nat} (places : Nat)
    (hlow : value ≠ 0 → 10 ^ length ≤ 10 * value) (hhigh : value < 10 ^ length) :
    (ofScaled negative value length (-places)).isFinite = true ↔ value < limit * 10 ^ places := by
  have hscale : 0 < 10 ^ places := Nat.pow_pos (by decide)
  have hlimit : 0 < limit ∧ limit ≤ 10 ^ 310 := by decide +kernel
  rw [ofScaled]
  split_ifs with hzero hlarge hsmall hwhole
  · subst hzero
    exact iff_of_true rfl (Nat.mul_pos hlimit.1 hscale)
  · have hlength : 10 ^ (1 + (310 + places)) ≤ 10 ^ length :=
      Nat.pow_le_pow_right (by decide) (by omega)
    have hbeyond : limit * 10 ^ places ≤ 10 ^ 310 * 10 ^ places :=
      Nat.mul_le_mul_right _ hlimit.2
    have hvalue := hlow hzero
    rw [Nat.pow_add, Nat.pow_add] at hlength
    exact iff_of_false Bool.false_ne_true (by omega)
  · have hlength : 10 ^ length ≤ 10 ^ places := Nat.pow_le_pow_right (by decide) (by omega)
    have hwithin : 10 ^ places ≤ limit * 10 ^ places := Nat.le_mul_of_pos_left _ hlimit.1
    exact iff_of_true rfl (by omega)
  · obtain rfl : places = 0 := by omega
    simpa using isFinite_nearest_mul_one_iff negative value (Nat.one_pos)
  · have hplaces : (- -(places : Int)).toNat = places := by omega
    rw [hplaces]
    exact isFinite_nearest_mul_one_iff negative value hscale

lemma ofDigitChars_dropWhile (cs : List Char) :
    Nat.ofDigitChars 10 (cs.dropWhile (· == '0')) 0 = Nat.ofDigitChars 10 cs 0 := by
  induction cs with
  | nil => rfl
  | cons c cs ih =>
    rw [List.dropWhile_cons]
    split_ifs with hzero
    · obtain rfl := beq_iff_eq.mp hzero
      exact ih
    · rfl

/-- Digits without a leading zero make a number of that length. -/
lemma le_ofDigitChars_of_head {cs : List Char} (hdigits : ∀ c ∈ cs, c.isDigit = true)
    (hhead : cs.head? ≠ some '0') (hvalue : Nat.ofDigitChars 10 cs 0 ≠ 0) :
    10 ^ cs.length ≤ 10 * Nat.ofDigitChars 10 cs 0 := by
  cases cs with
  | nil => exact absurd rfl hvalue
  | cons c cs =>
    rw [List.forall_mem_cons, Char.isDigit_iff_toNat] at hdigits
    have hne : c.toNat ≠ '0'.toNat := fun h => hhead (congrArg some (Char.toNat_inj.mp h))
    rw [Nat.ofDigitChars_cons, List.length_cons, Nat.pow_succ']
    apply Nat.mul_le_mul_left
    refine Nat.le_trans ?_ (Text.le_ofDigitChars cs _)
    exact Nat.le_mul_of_pos_left _ (by omega)

/-- A row of digits is read as an infinity from the limit on. -/
lemma isFinite_ofDecimal_iff (negative : Bool) (whole fraction : List Char)
    (hdigits : ∀ c ∈ whole ++ fraction, c.isDigit = true) :
    (ofDecimal negative ⟨whole, fraction, 0⟩).isFinite = true ↔
      Nat.ofDigitChars 10 (whole ++ fraction) 0 < limit * 10 ^ fraction.length := by
  have hvalue : ∀ cs : List Char,
      cs.foldl (fun n c => n * 10 + (c.toNat - '0'.toNat)) 0 = Nat.ofDigitChars 10 cs 0 := by
    intro cs
    simp only [Nat.ofDigitChars, Nat.mul_comm]
  rw [ofDecimal, ← ofDigitChars_dropWhile, hvalue, Int.zero_sub]
  have hdigits' : ∀ c ∈ (whole ++ fraction).dropWhile (· == '0'), c.isDigit = true :=
    fun c hc => hdigits c ((List.dropWhile_sublist _).subset hc)
  apply isFinite_ofScaled_iff
  · apply le_ofDigitChars_of_head hdigits'
    intro hzero
    have hhead := List.head?_dropWhile_not (· == '0') (whole ++ fraction)
    rw [hzero] at hhead
    cases hhead
  · simpa using Text.ofDigitChars_lt hdigits' 0

end Jury.Binary64
