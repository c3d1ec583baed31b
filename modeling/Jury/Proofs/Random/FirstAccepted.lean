import Mathlib.Order.Bounds.Basic
import Jury.Proofs.Random.Uniform

/-!
# What a draw takes from its words

A draw from a range takes words up to the first one that is small enough when masked, and adds the
masked word to the lower end of the range (`range_eq_first`). The mask is the least number of the
form `2 ^ k - 1` that has room for every value, and no operation on machine words wraps around.
-/

namespace Jury.RandomSource

/-! ### The mask as a number -/

section

variable {n : UInt64} (hn : n ≠ 0)

include hn

/-- The mask of a bound is the least row of ones that is not below the largest value. -/
lemma isLeast_smear :
    IsLeast {m | (∃ k, m = 2 ^ k - 1) ∧ n.toNat - 1 ≤ m} (smear (n - 1)).toNat := by
  have hpred : n.toNat - 1 = (n - 1).toNat := Nat.sub_eq_of_eq_add (toNat_pred_add_one hn).symm
  rw [toNat_smear, hpred]
  constructor
  · refine ⟨⟨_, rfl⟩, ?_⟩
    exact Nat.le_sub_one_of_lt (Nat.lt_size_self _)
  · rintro m ⟨⟨k, rfl⟩, hle⟩
    have hlt : (n - 1).toNat < 2 ^ k :=
      Nat.lt_of_le_of_lt hle (Nat.sub_lt (Nat.two_pow_pos k) Nat.one_pos)
    have hsize : (n - 1).toNat.size ≤ k := Nat.size_le.mpr hlt
    exact Nat.sub_le_sub_right (Nat.pow_le_pow_right Nat.two_pos hsize) 1

/-- No word is drawn in vain if the bound is a power of two. -/
lemma isRejected_of_two_pow {k : Nat} (h : n.toNat = 2 ^ k) (word : UInt64) :
    isRejected n word = false := by
  have hlt : (n - 1).toNat < 2 ^ k := by
    rw [← h, ← toNat_pred_add_one hn]
    exact Nat.lt_succ_self _
  have hsize : (n - 1).toNat.size ≤ k := Nat.size_le.mpr hlt
  rw [← Bool.not_eq_true, isRejected_eq_true_iff, Nat.not_le, h]
  calc word.toNat % 2 ^ (n - 1).toNat.size
      < 2 ^ (n - 1).toNat.size := Nat.mod_lt _ (Nat.two_pow_pos _)
    _ ≤ 2 ^ k := Nat.pow_le_pow_right Nat.two_pos hsize

end

lemma isRejected_eq_false_iff_toNat {n word : UInt64} :
    isRejected n word = false ↔ word.toNat &&& (smear (n - 1)).toNat < n.toNat := by
  rw [isRejected_eq_false_iff, UInt64.lt_iff_toNat_lt, UInt64.toNat_and]

lemma isRejected_eq_true_iff_toNat {n word : UInt64} :
    isRejected n word = true ↔ n.toNat ≤ word.toNat &&& (smear (n - 1)).toNat := by
  rw [← Bool.not_eq_false, isRejected_eq_false_iff_toNat, Nat.not_lt]

/-! ### The words that are taken -/

lemma below_append_cons {n : UInt64} {front : List UInt64} {word : UInt64}
    (hfront : ∀ w ∈ front, isRejected n w = true) (hword : isRejected n word = false)
    (rest : List UInt64) :
    below n (front ++ word :: rest) = (.ok (word &&& smear (n - 1)), rest) := by
  rw [below_eq, List.dropWhile_append_of_pos hfront, List.dropWhile_cons_of_neg (by simp [hword])]

lemma below_of_forall {n : UInt64} {script : List UInt64}
    (h : ∀ w ∈ script, isRejected n w = true) : below n script = (.error .exhausted, []) := by
  rw [below_eq, List.dropWhile_eq_nil_iff.mpr h]

/-! ### Draws from a range -/

/-- Whether all operations on machine words are exact when a value from `lo` to `hi - 1` is drawn:
none wraps around. -/
structure IsExact (lo hi : UInt64) : Prop where
  size : (hi - lo).toNat + lo.toNat = hi.toNat
  largest : (hi - lo - 1).toNat + 1 = (hi - lo).toNat
  value : ∀ word, word &&& smear (hi - lo - 1) < hi - lo →
    (lo + (word &&& smear (hi - lo - 1))).toNat =
      lo.toNat + (word &&& smear (hi - lo - 1)).toNat

section

variable {lo hi : UInt64} (h : lo < hi)

include h

lemma isExact : IsExact lo hi where
  size := toNat_sub_add h
  largest := toNat_pred_add_one (sub_ne_zero h)
  value _ hword := toNat_add_of_lt_sub h hword

lemma range_of_below {script rest : List UInt64} {x : UInt64}
    (hbelow : below (hi - lo) script = (.ok x, rest)) (hx : x < hi - lo) :
    ∃ v, range lo hi script = (.ok v, rest) ∧ v.toNat = lo.toNat + x.toNat ∧ lo ≤ v ∧ v < hi := by
  refine ⟨lo + x, ?_, toNat_add_of_lt_sub h hx, add_mem_of_lt_sub h hx⟩
  rw [range, if_pos h, hbelow]
  rfl

end

/-- **A draw takes words up to the first that is small enough.** Let `n` be the number of values
from `lo` to `hi - 1`, and `m` the least number of the form `2 ^ k - 1` with `n - 1 ≤ m`. The first
word that is below `n` when masked by `m` gives the value, counted from `lo`; the words up to it
are taken and no more, and every operation on machine words is exact. If there is no such word, all
are taken and the script is exhausted. If `n` is a power of two, the first word will do. From an
empty range nothing is drawn and no word is taken. -/
theorem range_eq_first (lo hi : UInt64) (script : List UInt64) :
    (lo < hi → IsExact lo hi ∧
      let n := hi.toNat - lo.toNat
      ∃ m, IsLeast {m | (∃ k, m = 2 ^ k - 1) ∧ n - 1 ≤ m} m ∧
        (∀ front word rest, script = front ++ word :: rest →
          (∀ w ∈ front, n ≤ w.toNat &&& m) → word.toNat &&& m < n →
          ∃ v, range lo hi script = (.ok v, rest) ∧ v.toNat = lo.toNat + (word.toNat &&& m) ∧
            lo ≤ v ∧ v < hi) ∧
        ((∀ w ∈ script, n ≤ w.toNat &&& m) → range lo hi script = (.error .exhausted, [])) ∧
        ∀ k word rest, n = 2 ^ k → script = word :: rest →
          ∃ v, range lo hi script = (.ok v, rest) ∧ v.toNat = lo.toNat + (word.toNat &&& m)) ∧
    (hi ≤ lo → range lo hi script = (.error (.emptyRange lo hi), script)) := by
  constructor
  · intro h
    have hn : (hi - lo).toNat = hi.toNat - lo.toNat := Nat.eq_sub_of_add_eq (toNat_sub_add h)
    have hne := sub_ne_zero h
    have hdraw : ∀ front word rest, script = front ++ word :: rest →
        (∀ w ∈ front, isRejected (hi - lo) w = true) → isRejected (hi - lo) word = false →
        ∃ v, range lo hi script = (.ok v, rest) ∧
          v.toNat = lo.toNat + (word.toNat &&& (smear (hi - lo - 1)).toNat) ∧ lo ≤ v ∧ v < hi := by
      rintro front word rest rfl hfront hword
      rw [← UInt64.toNat_and]
      exact range_of_below h (below_append_cons hfront hword rest)
        (isRejected_eq_false_iff.mp hword)
    refine ⟨isExact h, (smear (hi - lo - 1)).toNat, ?_, ?_, ?_, ?_⟩
    · rw [← hn]
      exact isLeast_smear hne
    · intro front word rest hscript hfront hword
      apply hdraw front word rest hscript
      · intro w hw
        rw [isRejected_eq_true_iff_toNat, hn]
        exact hfront w hw
      · rw [isRejected_eq_false_iff_toNat, hn]
        exact hword
    · intro hall
      have hrejected : ∀ w ∈ script, isRejected (hi - lo) w = true := by
        intro w hw
        rw [isRejected_eq_true_iff_toNat, hn]
        exact hall w hw
      rw [range, if_pos h, below_of_forall hrejected]
      rfl
    · intro k word rest hpow hscript
      have hword := isRejected_of_two_pow hne (hn.trans hpow) word
      obtain ⟨v, hrange, hvalue, -⟩ := hdraw [] word rest hscript (by simp) hword
      exact ⟨v, hrange, hvalue⟩
  · intro h
    rw [range, if_neg (UInt64.not_lt.mpr h)]

/-- Six values at the upper end of all words, drawn by a mask of three bits: the first word is
taken in vain, and the last is left. -/
theorem range_eq_first_taken :
    let lo : UInt64 := 18446744073709551609
    let hi : UInt64 := 18446744073709551615
    let script : List UInt64 := [14, 0xFFFFFFFFFFFFFFFD, 3]
    lo < hi ∧ IsExact lo hi ∧ range lo hi script = (.ok 18446744073709551614, [3]) := by
  intro lo hi script
  have hlt : lo < hi := by decide
  obtain ⟨hexact, m, hleast, hfirst, -⟩ := (range_eq_first lo hi script).1 hlt
  have hlargest : hi.toNat - lo.toNat - 1 = 5 := by decide
  have hseven : IsLeast {m | (∃ k, m = 2 ^ k - 1) ∧ hi.toNat - lo.toNat - 1 ≤ m} 7 := by
    rw [hlargest]
    refine ⟨⟨⟨3, rfl⟩, by decide⟩, ?_⟩
    rintro m ⟨⟨k, rfl⟩, hle⟩
    -- fewer than three ones are at most three
    by_contra hlt
    have hk : 2 ^ k < 2 ^ 3 := by omega
    have hk2 : k ≤ 2 := Nat.le_of_lt_succ ((Nat.pow_lt_pow_iff_right Nat.one_lt_two).mp hk)
    have := Nat.pow_le_pow_right Nat.two_pos hk2
    omega
  obtain rfl := hleast.unique hseven
  obtain ⟨v, hrange, hvalue, -⟩ :=
    hfirst [14] 0xFFFFFFFFFFFFFFFD [3] rfl (List.forall_mem_singleton.mpr (by decide)) (by decide)
  have hv : v = 18446744073709551614 := UInt64.toNat_inj.mp hvalue
  exact ⟨hlt, hexact, hv ▸ hrange⟩

end Jury.RandomSource
