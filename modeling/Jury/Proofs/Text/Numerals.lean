import Mathlib.Algebra.Group.Nat.Defs
import Mathlib.Data.List.Basic
import Mathlib.Data.List.Infix
import Jury.Proofs.Text.Fields
import Jury.Text.Decimal

/-!
# Reading back written numbers

A number in decimal digits is solid text, and it is read back as the number by every reader whose
bound it is below (`unsigned?_toString`). Of what is cut off from its end, only the number zero
itself is read as zero (`eq_zero_of_isPrefix`). A text is read as an integer just if it spells the
integer and that is in range (`signed?_eq_some_iff`).
-/

namespace Jury.Text

lemma digit?_of_isDigit {c : Char} (h : c.isDigit = true) :
    digit? c = some (c.toNat - '0'.toNat) := by
  have hrange : '0' ≤ c ∧ c ≤ '9' := by simpa [Char.isDigit, Char.le_def] using h
  rw [digit?, if_pos hrange]

lemma isDigit_eq (c : Char) : isDigit c = c.isDigit := by
  simp only [isDigit, digit?, Char.isDigit, Char.le_def]
  split_ifs with h
  · simpa using h
  · simpa using h

lemma naturalFrom_eq_ofDigitChars {cs : List Char} (h : ∀ c ∈ cs, c.isDigit = true) (high : Nat) :
    naturalFrom high cs = some (Nat.ofDigitChars 10 cs high) := by
  induction cs generalizing high with
  | nil => simp [naturalFrom]
  | cons c cs ih =>
    rw [List.forall_mem_cons] at h
    rw [naturalFrom, digit?_of_isDigit h.1, Option.bind_some, ih h.2, Nat.ofDigitChars_cons,
      Nat.mul_comm]

lemma isDigit_of_mem_of_naturalFrom {high n : Nat} {cs : List Char}
    (h : naturalFrom high cs = some n) {c : Char} (hc : c ∈ cs) : c.isDigit = true := by
  induction cs generalizing high with
  | nil => cases hc
  | cons d cs ih =>
    obtain ⟨value, hdigit, hrest⟩ := Option.bind_eq_some_iff.mp h
    rcases List.mem_cons.mp hc with rfl | hc
    · rw [digit?] at hdigit
      split_ifs at hdigit with hrange
      simpa [Char.isDigit, Char.le_def] using hrange
    · exact ih hrest hc

/-- What is read as a number is digits, but for a plus sign. -/
lemma isDigit_of_mem_of_unsigned? {bound n : Nat} {text : String}
    (h : unsigned? bound text = some n) {c : Char} (hc : c ∈ text.toList) :
    c.isDigit = true ∨ c = '+' := by
  have hnatural : ∀ cs, natural? cs = some n → ∀ c ∈ cs, c.isDigit = true := by
    intro cs hcs c hc
    rw [natural?] at hcs
    split_ifs at hcs
    exact isDigit_of_mem_of_naturalFrom hcs hc
  rw [unsigned?] at h
  have hread := (Option.filter_eq_some_iff.mp h).1
  split at hread
  · next digits htext =>
    rw [htext] at hc
    rcases List.mem_cons.mp hc with rfl | hc
    · exact .inr rfl
    · exact .inl (hnatural digits hread c hc)
  · exact .inl (hnatural _ hread c hc)

lemma le_ofDigitChars (cs : List Char) (high : Nat) :
    high * 10 ^ cs.length ≤ Nat.ofDigitChars 10 cs high := by
  induction cs generalizing high with
  | nil => simp
  | cons c cs ih =>
    rw [Nat.ofDigitChars_cons, List.length_cons, Nat.pow_succ']
    refine Nat.le_trans ?_ (ih _)
    rw [← Nat.mul_assoc]
    exact Nat.mul_le_mul_right _ (by omega)

lemma ofDigitChars_lt {cs : List Char} (hdigits : ∀ c ∈ cs, c.isDigit = true) (high : Nat) :
    Nat.ofDigitChars 10 cs high < (high + 1) * 10 ^ cs.length := by
  induction cs generalizing high with
  | nil => simp
  | cons c cs ih =>
    rw [List.forall_mem_cons, Char.isDigit_iff_toNat] at hdigits
    have hnine : '9'.toNat = '0'.toNat + 9 := rfl
    rw [Nat.ofDigitChars_cons, List.length_cons, Nat.pow_succ', ← Nat.mul_assoc]
    refine Nat.lt_of_lt_of_le (ih hdigits.2 _) (Nat.mul_le_mul_right _ ?_)
    omega

lemma isDigit_of_mem_toString {n : Nat} {c : Char} (h : c ∈ (toString n).toList) :
    c.isDigit = true := by
  have hcs : (toString n).toList = Nat.toDigits 10 n := Nat.toList_repr
  rw [hcs] at h
  exact Nat.isDigit_of_mem_toDigits (by decide) (by decide) h

/-- A row of digits is read as the number it stands for, if that is below the bound. -/
lemma unsigned?_eq_some_iff {text : String} (hne : text ≠ "")
    (hdigits : ∀ c ∈ text.toList, c.isDigit = true) {bound n : Nat} :
    unsigned? bound text = some n ↔ Nat.ofDigitChars 10 text.toList 0 = n ∧ n < bound := by
  have hplus : ∀ digits, text.toList ≠ '+' :: digits := by
    intro digits htext
    have := hdigits '+' (by simp [htext])
    simp [Char.isDigit] at this
  have hsome : natural? text.toList = some (Nat.ofDigitChars 10 text.toList 0) := by
    have hempty : text.toList.isEmpty = false := by simpa using hne
    rw [natural?, hempty, naturalFrom_eq_ofDigitChars hdigits]
    rfl
  rw [unsigned?]
  split
  · next heq => exact absurd heq (hplus _)
  · rw [hsome, Option.filter_eq_some_iff]
    simp +contextual

/-- A written number is read back. -/
lemma unsigned?_toString {bound n : Nat} (h : n < bound) :
    unsigned? bound (toString n) = some n := by
  have hcs : (toString n).toList = Nat.toDigits 10 n := Nat.toList_repr
  rw [unsigned?_eq_some_iff, hcs, Nat.ofDigitChars_toDigits (by decide) (by decide)]
  · exact ⟨rfl, h⟩
  · simp
  · exact fun c => isDigit_of_mem_toString

/-- A written word is read back. -/
lemma word?_toString (n : UInt32) : word? (toString n) = some n := by
  have hread : unsigned? UInt32.size (toString n.toNat) = some n.toNat :=
    unsigned?_toString n.toNat_lt
  change (unsigned? UInt32.size (toString n.toNat)).map Nat.toUInt32 = some n
  rw [hread]
  simp

lemma not_isBlank_of_isDigit {c : Char} (h : c.isDigit = true) : isBlank c = false := by
  simp only [Char.isDigit, Bool.and_eq_true, decide_eq_true_eq, ge_iff_le,
    UInt32.le_iff_toNat_le] at h
  have hrange : 48 ≤ c.toNat ∧ c.toNat ≤ 57 := h
  simp only [isBlank, Bool.or_eq_false_iff, Bool.and_eq_false_iff, decide_eq_false_iff_not,
    beq_eq_false_iff_ne]
  omega

/-- A written number holds no blanks. -/
lemma isSolid_toString (n : Nat) : IsSolid (toString n) := by
  refine ⟨?_, fun c hc => ?_⟩
  · simp
  · exact not_isBlank_of_isDigit (isDigit_of_mem_toString hc)

/-! ### Numbers that are cut off -/

/-- A written number other than zero does not begin with a zero. -/
lemma head?_toDigits {n : Nat} (h : 0 < n) : (Nat.toDigits 10 n).head? ≠ some '0' := by
  induction n using Nat.strongRecOn with
  | ind n ih =>
    rcases Nat.lt_or_ge n 10 with hlt | hge
    · have hdigit : ∀ m < 10, 0 < m → m.digitChar ≠ '0' := by decide
      rw [Nat.toDigits_of_lt_base hlt]
      exact fun hhead => hdigit n hlt h (Option.some.inj hhead)
    · rw [Nat.toDigits_of_base_le (by decide) hge,
        List.head?_append_of_ne_nil _ Nat.toDigits_ne_nil]
      exact ih (n / 10) (by omega) (by omega)

/-- Of the beginnings of a written number, only zero itself is read as zero. -/
lemma eq_zero_of_isPrefix {bound n : Nat} {text : String} (hne : text ≠ "")
    (hfront : text.toList <+: (toString n).toList) (hread : unsigned? bound text = some 0) :
    n = 0 := by
  have hcs : (toString n).toList = Nat.toDigits 10 n := Nat.toList_repr
  have hdigits : ∀ c ∈ text.toList, c.isDigit = true :=
    fun c hc => isDigit_of_mem_toString (hfront.subset hc)
  have hvalue := ((unsigned?_eq_some_iff hne hdigits).mp hread).1
  obtain ⟨c, cs, htext⟩ := List.exists_cons_of_ne_nil (String.toList_eq_nil_iff.not.mpr hne)
  rw [htext] at hfront hdigits hvalue
  rw [hcs] at hfront
  -- a first digit other than zero would count
  have hfirst : c.toNat - '0'.toNat = 0 := by
    have hle := le_ofDigitChars cs (10 * 0 + (c.toNat - '0'.toNat))
    rw [Nat.ofDigitChars_cons] at hvalue
    rw [hvalue, Nat.le_zero, Nat.mul_eq_zero] at hle
    have := Nat.pow_pos (n := cs.length) (by decide : 0 < 10)
    omega
  have hzero : c = '0' := by
    have hrange := Char.isDigit_iff_toNat.mp (hdigits c List.mem_cons_self)
    exact Char.toNat_inj.mp (by omega)
  by_contra hpos
  apply head?_toDigits (Nat.pos_of_ne_zero hpos)
  obtain ⟨rest, hrest⟩ := hfront
  rw [← hrest, hzero]
  rfl

/-! ### Integers -/

/-- A row of at least one digit. -/
def IsNumeral (digits : List Char) : Prop :=
  digits ≠ [] ∧ ∀ c ∈ digits, c.isDigit = true

instance (digits : List Char) : Decidable (IsNumeral digits) :=
  decidable_of_iff (digits ≠ [] ∧ digits.all Char.isDigit = true) (by simp [IsNumeral])

/-- Whether characters spell an integer in decimal: at least one digit, and a sign or none. -/
inductive SpellsInteger : List Char → Int → Prop
  | unsigned {digits : List Char} (h : IsNumeral digits) :
      SpellsInteger digits (Nat.ofDigitChars 10 digits 0)
  | plus {digits : List Char} (h : IsNumeral digits) :
      SpellsInteger ('+' :: digits) (Nat.ofDigitChars 10 digits 0)
  | minus {digits : List Char} (h : IsNumeral digits) :
      SpellsInteger ('-' :: digits) (-(Nat.ofDigitChars 10 digits 0 : Int))

lemma natural?_eq_some_iff {digits : List Char} {n : Nat} :
    natural? digits = some n ↔ IsNumeral digits ∧ Nat.ofDigitChars 10 digits 0 = n := by
  rw [natural?]
  split_ifs with hempty
  · simp [IsNumeral, List.isEmpty_iff.mp hempty]
  · rw [List.isEmpty_iff] at hempty
    constructor
    · intro h
      have hdigits : ∀ c ∈ digits, c.isDigit = true :=
        fun c => isDigit_of_mem_of_naturalFrom h
      rw [naturalFrom_eq_ofDigitChars hdigits] at h
      exact ⟨⟨hempty, hdigits⟩, Option.some.inj h⟩
    · rintro ⟨⟨-, hdigits⟩, rfl⟩
      exact naturalFrom_eq_ofDigitChars hdigits 0

/-- A written number is read back as it stands. -/
lemma natural?_toString (n : Nat) : natural? (toString n).toList = some n := by
  have hcs : (toString n).toList = Nat.toDigits 10 n := Nat.toList_repr
  refine natural?_eq_some_iff.mpr ⟨⟨by simp, fun c => isDigit_of_mem_toString⟩, ?_⟩
  rw [hcs, Nat.ofDigitChars_toDigits (by decide) (by decide)]

lemma IsNumeral.head_ne {digits : List Char} (h : IsNumeral digits) {c : Char}
    (hc : c.isDigit = false) (rest : List Char) : digits ≠ c :: rest := by
  rintro rfl
  rw [h.2 c List.mem_cons_self] at hc
  cases hc

/-- What is read of digits whose value is asked to meet a condition. -/
lemma natural?_bind_eq_some_iff {digits : List Char} {p : Nat → Prop} [DecidablePred p]
    {f : Nat → Int} {n : Int} :
    ((natural? digits).bind fun m => if p m then some (f m) else none) = some n ↔
      IsNumeral digits ∧ p (Nat.ofDigitChars 10 digits 0) ∧
        f (Nat.ofDigitChars 10 digits 0) = n := by
  rw [Option.bind_eq_some_iff]
  constructor
  · rintro ⟨m, hm, h⟩
    obtain ⟨hdigits, rfl⟩ := natural?_eq_some_iff.mp hm
    split_ifs at h with hp
    exact ⟨hdigits, hp, Option.some.inj h⟩
  · rintro ⟨hdigits, hp, rfl⟩
    exact ⟨_, natural?_eq_some_iff.mpr ⟨hdigits, rfl⟩, if_pos hp⟩

/-- An integer is read just if the text spells it and it is in range. -/
lemma signed?_eq_some_iff {bound : Nat} (hbound : 0 < bound) {text : String} {n : Int} :
    signed? bound text = some n ↔ SpellsInteger text.toList n ∧ -(bound : Int) ≤ n ∧ n < bound := by
  constructor
  · intro h
    rw [signed?] at h
    split at h
    · next digits htext =>
      obtain ⟨hdigits, hrange, rfl⟩ := natural?_bind_eq_some_iff.mp h
      rw [htext]
      exact ⟨.minus hdigits, by omega, by omega⟩
    · next digits htext =>
      obtain ⟨hdigits, hrange, rfl⟩ := natural?_bind_eq_some_iff.mp h
      rw [htext]
      exact ⟨.plus hdigits, by omega, by omega⟩
    · obtain ⟨hdigits, hrange, rfl⟩ := natural?_bind_eq_some_iff.mp h
      exact ⟨.unsigned hdigits, by omega, by omega⟩
  · rintro ⟨hspells, hlow, hhigh⟩
    rw [signed?]
    generalize text.toList = cs at hspells
    cases hspells with
    | minus hdigits => exact natural?_bind_eq_some_iff.mpr ⟨hdigits, by omega, rfl⟩
    | plus hdigits => exact natural?_bind_eq_some_iff.mpr ⟨hdigits, by omega, rfl⟩
    | unsigned hdigits =>
      split
      · exact absurd rfl (hdigits.head_ne rfl _)
      · exact absurd rfl (hdigits.head_ne rfl _)
      · exact natural?_bind_eq_some_iff.mpr ⟨hdigits, by omega, rfl⟩

end Jury.Text
