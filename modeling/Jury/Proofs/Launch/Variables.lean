import Mathlib.Algebra.Group.Int.Defs
import Jury.Launch.Testgen
import Jury.Proofs.Launch.Descriptors
import Jury.Proofs.Text.Hex

/-!
# What variables hold

What a variable holds is said without the functions that read it: an integer is spelled by the
trimmed value and fits in 64 bits, a word is such an integer below 2^32, a descriptor is such an
integer that names an open file, and bytes are what the value is the hexadecimal form of. Reading
succeeds just if the variable holds what is wanted, and otherwise ends with the first fault that
stands in the way (`word_ends`, `descriptor_ends`, `hexBytes_ends`).
-/

namespace Jury.Launch

open Jury.Control (Except.bind_eq_ok_iff Except.bind_eq_error_iff)

/-! ### Ends -/

/-- How a computation ends: well with what `P` holds of, and otherwise with a fault that `Q` holds
of. -/
structure Ends {ε α : Type} (x : Except ε α) (P : α → Prop) (Q : ε → Prop) : Prop where
  ok_iff : ∀ a, x = .ok a ↔ P a
  error_iff : ∀ e, x = .error e ↔ Q e

lemma Ends.of_cases {ε α : Type} {x : Except ε α} {P : α → Prop} {Q : ε → Prop}
    (hok : ∀ a, P a → x = .ok a) (herror : ∀ e, Q e → x = .error e)
    (hcases : (∃ a, P a) ∨ ∃ e, Q e) : Ends x P Q := by
  rcases hcases with ⟨a, ha⟩ | ⟨e, he⟩
  · have hx := hok a ha
    refine ⟨fun b => ⟨fun h => ?_, hok b⟩, fun e => ⟨fun h => ?_, herror e⟩⟩
    · rwa [← Except.ok.inj (hx.symm.trans h)]
    · cases hx.symm.trans h
  · have hx := herror e he
    refine ⟨fun b => ⟨fun h => ?_, hok b⟩, fun e' => ⟨fun h => ?_, herror e'⟩⟩
    · cases hx.symm.trans h
    · rwa [← Except.error.inj (hx.symm.trans h)]

/-- One computation after the other ends with the first fault. -/
lemma Ends.bind {ε α β : Type} {x : Except ε α} {f : α → Except ε β} {P : α → Prop}
    {Q : ε → Prop} {P' : α → β → Prop} {Q' : α → ε → Prop} (hx : Ends x P Q)
    (hf : ∀ a, P a → Ends (f a) (P' a) (Q' a)) :
    Ends (x >>= f) (fun b => ∃ a, P a ∧ P' a b) fun e => Q e ∨ ∃ a, P a ∧ Q' a e := by
  constructor
  · intro b
    rw [Except.bind_eq_ok_iff]
    refine exists_congr fun a => ?_
    rw [hx.ok_iff]
    exact and_congr_right fun ha => (hf a ha).ok_iff b
  · intro e
    rw [Except.bind_eq_error_iff, hx.error_iff]
    refine or_congr_right (exists_congr fun a => ?_)
    rw [hx.ok_iff]
    exact and_congr_right fun ha => (hf a ha).error_iff e

/-- A result under another form, from which it can be told. -/
lemma Ends.map {ε α β : Type} {x : Except ε α} {P : α → Prop} {Q : ε → Prop} (hx : Ends x P Q)
    {f : α → β} {g : β → α} (hleft : ∀ a, g (f a) = a) :
    Ends (x.map f) (fun b => P (g b) ∧ b = f (g b)) Q := by
  apply Ends.of_cases
  · rintro b ⟨ha, hb⟩
    rw [(hx.ok_iff (g b)).mpr ha]
    exact congrArg Except.ok hb.symm
  · intro e he
    rw [(hx.error_iff e).mpr he]
    rfl
  · cases x with
    | error e => exact .inr ⟨e, (hx.error_iff e).mp rfl⟩
    | ok a => exact .inl ⟨f a, by rw [hleft]; exact (hx.ok_iff a).mp rfl, by rw [hleft]⟩

namespace Environment

open Jury.Text (SpellsInteger trim)

variable {env : Environment} {name : String} {direction : Direction} {fault : Fault}

/-! ### Integers -/

/-- Whether a variable holds an integer that fits in 64 bits. -/
def HoldsInteger (env : Environment) (name : String) (n : Int) : Prop :=
  ∃ value, env.lookup name = some value ∧ SpellsInteger (trim value).toList n ∧
    -2 ^ 63 ≤ n ∧ n < 2 ^ 63

/-- Why a variable holds no integer. -/
inductive LacksInteger (env : Environment) (name : String) : Fault → Prop
  | missing (h : env.lookup name = none) :
      LacksInteger env name (.environment (.missing name))
  | notInteger {value : String} (h : env.lookup name = some value)
      (hvalue : ∀ n, SpellsInteger (trim value).toList n → n < -2 ^ 63 ∨ 2 ^ 63 ≤ n) :
      LacksInteger env name (.environment (.notInteger name value))

lemma signed?_trim_eq_some_iff {value : String} {n : Int} :
    Text.signed? (1 <<< 63) (trim value) = some n ↔
      SpellsInteger (trim value).toList n ∧ -2 ^ 63 ≤ n ∧ n < 2 ^ 63 :=
  Text.signed?_eq_some_iff (by decide)

lemma required_of_lookup {value : String} (h : env.lookup name = some value) :
    env.required name = .ok value := by
  rw [required, h]

lemma required_of_missing (h : env.lookup name = none) :
    env.required name = .error (.environment (.missing name)) := by
  rw [required, h]

lemma integer_of_holds {n : Int} (h : env.HoldsInteger name n) : env.integer name = .ok n := by
  obtain ⟨value, hvalue, hspells⟩ := h
  rw [integer, required_of_lookup hvalue]
  simp only [bind, Except.bind, signed?_trim_eq_some_iff.mpr hspells]
  rfl

lemma integer_of_lacks (h : env.LacksInteger name fault) : env.integer name = .error fault := by
  cases h with
  | missing hmissing =>
    rw [integer, required_of_missing hmissing]
    rfl
  | @notInteger value hlookup hvalue =>
    have hnone : Text.signed? (1 <<< 63) (trim value) = none := by
      refine Option.eq_none_iff_forall_ne_some.mpr fun n hn => ?_
      obtain ⟨hspells, hlow, hhigh⟩ := signed?_trim_eq_some_iff.mp hn
      have := hvalue n hspells
      omega
    rw [integer, required_of_lookup hlookup]
    simp only [bind, Except.bind, hnone]
    rfl

/-- A variable holds an integer, or something stands in the way. -/
lemma integer_cases (env : Environment) (name : String) :
    (∃ n, env.HoldsInteger name n) ∨ ∃ fault, env.LacksInteger name fault := by
  cases hlookup : env.lookup name with
  | none => exact .inr ⟨_, .missing hlookup⟩
  | some value =>
    by_cases hvalue : ∃ n, SpellsInteger (trim value).toList n ∧ -2 ^ 63 ≤ n ∧ n < 2 ^ 63
    · obtain ⟨n, hn⟩ := hvalue
      exact .inl ⟨n, value, hlookup, hn⟩
    · refine .inr ⟨_, .notInteger hlookup fun n hn => ?_⟩
      by_contra hrange
      exact hvalue ⟨n, hn, by omega⟩

/-! ### Words -/

/-- Why a variable holds no word. -/
inductive LacksWord (env : Environment) (name : String) : Fault → Prop
  | integer {fault : Fault} (h : env.LacksInteger name fault) : LacksWord env name fault
  | notWord {n : Int} (h : env.HoldsInteger name n) (hrange : n < 0 ∨ 2 ^ 32 ≤ n) :
      LacksWord env name (.environment (.notWord name n))

lemma word_of_holds {w : UInt32} (h : env.HoldsInteger name w.toNat) : env.word name = .ok w := by
  have hrange : 0 ≤ (w.toNat : Int) ∧ (w.toNat : Int) < UInt32.size := by
    have := w.toNat_lt_size
    omega
  simp only [word, integer_of_holds h, bind, Except.bind, if_pos hrange]
  simp [pure, Except.pure]

lemma word_of_lacks (h : env.LacksWord name fault) : env.word name = .error fault := by
  cases h with
  | integer hlacks => simp only [word, integer_of_lacks hlacks, bind, Except.bind]
  | notWord hholds hrange =>
    simp only [word, integer_of_holds hholds, bind, Except.bind]
    rw [if_neg]
    · rfl
    · rintro ⟨hnonneg, hlt⟩
      have hsize : UInt32.size = 2 ^ 32 := rfl
      omega

lemma word_cases (env : Environment) (name : String) :
    (∃ w : UInt32, env.HoldsInteger name w.toNat) ∨ ∃ fault, env.LacksWord name fault := by
  rcases env.integer_cases name with ⟨n, hn⟩ | ⟨fault, hfault⟩
  · by_cases hrange : n < 0 ∨ 2 ^ 32 ≤ n
    · exact .inr ⟨_, .notWord hn hrange⟩
    · obtain ⟨m, rfl⟩ : ∃ m : Nat, n = m := Int.eq_ofNat_of_zero_le (by omega)
      have hsize : UInt32.size = 2 ^ 32 := rfl
      have hm : (UInt32.ofNat m).toNat = m := UInt32.toNat_ofNat_of_lt' (by omega)
      exact .inl ⟨UInt32.ofNat m, by rwa [hm]⟩
  · exact .inr ⟨fault, .integer hfault⟩

lemma word_ends (env : Environment) (name : String) :
    Ends (env.word name) (fun w => env.HoldsInteger name w.toNat) (env.LacksWord name) :=
  .of_cases (fun _ => word_of_holds) (fun _ => word_of_lacks) (env.word_cases name)

/-! ### Descriptors -/

/-- Whether a variable names a descriptor that is open in a direction. -/
structure Names (env : Environment) (name : String) (direction : Direction) (n : Int) : Prop where
  holds : env.HoldsInteger name n
  nonneg : 0 ≤ n
  lt : n < 2 ^ 31
  isOpen : ∃ f, env.descriptors.get? n = some f ∧ f.access.allows direction = true

/-- Why a variable names no descriptor that is open in a direction. -/
inductive LacksDescriptor (env : Environment) (name : String) (direction : Direction) :
    Fault → Prop
  | integer {fault : Fault} (h : env.LacksInteger name fault) :
      LacksDescriptor env name direction fault
  | outOfRange {n : Int} (h : env.HoldsInteger name n) (hrange : n < -2 ^ 31 ∨ 2 ^ 31 ≤ n) :
      LacksDescriptor env name direction (.descriptor (.outOfRange name n))
  | negative {n : Int} (h : env.HoldsInteger name n) (hlow : -2 ^ 31 ≤ n) (hneg : n < 0) :
      LacksDescriptor env name direction (.descriptor (.unusable name n (.negative n)))
  | closed {n : Int} (h : env.HoldsInteger name n) (hnonneg : 0 ≤ n) (hlt : n < 2 ^ 31)
      (hclosed : env.descriptors.get? n = none) :
      LacksDescriptor env name direction (.descriptor (.unusable name n (.closed n)))
  | notOpenFor {n : Int} {f : OpenFile} (h : env.HoldsInteger name n) (hnonneg : 0 ≤ n)
      (hlt : n < 2 ^ 31) (hfile : env.descriptors.get? n = some f)
      (haccess : f.access.allows direction = false) :
      LacksDescriptor env name direction
        (.descriptor (.unusable name n (.notOpenFor n direction)))

/-- A number in range is a descriptor just if it passes the check. -/
lemma descriptor_of_holds {n : Int} (h : env.HoldsInteger name n) (hlow : -2 ^ 31 ≤ n)
    (hlt : n < 2 ^ 31) :
    env.descriptor name direction = match env.descriptors.check n direction with
      | .ok () => .ok n
      | .error cause => .error (.descriptor (.unusable name n cause)) := by
  have hrange : ¬(n < Int32.minValue.toInt ∨ Int32.maxValue.toInt < n) := by
    have hleast : Int32.minValue.toInt = -2 ^ 31 := rfl
    have hmost : Int32.maxValue.toInt = 2 ^ 31 - 1 := rfl
    omega
  simp only [descriptor, integer_of_holds h, bind, Except.bind, if_neg hrange]
  rfl

lemma descriptor_of_names {n : Int} (h : env.Names name direction n) :
    env.descriptor name direction = .ok n := by
  obtain ⟨f, hfile, haccess⟩ := h.isOpen
  have hneg : ¬n < 0 := Int.not_lt.mpr h.nonneg
  rw [descriptor_of_holds h.holds (by have := h.nonneg; omega) h.lt, Descriptors.check, if_neg hneg]
  simp only [hfile, haccess, if_true]

lemma descriptor_of_lacks (h : env.LacksDescriptor name direction fault) :
    env.descriptor name direction = .error fault := by
  cases h with
  | integer hlacks => simp only [descriptor, integer_of_lacks hlacks, bind, Except.bind]
  | @outOfRange n hholds hrange =>
    have hrange' : n < Int32.minValue.toInt ∨ Int32.maxValue.toInt < n := by
      have hleast : Int32.minValue.toInt = -2 ^ 31 := rfl
      have hmost : Int32.maxValue.toInt = 2 ^ 31 - 1 := rfl
      omega
    simp only [descriptor, integer_of_holds hholds, bind, Except.bind, if_pos hrange']
    rfl
  | negative hholds hlow hneg =>
    rw [descriptor_of_holds hholds hlow (by omega), Descriptors.check, if_pos hneg]
  | closed hholds hnonneg hlt hclosed =>
    rw [descriptor_of_holds hholds (by omega) hlt, Descriptors.check, if_neg (by omega)]
    simp only [hclosed]
  | notOpenFor hholds hnonneg hlt hfile haccess =>
    rw [descriptor_of_holds hholds (by omega) hlt, Descriptors.check, if_neg (by omega)]
    simp only [hfile, haccess, Bool.false_eq_true, if_false]

lemma descriptor_cases (env : Environment) (name : String) (direction : Direction) :
    (∃ n, env.Names name direction n) ∨ ∃ fault, env.LacksDescriptor name direction fault := by
  rcases env.integer_cases name with ⟨n, hn⟩ | ⟨fault, hfault⟩
  · by_cases hrange : n < -2 ^ 31 ∨ 2 ^ 31 ≤ n
    · exact .inr ⟨_, .outOfRange hn hrange⟩
    by_cases hneg : n < 0
    · exact .inr ⟨_, .negative hn (by omega) hneg⟩
    cases hfile : env.descriptors.get? n with
    | none => exact .inr ⟨_, .closed hn (by omega) (by omega) hfile⟩
    | some f =>
      cases haccess : f.access.allows direction with
      | true => exact .inl ⟨n, hn, by omega, by omega, f, hfile, haccess⟩
      | false => exact .inr ⟨_, .notOpenFor hn (by omega) (by omega) hfile haccess⟩
  · exact .inr ⟨fault, .integer hfault⟩

lemma descriptor_ends (env : Environment) (name : String) (direction : Direction) :
    Ends (env.descriptor name direction) (env.Names name direction)
      (env.LacksDescriptor name direction) :=
  .of_cases (fun _ => descriptor_of_names) (fun _ => descriptor_of_lacks)
    (env.descriptor_cases name direction)

/-- A descriptor that can be used can be opened. -/
lemma stream_eq_descriptor (env : Environment) (name : String) (direction : Direction) :
    env.stream name direction = env.descriptor name direction := by
  rw [stream]
  cases h : env.descriptor name direction with
  | error fault => rfl
  | ok n =>
    have hcheck := (descriptor_eq_ok_iff.mp h).2.2
    simp only [bind, Except.bind, hcheck]
    rfl

/-! ### Bytes -/

/-- Why a variable holds no bytes. -/
inductive LacksBytes (env : Environment) (name : String) : Fault → Prop
  | missing (h : env.lookup name = none) :
      LacksBytes env name (.environment (.missing name))
  | notHex {value : String} {cause : Hex.Fault} (h : env.lookup name = some value)
      (hcause : Hex.Spoils value cause) :
      LacksBytes env name (.environment (.notHex name value cause))

lemma hexBytes_of_lookup {value : String} (h : env.lookup name = some value) :
    env.hexBytes name = match Hex.decode value with
      | .ok bytes => .ok bytes
      | .error cause => .error (.environment (.notHex name value cause)) := by
  rw [hexBytes, required_of_lookup h]
  rfl

lemma hexBytes_ends (env : Environment) (name : String) :
    Ends (env.hexBytes name) (fun bytes => env.lookup name = some (Hex.encode bytes))
      (env.LacksBytes name) := by
  apply Ends.of_cases
  · intro bytes h
    rw [hexBytes_of_lookup h, Hex.decode_encode]
  · rintro fault (hmissing | ⟨hlookup, hcause⟩)
    · rw [hexBytes, required_of_missing hmissing]
      rfl
    · rw [hexBytes_of_lookup hlookup, Hex.decode_eq_error_iff.mpr hcause]
  · cases hlookup : env.lookup name with
    | none => exact .inr ⟨_, .missing hlookup⟩
    | some value =>
      rcases Hex.decode_cases value with ⟨bytes, rfl⟩ | ⟨cause, -, hcause⟩
      · exact .inl ⟨bytes, rfl⟩
      · exact .inr ⟨_, .notHex hlookup hcause⟩

/-! ### Other variables -/

section

variable {env' : Environment} (hlookup : env'.lookup name = env.lookup name)

include hlookup

lemma integer_congr : env'.integer name = env.integer name := by
  simp only [integer, required, hlookup]

lemma word_congr : env'.word name = env.word name := by
  simp only [word, integer_congr hlookup]

lemma descriptor_congr (hdescriptors : env'.descriptors = env.descriptors) :
    env'.descriptor name direction = env.descriptor name direction := by
  simp only [descriptor, integer_congr hlookup, hdescriptors]

lemma hexBytes_congr : env'.hexBytes name = env.hexBytes name := by
  simp only [hexBytes, required, hlookup]

end

end Environment

end Jury.Launch
