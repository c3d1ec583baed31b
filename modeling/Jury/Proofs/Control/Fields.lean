import Jury.Control.Field
import Jury.Control.Visibility
import Jury.Proofs.Text.Numerals

/-!
# Reading back written fields

Each field is read back from the token it is written as, and whatever a status code is checked to
be is a token.
-/

namespace Jury.Control

open Jury.Text (trim IsToken IsSolid isBlank)

/-! ### One step after the other -/

lemma Except.bind_eq_ok_iff {ε α β : Type} {x : Except ε α} {f : α → Except ε β} {b : β} :
    x >>= f = .ok b ↔ ∃ a, x = .ok a ∧ f a = .ok b := by
  cases x <;> simp [bind, Except.bind]

lemma Except.bind_eq_error_iff {ε α β : Type} {x : Except ε α} {f : α → Except ε β} {e : ε} :
    x >>= f = .error e ↔ x = .error e ∨ ∃ a, x = .ok a ∧ f a = .error e := by
  cases x <;> simp [bind, Except.bind]

lemma List.forM_eq_ok_iff {ε α : Type} {f : α → Except ε Unit} {xs : List α} :
    xs.forM f = .ok () ↔ ∀ x ∈ xs, f x = .ok () := by
  induction xs with
  | nil => simp [pure, Except.pure]
  | cons x xs ih =>
    have hcons : (x :: xs).forM f = f x >>= fun _ => xs.forM f := rfl
    rw [hcons, Except.bind_eq_ok_iff, List.forall_mem_cons, ih]
    constructor
    · rintro ⟨⟨⟩, hx, hxs⟩
      exact ⟨hx, hxs⟩
    · rintro ⟨hx, hxs⟩
      exact ⟨(), hx, hxs⟩

/-! ### Numbers -/

lemma numberField_toString {bound n : Nat} (h : n < bound) (what : String) :
    numberField bound what (toString n) = .ok n := by
  rw [numberField, Text.trim_solid (Text.isSolid_toString n), Text.unsigned?_toString h]

lemma isSolid_toString_word (n : UInt32) : IsSolid (toString n) :=
  Text.isSolid_toString n.toNat

lemma wordField_toString (what : String) (n : UInt32) : wordField what (toString n) = .ok n := by
  have hread : numberField UInt32.size what (toString n.toNat) = .ok n.toNat :=
    numberField_toString n.toNat_lt what
  change (numberField UInt32.size what (toString n.toNat)).map Nat.toUInt32 = .ok n
  rw [hread]
  simp [Except.map]

/-! ### Flags, kinds and parts -/

lemma flagField_renderFlag (what : String) (flag : Bool) :
    flagField what (renderFlag flag) = .ok flag := by
  cases flag <;> simp [renderFlag, flagField]

lemma isSolid_renderFlag (flag : Bool) : IsSolid (renderFlag flag) := by
  cases flag <;> decide

lemma kindField_name (kind : StatusKind) : kindField kind.name = .ok kind := by
  cases kind <;> decide

lemma isSolid_name (kind : StatusKind) : IsSolid kind.name := by
  cases kind <;> decide

/-- A set of declared parts is no larger a number than the set of all of them. -/
lemma PartKind.le_allBits {kind : PartKind} {parts : UInt32} (h : kind.declares parts = true) :
    parts ≤ kind.allBits := by
  have hnone : parts &&& ~~~kind.allBits = 0 := beq_iff_eq.mp h
  have hsplit : parts &&& (kind.allBits ||| ~~~kind.allBits) =
      (parts &&& kind.allBits) ||| (parts &&& ~~~kind.allBits) := by
    apply UInt32.eq_of_toBitVec_eq
    exact BitVec.and_or_distrib_left
  rw [UInt32.or_not_self, UInt32.and_neg_one, hnone, UInt32.or_zero] at hsplit
  rw [hsplit]
  exact UInt32.and_le_right

/-! ### Status codes -/

/-- A status code that passes the check holds no blanks at all. -/
lemma checkStatusCode_eq_ok_iff {code : String} : checkStatusCode code = .ok () ↔ IsSolid code := by
  have hsolid : IsSolid code ↔ ¬ (code.isEmpty || code.toList.any isBlank) = true := by
    simp [IsSolid]
  rw [hsolid, checkStatusCode]
  split_ifs with h <;> simp [h]

end Jury.Control
