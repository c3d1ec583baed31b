import Mathlib.Tactic.Common
import Jury.Text.Utf8

/-!
# Reading back encoded text

The bytes of a text are read back as the text (`decode?_encode`), and they hold a byte below 0x80
only for a character of that code (`eq_of_mem_encodeChar`).
-/

namespace Jury.Utf8

/-! ### Single bytes -/

lemma lead?_one {m : Nat} (h : m < 0x80) : lead? (UInt8.ofNat m) = some ⟨m, 0, 0x80, 0xBF⟩ := by
  have hm : (UInt8.ofNat m).toNat = m := by simp; omega
  have hlt : UInt8.ofNat m < 0x80 := by rw [UInt8.lt_iff_toNat_lt, hm]; exact h
  rw [lead?, if_pos hlt, hm]

lemma lead?_two : ∀ m < 0x20, 2 ≤ m → lead? (UInt8.ofNat (m + 0xC0)) = some ⟨m, 1, 0x80, 0xBF⟩ := by
  decide

lemma lead?_three : ∀ m < 0x10, lead? (UInt8.ofNat (m + 0xE0)) =
    some ⟨m, 2, if m = 0 then 0xA0 else 0x80, if m = 13 then 0x9F else 0xBF⟩ := by
  decide

lemma lead?_four : ∀ m < 5, lead? (UInt8.ofNat (m + 0xF0)) =
    some ⟨m, 3, if m = 0 then 0x90 else 0x80, if m = 4 then 0x8F else 0xBF⟩ := by
  decide

/-- A continuation byte in the owed range gives six more bits. -/
lemma follow_tail {code tails t : Nat} {low high : UInt8} (ht : t < 64)
    (hlow : low.toNat ≤ t + 0x80) (hhigh : t + 0x80 ≤ high.toNat) :
    follow ⟨code, tails, low, high⟩ (UInt8.ofNat (t + 0x80)) =
      if tails ≤ 1 then ([some (Char.ofNat (code * 64 + t))], none)
      else ([], some ⟨code * 64 + t, tails - 1, 0x80, 0xBF⟩) := by
  have hb : (UInt8.ofNat (t + 0x80)).toNat = t + 0x80 := by simp; omega
  have hrange : low ≤ UInt8.ofNat (t + 0x80) ∧ UInt8.ofNat (t + 0x80) ≤ high := by
    simp only [UInt8.le_iff_toNat_le, hb]
    exact ⟨hlow, hhigh⟩
  rw [follow, if_pos hrange, hb, Nat.add_sub_cancel]

/-! ### Characters -/

lemma partsFrom_cons (owed : Option Owed) (b : UInt8) (bytes : List UInt8) :
    partsFrom owed (b :: bytes) = (step owed b).1 ++ partsFrom (step owed b).2 bytes := rfl

lemma partsFrom_lead {b : UInt8} {owed : Owed} (h : lead? b = some owed) (hne : owed.tails ≠ 0)
    (bytes : List UInt8) : partsFrom none (b :: bytes) = partsFrom (some owed) bytes := by
  simp [partsFrom_cons, step, start, h, hne]

/-- A tail in the middle of a character. -/
lemma partsFrom_tail {code tails t : Nat} {low high : UInt8} (ht : t < 64)
    (hlow : low.toNat ≤ t + 0x80) (hhigh : t + 0x80 ≤ high.toNat) (bytes : List UInt8) :
    partsFrom (some ⟨code, tails + 2, low, high⟩) (UInt8.ofNat (t + 0x80) :: bytes) =
      partsFrom (some ⟨code * 64 + t, tails + 1, 0x80, 0xBF⟩) bytes := by
  rw [partsFrom_cons, step, follow_tail ht hlow hhigh, if_neg (by omega)]
  rfl

/-- The last tail of a character. -/
lemma partsFrom_lastTail {code t : Nat} {low high : UInt8} (ht : t < 64)
    (hlow : low.toNat ≤ t + 0x80) (hhigh : t + 0x80 ≤ high.toNat) (bytes : List UInt8) :
    partsFrom (some ⟨code, 1, low, high⟩) (UInt8.ofNat (t + 0x80) :: bytes) =
      some (Char.ofNat (code * 64 + t)) :: partsFrom none bytes := by
  rw [partsFrom_cons, step, follow_tail ht hlow hhigh, if_pos (by omega)]
  rfl

/-- The bytes of a character are read as that character. -/
lemma partsFrom_encodeChar (c : Char) (bytes : List UInt8) :
    partsFrom none (String.utf8EncodeChar c ++ bytes) = some c :: partsFrom none bytes := by
  have hvalid : c.val.toNat < 0xD800 ∨ 0xDFFF < c.val.toNat ∧ c.val.toNat < 0x110000 := c.valid
  have hc : Char.ofNat c.val.toNat = c := Char.ofNat_toNat c
  rw [String.utf8EncodeChar]
  generalize c.val.toNat = v at hvalid hc
  split_ifs with h1 h2 h3
  · have hlead := lead?_one (m := v) (by omega)
    simp [partsFrom_cons, step, start, hlead, hc]
  · rw [List.cons_append, Nat.mod_eq_of_lt (by omega : v / 64 < 0x20),
      partsFrom_lead (lead?_two (v / 64) (by omega) (by omega)) (by simp)]
    have hcode : v / 64 * 64 + v % 64 = v := by omega
    rw [List.cons_append, partsFrom_lastTail (by omega) (by simp) (by simp; omega), hcode, hc]
    rfl
  · have hq : v / 4096 < 0x10 := by omega
    rw [List.cons_append, Nat.mod_eq_of_lt hq, partsFrom_lead (lead?_three (v / 4096) hq) (by simp)]
    have hcode : (v / 4096 * 64 + v / 64 % 64) * 64 + v % 64 = v := by omega
    rw [List.cons_append, partsFrom_tail (by omega) (by split_ifs <;> simp; omega)
      (by split_ifs <;> simp <;> omega), List.cons_append,
      partsFrom_lastTail (by omega) (by simp) (by simp; omega), hcode, hc]
    rfl
  · have hq : v / 262144 < 5 := by omega
    rw [List.cons_append, Nat.mod_eq_of_lt (by omega : v / 262144 < 8),
      partsFrom_lead (lead?_four (v / 262144) hq) (by simp)]
    have hcode : ((v / 262144 * 64 + v / 4096 % 64) * 64 + v / 64 % 64) * 64 + v % 64 = v := by
      omega
    rw [List.cons_append, partsFrom_tail (by omega) (by split_ifs <;> simp; omega)
      (by split_ifs <;> simp <;> omega), List.cons_append,
      partsFrom_tail (by omega) (by simp) (by simp; omega), List.cons_append,
      partsFrom_lastTail (by omega) (by simp) (by simp; omega), hcode, hc]
    rfl

/-! ### Texts -/

lemma encode_append (s t : String) : encode (s ++ t) = encode s ++ encode t := by
  simp [encode]

lemma encode_append_lf (line : String) : encode (line ++ "\n") = encode line ++ [0x0A] := by
  have hlf : encode "\n" = [0x0A] := by decide
  rw [encode_append, hlf]

lemma parts_encodeChars (cs : List Char) :
    parts (cs.flatMap String.utf8EncodeChar) = cs.map some := by
  induction cs with
  | nil => rfl
  | cons c cs ih =>
    rw [List.flatMap_cons, parts, partsFrom_encodeChar, ← parts, ih, List.map_cons]

/-- The bytes of a text are read back as the text. -/
lemma decode?_encode (s : String) : decode? (encode s) = some s := by
  have hmap : ∀ cs : List Char, (cs.map some).mapM id = some cs := by
    intro cs
    induction cs with
    | nil => rfl
    | cons c cs ih => simp [ih]
  rw [decode?, encode, parts_encodeChars, hmap, Option.map_some, String.ofList_toList]

/-- A byte below 0x80 stands for the character of that code alone. -/
lemma eq_of_mem_encodeChar {c : Char} {b : UInt8} (hb : b ∈ String.utf8EncodeChar c)
    (hlt : b < 0x80) : String.utf8EncodeChar c = [b] ∧ c.toNat = b.toNat := by
  have hbyte : ∀ m, 0x80 ≤ m → m < 256 → b ≠ UInt8.ofNat m := by
    rintro m hlow hhigh rfl
    rw [UInt8.lt_iff_toNat_lt] at hlt
    simp at hlt
    omega
  rw [String.utf8EncodeChar] at hb ⊢
  change _ ∧ c.val.toNat = _
  generalize c.val.toNat = v at hb ⊢
  split_ifs at hb ⊢ with h1 h2 h3
  · rw [List.mem_singleton] at hb
    subst hb
    exact ⟨rfl, by simp; omega⟩
  all_goals simp only [List.mem_cons, List.not_mem_nil, or_false] at hb
  · rcases hb with hb | hb <;> exact absurd hb (hbyte _ (by omega) (by omega))
  · rcases hb with hb | hb | hb <;> exact absurd hb (hbyte _ (by omega) (by omega))
  · rcases hb with hb | hb | hb | hb <;> exact absurd hb (hbyte _ (by omega) (by omega))

end Jury.Utf8
