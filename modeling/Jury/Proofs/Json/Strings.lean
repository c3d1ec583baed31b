import Jury.Json.Basic
import Jury.Proofs.Text.Hex

/-!
# JSON strings are read back

Whatever characters a text has, the body that is written for it is read up to its closing quote
(`body?_escape`) and stands for the text again (`unescape?_escape`). No way of writing a character
leaves a control character in the body (`Escapes.le_of_mem`).
-/

namespace Jury.Json

/-! ### Characters -/

/-- How a character is written in the body of a string: as itself, as a backslash and a letter, or,
if it is a control character, as its number. -/
inductive Escapes (c : Char) : List Char → Prop
  | plain (hcontrol : 0x20 ≤ c.toNat) (hquote : c ≠ '"') (hbackslash : c ≠ '\\') : Escapes c [c]
  | letter {e : Char} (h : escapedChar? e = some c) (hcontrol : 0x20 ≤ e.toNat) :
      Escapes c ['\\', e]
  | unit (hcontrol : c.toNat < 0x20) :
      Escapes c ['\\', 'u', '0', '0', Hex.digit (c.toNat / 16), Hex.digit (c.toNat % 16)]

lemma escapes_escapeChar (c : Char) : Escapes c (escapeChar c) := by
  rw [escapeChar]
  split_ifs with hquote hbackslash hb hf hn hr ht hcontrol
  · exact .letter (by rw [hquote]; rfl) (by decide)
  · exact .letter (by rw [hbackslash]; rfl) (by decide)
  · exact .letter (by rw [hb]; rfl) (by decide)
  · exact .letter (by rw [hf]; rfl) (by decide)
  · exact .letter (by rw [hn]; rfl) (by decide)
  · exact .letter (by rw [hr]; rfl) (by decide)
  · exact .letter (by rw [ht]; rfl) (by decide)
  · exact .unit hcontrol
  · exact .plain (Nat.le_of_not_lt hcontrol) hquote hbackslash

variable {c : Char} {cs : List Char}

/-- The two low digits of a control character's number stand for it. -/
lemma hexUnit?_digit : ∀ n < 0x20,
    hexUnit? '0' '0' (Hex.digit (n / 16)) (Hex.digit (n % 16)) = some n := by
  decide

/-- The letter `u` is no escape of its own. -/
lemma ne_of_escapedChar?_eq_some {e : Char} (h : escapedChar? e = some c) : e ≠ 'u' := by
  rintro rfl
  cases h

lemma Escapes.unescape?_append (h : Escapes c cs) (rest : List Char) :
    unescape? (cs ++ rest) = (unescape? rest).map (c :: ·) := by
  cases h with
  | plain _ _ hbackslash =>
    rw [List.singleton_append, unescape?]
    · cases unescape? rest <;> rfl
    · rintro _ _ _ _ _ rfl
      exact absurd rfl hbackslash
    · rintro _ _ rfl
      exact absurd rfl hbackslash
  | letter he _ =>
    have hu := ne_of_escapedChar?_eq_some he
    rw [List.cons_append, List.singleton_append, unescape?]
    · rw [he]
      cases unescape? rest <;> rfl
    · rintro _ _ _ _ _ rfl
      exact absurd rfl hu
  | unit hcontrol =>
    have hlow : isLowSurrogate c.toNat = false := by simp [isLowSurrogate]; omega
    have hhigh : isHighSurrogate c.toNat = false := by simp [isHighSurrogate]; omega
    simp only [List.cons_append, List.nil_append]
    rw [unescape?, hexUnit?_digit _ hcontrol]
    cases unescape? rest <;> simp [hlow, hhigh, Char.ofNat_toNat]

lemma Escapes.body?_append (h : Escapes c cs) (rest : List Char) :
    body? (cs ++ rest) = (body? rest).map fun (body, rest) => (cs ++ body, rest) := by
  cases h with
  | plain hcontrol hquote hbackslash =>
    have hplain : ¬(c.toNat < 0x20 ∨ c = '\\') := by
      rintro (hlt | rfl)
      · omega
      · exact hbackslash rfl
    rw [List.singleton_append, body?, if_neg hplain]
    · rfl
    · exact hquote
    · rintro _ _ _ _ _ rfl
      exact absurd rfl hbackslash
    · rintro _ _ rfl
      exact absurd rfl hbackslash
  | letter he _ =>
    have hu := ne_of_escapedChar?_eq_some he
    rw [List.cons_append, List.singleton_append, body?, he]
    · rfl
    · rintro _ _ _ _ _ rfl
      exact absurd rfl hu
  | unit hcontrol =>
    simp only [List.cons_append, List.nil_append]
    rw [body?, hexUnit?_digit _ hcontrol]
    rfl

lemma Escapes.le_of_mem (h : Escapes c cs) {d : Char} (hd : d ∈ cs) : 0x20 ≤ d.toNat := by
  have hdigit {n : Nat} (hn : n < 16) : 0x20 ≤ (Hex.digit n).toNat :=
    (by decide : ∀ m < 16, 0x20 ≤ (Hex.digit m).toNat) n hn
  cases h with
  | plain hcontrol _ _ =>
    rw [List.mem_singleton.mp hd]
    exact hcontrol
  | letter _ hcontrol =>
    rcases List.mem_pair.mp hd with rfl | rfl
    · decide
    · exact hcontrol
  | unit hcontrol =>
    simp only [List.mem_cons, List.not_mem_nil, or_false] at hd
    rcases hd with rfl | rfl | rfl | rfl | rfl | rfl
    · decide
    · decide
    · decide
    · decide
    · exact hdigit (by omega)
    · exact hdigit (by omega)

/-! ### Texts -/

/-- The body that a text is written as stands for the text. -/
lemma unescape?_escape (text : String) : unescape? (escape text) = some text.toList := by
  rw [escape]
  induction text.toList with
  | nil => rfl
  | cons c cs ih => rw [List.flatMap_cons, (escapes_escapeChar c).unescape?_append, ih]; rfl

/-- The body that a text is written as is read up to its closing quote, whatever follows. -/
lemma body?_escape (text : String) (rest : List Char) :
    body? (escape text ++ '"' :: rest) = some (escape text, rest) := by
  rw [escape]
  induction text.toList with
  | nil => rfl
  | cons c cs ih =>
    rw [List.flatMap_cons, List.append_assoc, (escapes_escapeChar c).body?_append, ih]
    rfl

lemma toText?_ofString (text : String) : (ofString text).toText? = some text := by
  rw [ofString, toText?, unescape?_escape, Option.map_some, String.ofList_toList]

end Jury.Json
