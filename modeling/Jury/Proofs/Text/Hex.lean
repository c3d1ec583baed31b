import Mathlib.Data.List.Basic
import Mathlib.Tactic.Common
import Jury.Fault

/-!
# Hexadecimal text is read back

A text is read as bytes just if it is what the bytes are written as (`decode_eq_ok_iff`), which is
every text of an even number of digits (`exists_eq_encode_iff`). A text that is refused is refused
over its first character that is no digit, and over its length only if there is none
(`decode_eq_error_iff`). To look for such a character first and to leave the rest to any reader of
hexadecimal text comes to the same (`decodeWith_eq`). All this together makes decoding the inverse
of encoding (`decode_inverts_encode`).
-/

namespace Jury.Hex

/-! ### Digits -/

/-- The characters `0` to `9` and `a` to `f`. -/
def IsDigit (c : Char) : Prop :=
  '0' ≤ c ∧ c ≤ '9' ∨ 'a' ≤ c ∧ c ≤ 'f'

instance (c : Char) : Decidable (IsDigit c) :=
  inferInstanceAs (Decidable (_ ∨ _))

lemma digit?_digit : ∀ n < 16, digit? (digit n) = some n := by
  decide

/-- A digit is the one that its value is written as. -/
lemma of_digit?_eq_some {c : Char} {n : Nat} (h : digit? c = some n) : n < 16 ∧ digit n = c := by
  have hzero : '0'.toNat = 48 := rfl
  have hnine : '9'.toNat = 57 := rfl
  have ha : 'a'.toNat = 97 := rfl
  have hf : 'f'.toNat = 102 := rfl
  rw [digit?] at h
  split_ifs at h with hdecimal hletter
  · obtain ⟨hlow, hhigh⟩ : '0'.toNat ≤ c.toNat ∧ c.toNat ≤ '9'.toNat := hdecimal
    obtain rfl := Option.some.inj h
    have hcode : '0'.toNat + (c.toNat - '0'.toNat) = c.toNat := by omega
    exact ⟨by omega, by rw [digit, if_pos (by omega), hcode, Char.ofNat_toNat]⟩
  · obtain ⟨hlow, hhigh⟩ : 'a'.toNat ≤ c.toNat ∧ c.toNat ≤ 'f'.toNat := hletter
    obtain rfl := Option.some.inj h
    have hcode : 'a'.toNat + (c.toNat - 'a'.toNat + 10 - 10) = c.toNat := by omega
    exact ⟨by omega, by rw [digit, if_neg (by omega), hcode, Char.ofNat_toNat]⟩

lemma digit?_eq_none_iff {c : Char} : digit? c = none ↔ ¬IsDigit c := by
  rw [digit?, IsDigit]
  split_ifs with hdecimal hletter
  · simp [hdecimal]
  · simp [hletter]
  · simp [hdecimal, hletter]

lemma isDigit_digit {n : Nat} (h : n < 16) : IsDigit (digit n) := by
  by_contra hc
  rw [← digit?_eq_none_iff, digit?_digit n h] at hc
  cases hc

/-! ### Rows of digits -/

lemma digits_map_digit {values : List Nat} (h : ∀ n ∈ values, n < 16) :
    digits (values.map digit) = .ok values := by
  induction values with
  | nil => rfl
  | cons n values ih =>
    rw [List.forall_mem_cons] at h
    rw [List.map_cons, digits, digit?_digit n h.1, ih h.2]
    rfl

/-- A row of digits is the one that its values are written as. -/
lemma of_digits_eq_ok {cs : List Char} {values : List Nat} (h : digits cs = .ok values) :
    (∀ n ∈ values, n < 16) ∧ cs = values.map digit := by
  induction cs generalizing values with
  | nil =>
    obtain rfl := Except.ok.inj h
    exact ⟨List.forall_mem_nil _, rfl⟩
  | cons c cs ih =>
    rw [digits] at h
    split at h
    · cases h
    · next n hn =>
      obtain ⟨hlt, rfl⟩ := of_digit?_eq_some hn
      cases hrest : digits cs with
      | error fault =>
        rw [hrest] at h
        cases h
      | ok rest =>
        rw [hrest] at h
        obtain rfl := Except.ok.inj h
        obtain ⟨hvalues, rfl⟩ := ih hrest
        exact ⟨List.forall_mem_cons.mpr ⟨hlt, hvalues⟩, rfl⟩

lemma digits_of_not_isDigit {front : List Char} (hfront : ∀ c ∈ front, IsDigit c) {c : Char}
    (hc : ¬IsDigit c) (rest : List Char) : digits (front ++ c :: rest) = .error (.character c) := by
  induction front with
  | nil => rw [List.nil_append, digits, digit?_eq_none_iff.mpr hc]
  | cons d front ih =>
    rw [List.forall_mem_cons] at hfront
    obtain ⟨n, hn⟩ := Option.ne_none_iff_exists'.mp fun h => digit?_eq_none_iff.mp h hfront.1
    rw [List.cons_append, digits, hn, ih hfront.2]
    rfl

/-- A row of characters is refused over the first one that is no digit. -/
lemma exists_of_digits_eq_error {cs : List Char} {fault : Fault} (h : digits cs = .error fault) :
    ∃ front c rest, cs = front ++ c :: rest ∧ (∀ d ∈ front, IsDigit d) ∧ ¬IsDigit c ∧
      fault = .character c := by
  induction cs with
  | nil => cases h
  | cons c cs ih =>
    rw [digits] at h
    split at h
    · next hc =>
      exact ⟨[], c, cs, rfl, List.forall_mem_nil _, digit?_eq_none_iff.mp hc,
        (Except.error.inj h).symm⟩
    · next n hn =>
      obtain ⟨hlt, rfl⟩ := of_digit?_eq_some hn
      cases hrest : digits cs with
      | ok rest =>
        rw [hrest] at h
        cases h
      | error cause =>
        rw [hrest] at h
        obtain rfl := Except.error.inj h
        obtain ⟨front, d, rest, rfl, hfront, hd, rfl⟩ := ih hrest
        exact ⟨digit n :: front, d, rest, rfl,
          List.forall_mem_cons.mpr ⟨isDigit_digit hlt, hfront⟩, hd, rfl⟩

/-! ### Pairs of digits -/

/-- The values of the two digits of each byte. -/
def halves (bytes : List UInt8) : List Nat :=
  bytes.flatMap fun b => [b.toNat / 16, b.toNat % 16]

lemma lt_of_mem_halves {bytes : List UInt8} {n : Nat} (h : n ∈ halves bytes) : n < 16 := by
  obtain ⟨b, -, hn⟩ := List.mem_flatMap.mp h
  have hb := b.toNat_lt
  rcases List.mem_pair.mp hn with rfl | rfl <;> omega

lemma length_halves (bytes : List UInt8) : (halves bytes).length = 2 * bytes.length := by
  induction bytes with
  | nil => rfl
  | cons b bytes ih =>
    rw [halves, List.flatMap_cons, ← halves, List.length_append, ih, List.length_cons]
    exact (Nat.add_comm _ _).trans (Nat.mul_succ 2 _).symm

lemma pairs_halves (bytes : List UInt8) : pairs (halves bytes) = .ok bytes := by
  induction bytes with
  | nil => rfl
  | cons b bytes ih =>
    have hb : b.toNat / 16 * 16 + b.toNat % 16 = b.toNat := by omega
    have hrest : halves (b :: bytes) = b.toNat / 16 :: b.toNat % 16 :: halves bytes := rfl
    rw [hrest, pairs, ih, hb, Nat.toUInt8_eq, UInt8.ofNat_toNat]
    rfl

/-- Pairs of digits are the halves of the bytes that they are read as. -/
lemma pairs_cases {values : List Nat} (h : ∀ n ∈ values, n < 16) :
    (∃ bytes, values = halves bytes) ∨
      values.length % 2 = 1 ∧ pairs values = .error .oddLength := by
  fun_induction pairs values with
  | case1 => exact .inl ⟨[], rfl⟩
  | case2 n => exact .inr ⟨rfl, rfl⟩
  | case3 high low values ih =>
    simp only [List.forall_mem_cons] at h
    rcases ih h.2.2 with ⟨bytes, rfl⟩ | ⟨hodd, hfault⟩
    · refine .inl ⟨(high * 16 + low).toUInt8 :: bytes, ?_⟩
      have hbyte : (high * 16 + low).toUInt8.toNat = high * 16 + low := by simp; omega
      have hrest : halves ((high * 16 + low).toUInt8 :: bytes) =
          (high * 16 + low).toUInt8.toNat / 16 :: (high * 16 + low).toUInt8.toNat % 16 ::
            halves bytes := rfl
      rw [hrest, hbyte]
      congr <;> omega
    · refine .inr ⟨by simp; omega, ?_⟩
      rw [hfault]
      rfl

/-! ### Texts -/

lemma toList_encode (bytes : List UInt8) : (encode bytes).toList = (halves bytes).map digit := by
  rw [encode, String.toList_ofList, halves, List.map_flatMap]
  rfl

lemma length_encode (bytes : List UInt8) : (encode bytes).length = 2 * bytes.length := by
  rw [← String.length_toList, toList_encode, List.length_map, length_halves]

lemma isDigit_of_mem_encode {bytes : List UInt8} {c : Char} (h : c ∈ (encode bytes).toList) :
    IsDigit c := by
  rw [toList_encode] at h
  obtain ⟨n, hn, rfl⟩ := List.mem_map.mp h
  exact isDigit_digit (lt_of_mem_halves hn)

/-- Bytes are read back from what they are written as. -/
lemma decode_encode (bytes : List UInt8) : decode (encode bytes) = .ok bytes := by
  rw [decode, toList_encode, digits_map_digit fun _ => lt_of_mem_halves]
  exact pairs_halves bytes

/-- Why a text does not stand for bytes: its first character that is no digit, whatever its length,
or, if there is none, an odd length. -/
inductive Spoils (text : String) : Fault → Prop
  | character {front rest : List Char} {c : Char} (htext : text.toList = front ++ c :: rest)
      (hfront : ∀ d ∈ front, IsDigit d) (hc : ¬IsDigit c) : Spoils text (.character c)
  | oddLength (hdigits : ∀ c ∈ text.toList, IsDigit c) (hodd : text.length % 2 = 1) :
      Spoils text .oddLength

/-- A text is what the bytes are written as that it stands for, or something spoils it. -/
lemma decode_cases (text : String) :
    (∃ bytes, text = encode bytes) ∨ ∃ fault, decode text = .error fault ∧ Spoils text fault := by
  cases hdigits : digits text.toList with
  | error fault =>
    obtain ⟨front, c, rest, htext, hfront, hc, rfl⟩ := exists_of_digits_eq_error hdigits
    exact .inr ⟨_, by rw [decode, hdigits]; rfl, .character htext hfront hc⟩
  | ok values =>
    obtain ⟨hvalues, htext⟩ := of_digits_eq_ok hdigits
    rcases pairs_cases hvalues with ⟨bytes, rfl⟩ | ⟨hodd, hfault⟩
    · refine .inl ⟨bytes, ?_⟩
      rw [← String.toList_inj, htext, toList_encode]
    · refine .inr ⟨.oddLength, by rw [decode, hdigits]; exact hfault, .oddLength ?_ ?_⟩
      · intro c hc
        rw [htext] at hc
        obtain ⟨n, hn, rfl⟩ := List.mem_map.mp hc
        exact isDigit_digit (hvalues n hn)
      · rw [← String.length_toList, htext, List.length_map, hodd]

lemma decode_eq_ok_iff {text : String} {bytes : List UInt8} :
    decode text = .ok bytes ↔ text = encode bytes := by
  constructor
  · intro h
    rcases decode_cases text with ⟨bytes', rfl⟩ | ⟨fault, hfault, -⟩
    · rw [decode_encode] at h
      rw [Except.ok.inj h]
    · rw [hfault] at h
      cases h
  · rintro rfl
    exact decode_encode bytes

/-- A text is refused over what spoils it, and over nothing else. -/
lemma decode_eq_error_iff {text : String} {fault : Fault} :
    decode text = .error fault ↔ Spoils text fault := by
  constructor
  · intro h
    rcases decode_cases text with ⟨bytes, rfl⟩ | ⟨fault', hfault, hspoils⟩
    · rw [decode_encode] at h
      cases h
    · rw [hfault] at h
      rwa [← Except.error.inj h]
  · rintro (⟨htext, hfront, hc⟩ | ⟨hdigits, hodd⟩)
    · rw [decode, htext, digits_of_not_isDigit hfront hc]
      rfl
    · rcases decode_cases text with ⟨bytes, rfl⟩ | ⟨fault', hfault, ⟨htext, -, hc⟩ | -⟩
      · rw [length_encode] at hodd
        omega
      · exact absurd (hdigits _ (by rw [htext]; simp)) hc
      · exact hfault

/-- The texts that stand for bytes are those of an even number of digits. -/
lemma exists_eq_encode_iff {text : String} :
    (∃ bytes, text = encode bytes) ↔ (∀ c ∈ text.toList, IsDigit c) ∧ text.length % 2 = 0 := by
  constructor
  · rintro ⟨bytes, rfl⟩
    exact ⟨fun c => isDigit_of_mem_encode, by rw [length_encode]; omega⟩
  · rintro ⟨hdigits, heven⟩
    rcases decode_cases text with hbytes | ⟨fault, -, ⟨htext, -, hc⟩ | ⟨-, hodd⟩⟩
    · exact hbytes
    · exact absurd (hdigits _ (by rw [htext]; simp)) hc
    · omega

/-! ### Two passes -/

/-- Whether a row of characters spells bytes: two digits of either case for each, the high one
first. -/
inductive SpellsBytes : List Char → List UInt8 → Prop
  | nil : SpellsBytes [] []
  | cons {high low : Char} {h l : Nat} {cs : List Char} {bytes : List UInt8}
      (hhigh : digitOfAnyCase? high = some h) (hlow : digitOfAnyCase? low = some l)
      (hrest : SpellsBytes cs bytes) :
      SpellsBytes (high :: low :: cs) ((h * 16 + l).toUInt8 :: bytes)

/-- What is relied on of a reader that heeds no case: it reads digits in pairs, and refuses an odd
number of them. -/
structure ReadsPairs (read : String → Except String (List UInt8)) : Prop where
  spelled : ∀ text bytes, SpellsBytes text.toList bytes → read text = .ok bytes
  oddLength : ∀ text : String, (∀ c ∈ text.toList, (digitOfAnyCase? c).isSome) →
    text.length % 2 = 1 → read text = .error "Odd number of digits"

/-- Reading in two passes: a text is searched for a character that is no lowercase digit, and only
if there is none it is handed on to be read. -/
def decodeWith (read : String → Except String (List UInt8)) (text : String) :
    Except String (List UInt8) :=
  match text.toList.find? fun c => ¬IsDigit c with
  | some c => .error ("unexpected character " ++ Text.quotedAlone c)
  | none => read text

lemma digitOfAnyCase?_digit : ∀ n < 16, digitOfAnyCase? (digit n) = some n := by
  decide

lemma isSome_digitOfAnyCase? {c : Char} (h : IsDigit c) : (digitOfAnyCase? c).isSome := by
  obtain ⟨n, hn⟩ := Option.ne_none_iff_exists'.mp fun hnone => digit?_eq_none_iff.mp hnone h
  obtain ⟨hlt, rfl⟩ := of_digit?_eq_some hn
  rw [digitOfAnyCase?_digit n hlt, Option.isSome_some]

lemma spellsBytes_encode (bytes : List UInt8) : SpellsBytes (encode bytes).toList bytes := by
  rw [toList_encode]
  induction bytes with
  | nil => exact .nil
  | cons b bytes ih =>
    have hb := b.toNat_lt
    have hbyte : (b.toNat / 16 * 16 + b.toNat % 16).toUInt8 = b := by
      rw [Nat.div_add_mod', Nat.toUInt8_eq, UInt8.ofNat_toNat]
    have hcons := SpellsBytes.cons (digitOfAnyCase?_digit (b.toNat / 16) (by omega))
      (digitOfAnyCase?_digit (b.toNat % 16) (by omega)) ih
    rwa [hbyte] at hcons

lemma find?_eq_none {text : String} (h : ∀ c ∈ text.toList, IsDigit c) :
    text.toList.find? (fun c => ¬IsDigit c) = none := by
  simpa using h

/-- The first character that is no digit, whatever comes behind it. -/
lemma find?_eq_some_iff {text : String} {c : Char} :
    text.toList.find? (fun c => ¬IsDigit c) = some c ↔ Spoils text (.character c) := by
  rw [List.find?_eq_some_iff_append]
  constructor
  · rintro ⟨hc, front, rest, htext, hfront⟩
    exact .character htext (by simpa using hfront) (by simpa using hc)
  · rintro ⟨htext, hfront, hc⟩
    exact ⟨by simpa using hc, _, _, htext, by simpa using hfront⟩

/-- Both passes together say what reading at once says. -/
lemma decodeWith_eq {read : String → Except String (List UInt8)} (hread : ReadsPairs read)
    (text : String) : decodeWith read text = (decode text).mapError Fault.message := by
  rcases decode_cases text with ⟨bytes, rfl⟩ | ⟨fault, hfault, hspoils⟩
  · rw [decode_encode, decodeWith, find?_eq_none fun c => isDigit_of_mem_encode]
    exact hread.spelled _ _ (spellsBytes_encode bytes)
  · rw [hfault, decodeWith]
    cases hspoils with
    | character htext hfront hc =>
      rw [find?_eq_some_iff.mpr (.character htext hfront hc)]
      rfl
    | oddLength hdigits hodd =>
      rw [find?_eq_none hdigits]
      exact hread.oddLength text (fun c hc => isSome_digitOfAnyCase? (hdigits c hc)) hodd

/-! ### Both directions -/

/-- **Decoding inverts encoding.** Bytes are read back from what they are written as. A text is read
just if its length is even and it holds nothing but digits, and then it is what the bytes that it
is read as are written as. A text that is refused is refused over its first character that is no
digit, whatever its length, and over an odd length only if there is no such character. To search
the text first and then to read it without an eye for case comes to the same, in the same words. -/
theorem decode_inverts_encode :
    (∀ bytes, decode (encode bytes) = .ok bytes) ∧
    (∀ text, (∃ bytes, decode text = .ok bytes) ↔
      text.length % 2 = 0 ∧ ∀ c ∈ text.toList, IsDigit c) ∧
    (∀ text bytes, decode text = .ok bytes ↔ encode bytes = text) ∧
    (∀ text c, decode text = .error (.character c) ↔
      text.toList.find? (fun c => ¬IsDigit c) = some c) ∧
    (∀ text, decode text = .error .oddLength ↔
      text.toList.find? (fun c => ¬IsDigit c) = none ∧ text.length % 2 = 1) ∧
    ∀ read, ReadsPairs read → ∀ text,
      decodeWith read text = (decode text).mapError Fault.message := by
  refine ⟨decode_encode, fun text => ?_, fun text bytes => ?_, fun text c => ?_, fun text => ?_,
    fun read hread text => decodeWith_eq hread text⟩
  · simp only [decode_eq_ok_iff, exists_eq_encode_iff, and_comm]
  · rw [decode_eq_ok_iff, eq_comm]
  · rw [decode_eq_error_iff, find?_eq_some_iff]
  · rw [decode_eq_error_iff]
    constructor
    · rintro (_ | ⟨hdigits, hodd⟩)
      exact ⟨find?_eq_none hdigits, hodd⟩
    · rintro ⟨hnone, hodd⟩
      exact .oddLength (by simpa using hnone) hodd

/-- A reader that heeds no case, and looks at the length first. -/
def readAnyCase (text : String) : Except String (List UInt8) :=
  if text.length % 2 = 1 then .error Fault.oddLength.message
  else
    match text.toList.mapM digitOfAnyCase? with
    | some values => (pairs values).mapError Fault.message
    | none => .error "Invalid character"

lemma SpellsBytes.mapM_eq {cs : List Char} {bytes : List UInt8} (h : SpellsBytes cs bytes) :
    cs.length % 2 = 0 ∧ ∃ values, cs.mapM digitOfAnyCase? = some values ∧
      pairs values = .ok bytes := by
  induction h with
  | nil => exact ⟨rfl, [], rfl, rfl⟩
  | @cons high low h l cs bytes hhigh hlow hrest ih =>
    obtain ⟨heven, values, hvalues, hpairs⟩ := ih
    refine ⟨(Nat.add_mod_right _ 2).trans heven, h :: l :: values, ?_, ?_⟩
    · rw [List.mapM_cons, List.mapM_cons, hhigh, hlow, hvalues]
      rfl
    · rw [pairs, hpairs]
      rfl

lemma readsPairs_readAnyCase : ReadsPairs readAnyCase where
  spelled text bytes h := by
    obtain ⟨heven, values, hvalues, hpairs⟩ := h.mapM_eq
    rw [String.length_toList] at heven
    rw [readAnyCase, if_neg (by omega), hvalues]
    simp only [hpairs]
    rfl
  oddLength text _ hodd := if_pos hodd

/-- Four bytes and back; a letter of the wrong case in a text of odd length; and an odd length
alone. -/
theorem decode_inverts_encode_faults :
    ReadsPairs readAnyCase ∧
    decode "00ff10ab" = .ok [0x00, 0xff, 0x10, 0xab] ∧
    decodeWith readAnyCase "0Fé" = .error "unexpected character 'F'" ∧
    readAnyCase "0F" = .ok [0x0f] ∧
    decodeWith readAnyCase "abc" = .error "Odd number of digits" := by
  obtain ⟨-, -, hok, hcharacter, hodd, htwice⟩ := decode_inverts_encode
  have hpasses := htwice readAnyCase readsPairs_readAnyCase
  refine ⟨readsPairs_readAnyCase, (hok _ _).mpr (by decide), ?_, by rfl, ?_⟩
  · rw [hpasses, (hcharacter "0Fé" 'F').mpr (by decide)]
    decide
  · rw [hpasses, (hodd "abc").mpr (by decide)]
    rfl

end Jury.Hex
