import Mathlib.Data.List.Infix
import Mathlib.Data.Option.Basic
import Jury.Proofs.Text.Fields
import Jury.Proofs.Text.Utf8

/-!
# What decoding tells apart

A byte string that is read as a text is the bytes of that text (`decode?_eq_some_iff`), so valid
byte strings that are read alike are the same. Where broken parts are read as U+FFFD, different
byte strings may be read alike, but only if the text holds U+FFFD and one of them is not valid
(`eq_of_decodeLossy_eq`).
-/

namespace Jury.Utf8

/-! ### The bytes of a character -/

lemma toNat_val_ofNat {v : Nat} (h : v.isValidChar) : (Char.ofNat v).val.toNat = v := by
  rw [Char.ofNat, dif_pos h]
  rfl

lemma encodeChar_one {v : Nat} (h : v < 0x80) :
    String.utf8EncodeChar (Char.ofNat v) = [UInt8.ofNat v] := by
  simp only [String.utf8EncodeChar, toNat_val_ofNat (.inl (by omega : v < 0xD800))]
  rw [if_pos (by omega)]

lemma encodeChar_two {m t : Nat} (hlow : 2 ≤ m) (hhigh : m < 0x20) (ht : t < 64) :
    String.utf8EncodeChar (Char.ofNat (m * 64 + t)) =
      [UInt8.ofNat (m + 0xC0), UInt8.ofNat (t + 0x80)] := by
  have hm : (m * 64 + t) / 64 % 0x20 = m := by omega
  have ht : (m * 64 + t) % 64 = t := by omega
  simp only [String.utf8EncodeChar, toNat_val_ofNat (.inl (by omega : m * 64 + t < 0xD800))]
  rw [if_neg (by omega), if_pos (by omega), hm, ht]

lemma encodeChar_three {m t u : Nat} (hm : m < 0x10) (ht : t < 64) (hu : u < 64)
    (hlow : m = 0 → 0x20 ≤ t) (hsurrogate : m = 13 → t < 0x20) :
    String.utf8EncodeChar (Char.ofNat ((m * 64 + t) * 64 + u)) =
      [UInt8.ofNat (m + 0xE0), UInt8.ofNat (t + 0x80), UInt8.ofNat (u + 0x80)] := by
  have hvalid : ((m * 64 + t) * 64 + u).isValidChar := by
    rw [Nat.isValidChar]
    omega
  have hm : ((m * 64 + t) * 64 + u) / 4096 % 0x10 = m := by omega
  have ht : ((m * 64 + t) * 64 + u) / 64 % 64 = t := by omega
  have hu : ((m * 64 + t) * 64 + u) % 64 = u := by omega
  simp only [String.utf8EncodeChar, toNat_val_ofNat hvalid]
  rw [if_neg (by omega), if_neg (by omega), if_pos (by omega), hm, ht, hu]

lemma encodeChar_four {m t u w : Nat} (hm : m < 5) (ht : t < 64) (hu : u < 64) (hw : w < 64)
    (hlow : m = 0 → 0x10 ≤ t) (hhigh : m = 4 → t < 0x10) :
    String.utf8EncodeChar (Char.ofNat (((m * 64 + t) * 64 + u) * 64 + w)) =
      [UInt8.ofNat (m + 0xF0), UInt8.ofNat (t + 0x80), UInt8.ofNat (u + 0x80),
        UInt8.ofNat (w + 0x80)] := by
  have hvalid : (((m * 64 + t) * 64 + u) * 64 + w).isValidChar := by
    rw [Nat.isValidChar]
    omega
  have hm : (((m * 64 + t) * 64 + u) * 64 + w) / 262144 % 8 = m := by omega
  have ht : (((m * 64 + t) * 64 + u) * 64 + w) / 4096 % 64 = t := by omega
  have hu : (((m * 64 + t) * 64 + u) * 64 + w) / 64 % 64 = u := by omega
  have hw : (((m * 64 + t) * 64 + u) * 64 + w) % 64 = w := by omega
  simp only [String.utf8EncodeChar, toNat_val_ofNat hvalid]
  rw [if_neg (by omega), if_neg (by omega), if_neg (by omega), hm, ht, hu, hw]

/-! ### What a character was read from -/

/-- The bytes that promise a character, and what they promise. -/
lemma lead?_cases {b : UInt8} {owed : Owed} (h : lead? b = some owed) :
    (∃ m < 0x80, b = UInt8.ofNat m ∧ owed = ⟨m, 0, 0x80, 0xBF⟩) ∨
    (∃ m < 0x20, 2 ≤ m ∧ b = UInt8.ofNat (m + 0xC0) ∧ owed = ⟨m, 1, 0x80, 0xBF⟩) ∨
    (∃ m < 0x10, b = UInt8.ofNat (m + 0xE0) ∧
      owed = ⟨m, 2, if m = 0 then 0xA0 else 0x80, if m = 13 then 0x9F else 0xBF⟩) ∨
    ∃ m < 5, b = UInt8.ofNat (m + 0xF0) ∧
      owed = ⟨m, 3, if m = 0 then 0x90 else 0x80, if m = 4 then 0x8F else 0xBF⟩ := by
  have htail : ∀ m < 0x42, lead? (UInt8.ofNat (m + 0x80)) = none := by decide
  have hbeyond : ∀ m < 11, lead? (UInt8.ofNat (m + 0xF5)) = none := by decide
  obtain ⟨n, hn, rfl⟩ : ∃ n < 256, b = UInt8.ofNat n := ⟨b.toNat, b.toNat_lt, by simp⟩
  rcases Nat.lt_or_ge n 0x80 with hone | hone
  · rw [lead?_one hone] at h
    exact .inl ⟨n, hone, rfl, (Option.some.inj h).symm⟩
  rcases Nat.lt_or_ge n 0xC2 with htwo | htwo
  · obtain ⟨m, rfl⟩ := Nat.exists_eq_add_of_le' hone
    rw [htail m (by omega)] at h
    cases h
  rcases Nat.lt_or_ge n 0xE0 with hthree | hthree
  · obtain ⟨m, rfl⟩ := Nat.exists_eq_add_of_le' ((by omega : 0xC0 ≤ n))
    rw [lead?_two m (by omega) (by omega)] at h
    exact .inr (.inl ⟨m, by omega, by omega, rfl, (Option.some.inj h).symm⟩)
  rcases Nat.lt_or_ge n 0xF0 with hfour | hfour
  · obtain ⟨m, rfl⟩ := Nat.exists_eq_add_of_le' hthree
    rw [lead?_three m (by omega)] at h
    exact .inr (.inr (.inl ⟨m, by omega, rfl, (Option.some.inj h).symm⟩))
  rcases Nat.lt_or_ge n 0xF5 with hend | hend
  · obtain ⟨m, rfl⟩ := Nat.exists_eq_add_of_le' hfour
    rw [lead?_four m (by omega)] at h
    exact .inr (.inr (.inr ⟨m, by omega, rfl, (Option.some.inj h).symm⟩))
  · obtain ⟨m, rfl⟩ := Nat.exists_eq_add_of_le' hend
    rw [hbeyond m (by omega)] at h
    cases h

section

variable {code tails : Nat} {low high : UInt8} {bytes : List UInt8} {c : Char} {ps : Parts}

/-- Inside a character that is read whole, the next byte is a tail in the owed range. -/
lemma exists_tail (hlow : 0x80 ≤ low.toNat) (hhigh : high.toNat < 0xC0)
    (h : partsFrom (some ⟨code, tails, low, high⟩) bytes = some c :: ps) :
    ∃ t < 64, ∃ rest, low.toNat ≤ t + 0x80 ∧ t + 0x80 ≤ high.toNat ∧
      bytes = UInt8.ofNat (t + 0x80) :: rest := by
  cases bytes with
  | nil => simp [partsFrom] at h
  | cons b rest =>
    by_cases hrange : low ≤ b ∧ b ≤ high
    · simp only [UInt8.le_iff_toNat_le] at hrange
      have hb : b.toNat - 0x80 + 0x80 = b.toNat := by omega
      refine ⟨b.toNat - 0x80, by omega, rest, by omega, by omega, ?_⟩
      rw [hb, UInt8.ofNat_toNat]
    · simp [partsFrom_cons, step, follow, hrange] at h

lemma exists_lastTail (hlow : 0x80 ≤ low.toNat) (hhigh : high.toNat < 0xC0)
    (h : partsFrom (some ⟨code, 1, low, high⟩) bytes = some c :: ps) :
    ∃ t < 64, ∃ rest, low.toNat ≤ t + 0x80 ∧ t + 0x80 ≤ high.toNat ∧
      bytes = UInt8.ofNat (t + 0x80) :: rest ∧ c = Char.ofNat (code * 64 + t) ∧
        partsFrom none rest = ps := by
  obtain ⟨t, ht, rest, htlow, hthigh, rfl⟩ := exists_tail hlow hhigh h
  rw [partsFrom_lastTail ht htlow hthigh] at h
  obtain ⟨hc, hps⟩ := List.cons.inj h
  exact ⟨t, ht, rest, htlow, hthigh, rfl, (Option.some.inj hc).symm, hps⟩

lemma exists_innerTail (hlow : 0x80 ≤ low.toNat) (hhigh : high.toNat < 0xC0)
    (h : partsFrom (some ⟨code, tails + 2, low, high⟩) bytes = some c :: ps) :
    ∃ t < 64, ∃ rest, low.toNat ≤ t + 0x80 ∧ t + 0x80 ≤ high.toNat ∧
      bytes = UInt8.ofNat (t + 0x80) :: rest ∧
        partsFrom (some ⟨code * 64 + t, tails + 1, 0x80, 0xBF⟩) rest = some c :: ps := by
  obtain ⟨t, ht, rest, htlow, hthigh, rfl⟩ := exists_tail hlow hhigh h
  rw [partsFrom_tail ht htlow hthigh] at h
  exact ⟨t, ht, rest, htlow, hthigh, rfl, h⟩

/-- A character that comes first was read from its bytes. -/
lemma eq_encodeChar_append (h : parts bytes = some c :: ps) :
    ∃ rest, bytes = String.utf8EncodeChar c ++ rest ∧ parts rest = ps := by
  have hleast : 0x80 ≤ (0x80 : UInt8).toNat := by decide
  have hmost : (0xBF : UInt8).toNat < 0xC0 := by decide
  cases bytes with
  | nil => simp [parts, partsFrom] at h
  | cons b bytes =>
    cases hlead : lead? b with
    | none => simp [parts, partsFrom_cons, step, start, hlead] at h
    | some owed =>
      rw [parts] at h
      rcases lead?_cases hlead with
        ⟨m, hm, rfl, rfl⟩ | ⟨m, hm, hlow, rfl, rfl⟩ | ⟨m, hm, rfl, rfl⟩ | ⟨m, hm, rfl, rfl⟩
      · simp only [partsFrom_cons, step, start, hlead, if_true] at h
        obtain ⟨hc, hps⟩ := List.cons.inj h
        cases hc
        exact ⟨bytes, by rw [encodeChar_one hm]; rfl, hps⟩
      · rw [partsFrom_lead hlead (by simp)] at h
        obtain ⟨t, ht, rest, -, -, rfl, rfl, hps⟩ := exists_lastTail hleast hmost h
        exact ⟨rest, by rw [encodeChar_two hlow hm ht]; rfl, hps⟩
      · rw [partsFrom_lead hlead (by simp)] at h
        obtain ⟨t, ht, bytes, htlow, hthigh, rfl, htails⟩ :=
          exists_innerTail (by split_ifs <;> decide) (by split_ifs <;> decide) h
        obtain ⟨u, hu, rest, -, -, rfl, rfl, hps⟩ := exists_lastTail hleast hmost htails
        refine ⟨rest, ?_, hps⟩
        rw [encodeChar_three hm ht hu]
        · rfl
        · intro hzero
          simp [hzero] at htlow
          omega
        · intro hsurrogate
          simp [hsurrogate] at hthigh
          omega
      · rw [partsFrom_lead hlead (by simp)] at h
        obtain ⟨t, ht, bytes, htlow, hthigh, rfl, htails⟩ :=
          exists_innerTail (by split_ifs <;> decide) (by split_ifs <;> decide) h
        obtain ⟨u, hu, bytes, -, -, rfl, htail⟩ := exists_innerTail hleast hmost htails
        obtain ⟨w, hw, rest, -, -, rfl, rfl, hps⟩ := exists_lastTail hleast hmost htail
        refine ⟨rest, ?_, hps⟩
        rw [encodeChar_four hm ht hu hw]
        · rfl
        · intro hzero
          simp [hzero] at htlow
          omega
        · intro hlast
          simp [hlast] at hthigh
          omega

end

/-! ### What a text was read from -/

/-- Whether a byte string is UTF-8: the bytes of some text. -/
def IsValid (bytes : List UInt8) : Prop :=
  ∃ text, bytes = encode text

lemma mapM_id_eq_some_iff {ps : Parts} {cs : List Char} :
    ps.mapM id = some cs ↔ ps = cs.map some := by
  induction ps generalizing cs with
  | nil => cases cs <;> simp
  | cons p ps ih =>
    cases p with
    | none => cases cs <;> simp
    | some c =>
      cases cs with
      | nil => simp [Option.bind_eq_some_iff]
      | cons d cs => simp [Option.bind_eq_some_iff, ih, and_comm]

lemma partsFrom_ne_nil (owed : Owed) (bytes : List UInt8) : partsFrom (some owed) bytes ≠ [] := by
  induction bytes generalizing owed with
  | nil => simp [partsFrom]
  | cons b bytes ih =>
    rw [partsFrom_cons, step, follow]
    split_ifs
    · simp
    · simpa using ih _
    · simp

lemma parts_eq_nil_iff {bytes : List UInt8} : parts bytes = [] ↔ bytes = [] := by
  refine ⟨fun h => ?_, fun h => h ▸ rfl⟩
  cases bytes with
  | nil => rfl
  | cons b bytes =>
    rw [parts, partsFrom_cons, step, start] at h
    split at h
    · simp at h
    · split_ifs at h
      · simp at h
      · exact absurd h (partsFrom_ne_nil _ _)

/-- Characters were read from their bytes. -/
lemma eq_encodeChars {bytes : List UInt8} {cs : List Char} (h : parts bytes = cs.map some) :
    bytes = cs.flatMap String.utf8EncodeChar := by
  induction cs generalizing bytes with
  | nil => exact parts_eq_nil_iff.mp h
  | cons c cs ih =>
    obtain ⟨rest, rfl, hrest⟩ := eq_encodeChar_append h
    rw [List.flatMap_cons, ← ih hrest]

/-- A byte string is read as a text just if it is the bytes of the text. -/
lemma decode?_eq_some_iff {bytes : List UInt8} {text : String} :
    decode? bytes = some text ↔ bytes = encode text := by
  refine ⟨fun h => ?_, fun h => h ▸ decode?_encode text⟩
  obtain ⟨cs, hcs, rfl⟩ := Option.map_eq_some_iff.mp h
  rw [encode, String.toList_ofList]
  exact eq_encodeChars (mapM_id_eq_some_iff.mp hcs)

lemma decodeLossy_encode (text : String) : decodeLossy (encode text) = text := by
  rw [decodeLossy, encode, parts_encodeChars, List.map_map]
  simp [Function.comp_def]

/-- Without U+FFFD in it, a text was read whole. -/
lemma eq_encode_decodeLossy {bytes : List UInt8}
    (h : '\uFFFD' ∉ (decodeLossy bytes).toList) : bytes = encode (decodeLossy bytes) := by
  rw [decodeLossy, String.toList_ofList] at h
  rw [encode, decodeLossy, String.toList_ofList]
  apply eq_encodeChars
  rw [List.map_map]
  refine ((List.map_congr_left fun part hpart => ?_).trans (List.map_id _)).symm
  cases part with
  | none => exact absurd (List.mem_map_of_mem hpart) h
  | some c => rfl

/-- Two byte strings that are read alike are the same, or broken parts make the difference. -/
lemma eq_of_decodeLossy_eq {bytes bytes' : List UInt8}
    (h : decodeLossy bytes = decodeLossy bytes') :
    bytes = bytes' ∨ '\uFFFD' ∈ (decodeLossy bytes).toList ∧ ¬(IsValid bytes ∧ IsValid bytes') := by
  by_cases hwhole : '\uFFFD' ∈ (decodeLossy bytes).toList
  · by_cases hvalid : IsValid bytes ∧ IsValid bytes'
    · obtain ⟨⟨text, rfl⟩, text', rfl⟩ := hvalid
      rw [decodeLossy_encode, decodeLossy_encode] at h
      exact .inl (congrArg encode h)
    · exact .inr ⟨hwhole, hvalid⟩
  · left
    have hbytes := eq_encode_decodeLossy hwhole
    rw [h] at hwhole hbytes
    exact hbytes.trans (eq_encode_decodeLossy hwhole).symm

lemma parts_encodeChars_append (cs : List Char) (rest : List UInt8) :
    parts (cs.flatMap String.utf8EncodeChar ++ rest) = cs.map some ++ parts rest := by
  induction cs with
  | nil => rfl
  | cons c cs ih =>
    rw [List.flatMap_cons, List.append_assoc, parts, partsFrom_encodeChar, ← parts, ih]
    rfl

/-- What one text's bytes begin with, the other text begins with. -/
lemma toList_isPrefix {s t : String} (h : encode s <+: encode t) : s.toList <+: t.toList := by
  obtain ⟨rest, hrest⟩ := h
  have hparts := congrArg parts hrest
  rw [encode, encode, parts_encodeChars_append, parts_encodeChars] at hparts
  exact (List.prefix_map_iff_of_injective (Option.some_injective Char)).mp ⟨parts rest, hparts⟩

/-! ### Words -/

/-- The separators are the same as characters and as bytes. -/
lemma isSeparator_of_mem_encodeChar {c : Char} {b : UInt8} (hb : b ∈ String.utf8EncodeChar c)
    (hsep : Text.isSeparatorByte b = true) : Text.isSeparator c = true := by
  have hbyte : b = 0x20 ∨ b = 0x09 ∨ b = 0x0A ∨ b = 0x0C ∨ b = 0x0D := by
    simpa [Text.isSeparatorByte, or_assoc] using hsep
  have hchar : ∀ d : Char, d.toNat = b.toNat → Text.isSeparator d = true →
      Text.isSeparator c = true := by
    intro d hd hsep
    have hlow : b < 0x80 := by rcases hbyte with rfl | rfl | rfl | rfl | rfl <;> decide
    rwa [Char.toNat_inj.mp ((eq_of_mem_encodeChar hb hlow).2.trans hd.symm)]
  rcases hbyte with rfl | rfl | rfl | rfl | rfl
  · exact hchar ' ' rfl rfl
  · exact hchar '\t' rfl rfl
  · exact hchar '\n' rfl rfl
  · exact hchar '\x0c' rfl rfl
  · exact hchar '\x0d' rfl rfl

/-- The bytes of a token are one word. -/
lemma runs_encode {text : String} (h : Text.IsToken text) :
    Text.runs Text.isSeparatorByte (encode text) = [encode text] := by
  apply Text.runs_eq_singleton
  · intro hnil
    apply h.1
    rw [← decodeLossy_encode text, hnil]
    rfl
  · intro b hb
    obtain ⟨c, hc, hb⟩ := List.mem_flatMap.mp hb
    by_contra hsep
    have hblank := isSeparator_of_mem_encodeChar hb (by simpa using hsep)
    rw [h.2 c hc] at hblank
    cases hblank

end Jury.Utf8
