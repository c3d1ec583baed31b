import Mathlib.Data.List.Infix
import Jury.Proofs.Text.Decoding

/-!
# The words of a text and of its bytes

Splitting the bytes of a text at separators and reading the pieces gives the words of the text, also
where the bytes are not UTF-8 and broken parts are read as U+FFFD (`fields_decodeLossy`). A
separator is a byte below 0x80: such a byte is never taken for a part of a longer character, so it
ends what is broken before it (`partsFrom_append_ascii`), and no other bytes are read as its
character (`encodeChar_isInfix`).
-/

namespace Jury.Utf8

/-! ### Bytes that stand for themselves -/

/-- Whether what is owed comes from the bytes of a stream: the next byte must be a tail. -/
def IsProper (owed : Option Owed) : Prop :=
  ∀ o ∈ owed, 0x80 ≤ o.low

lemma isProper_none : IsProper none :=
  fun _ ho => nomatch ho

lemma isProper_start (b : UInt8) : IsProper (start b).2 := by
  rw [start]
  split
  · exact isProper_none
  · next owed hlead =>
    split_ifs
    · exact isProper_none
    · rintro o ⟨⟩
      rcases lead?_cases hlead with
        ⟨m, hm, -, rfl⟩ | ⟨m, hm, -, -, rfl⟩ | ⟨m, hm, -, rfl⟩ | ⟨m, hm, -, rfl⟩
      · exact UInt8.le_refl _
      · exact UInt8.le_refl _
      · by_cases hzero : m = 0 <;> simp [hzero]
      · by_cases hzero : m = 0 <;> simp [hzero]

lemma isProper_step (owed : Option Owed) (b : UInt8) : IsProper (step owed b).2 := by
  cases owed with
  | none => exact isProper_start b
  | some owed =>
    rw [step, follow]
    split_ifs
    · exact isProper_none
    · intro o ho
      obtain rfl := Option.some.inj ho
      exact UInt8.le_refl _
    · exact isProper_start b

lemma start_ascii {b : UInt8} (h : b < 0x80) : start b = ([some (Char.ofNat b.toNat)], none) := by
  have hlead : lead? b = some ⟨b.toNat, 0, 0x80, 0xBF⟩ := if_pos h
  simp [start, hlead]

/-- An ASCII byte stands for itself, whatever is broken off by it. -/
lemma partsFrom_append_ascii {owed : Option Owed} (howed : IsProper owed) (front : List UInt8)
    {b : UInt8} (hb : b < 0x80) (rest : List UInt8) :
    partsFrom owed (front ++ b :: rest) =
      partsFrom owed front ++ some (Char.ofNat b.toNat) :: parts rest := by
  induction front generalizing owed with
  | nil =>
    cases owed with
    | none => simp [partsFrom_cons, step, start_ascii hb, partsFrom, parts]
    | some owed =>
      have hout : ¬(owed.low ≤ b ∧ b ≤ owed.high) :=
        fun hin => UInt8.not_lt.mpr (UInt8.le_trans (howed owed rfl) hin.1) hb
      simp [partsFrom_cons, step, follow, hout, start_ascii hb, partsFrom, parts]
  | cons c front ih =>
    rw [List.cons_append, partsFrom_cons, partsFrom_cons, ih (isProper_step owed c),
      List.append_assoc]

/-! ### Where characters come from -/

/-- After a broken part, what follows is read on its own. -/
lemma exists_suffix_of_broken {owed : Option Owed} {bytes : List UInt8} {ps : Parts}
    (h : partsFrom owed bytes = none :: ps) : ∃ rest, rest <:+ bytes ∧ parts rest = ps := by
  induction bytes generalizing owed with
  | nil =>
    cases owed with
    | none => cases h
    | some owed => exact ⟨[], List.suffix_rfl, (List.cons.inj h).2⟩
  | cons b bytes ih =>
    have hskip : ∀ o, partsFrom o bytes = none :: ps → ∃ rest, rest <:+ b :: bytes ∧
        parts rest = ps := by
      intro o ho
      obtain ⟨rest, hrest, hparts⟩ := ih ho
      exact ⟨rest, hrest.trans (List.suffix_cons b bytes), hparts⟩
    rw [partsFrom_cons] at h
    cases owed with
    | none =>
      rw [step, start] at h
      split at h
      · exact ⟨bytes, List.suffix_cons b bytes, (List.cons.inj h).2⟩
      · split_ifs at h
        · cases h
        · exact hskip _ h
    | some owed =>
      rw [step, follow] at h
      split_ifs at h
      · cases h
      · exact hskip _ h
      · exact ⟨b :: bytes, List.suffix_rfl, (List.cons.inj h).2⟩

/-- The bytes of a character that is read are among those that were given. -/
lemma encodeChar_isInfix {bytes : List UInt8} {c : Char} (h : some c ∈ parts bytes) :
    String.utf8EncodeChar c <:+: bytes := by
  generalize hps : parts bytes = ps at h
  induction ps generalizing bytes with
  | nil => cases h
  | cons part ps ih =>
    cases part with
    | none =>
      obtain ⟨rest, hrest, hparts⟩ := exists_suffix_of_broken hps
      exact (ih hparts (by simpa using h)).trans hrest.isInfix
    | some d =>
      obtain ⟨rest, rfl, hparts⟩ := eq_encodeChar_append hps
      rcases List.mem_cons.mp h with hc | hc
      · obtain rfl := Option.some.inj hc
        exact (List.prefix_append _ rest).isInfix
      · exact (ih hparts hc).trans (List.suffix_append _ rest).isInfix

/-! ### Words -/

/-- A separator is written as a separator byte. -/
lemma exists_byte_of_isSeparator {c : Char} (h : Text.isSeparator c = true) :
    ∃ b, Text.isSeparatorByte b = true ∧ b ∈ String.utf8EncodeChar c := by
  simp only [Text.isSeparator, Bool.or_eq_true, beq_iff_eq] at h
  rcases h with (((rfl | rfl) | rfl) | rfl) | rfl
  · exact ⟨0x20, by decide⟩
  · exact ⟨0x09, by decide⟩
  · exact ⟨0x0A, by decide⟩
  · exact ⟨0x0C, by decide⟩
  · exact ⟨0x0D, by decide⟩

/-- A separator byte is ASCII, and as a character it is a separator. -/
lemma of_isSeparatorByte {b : UInt8} (h : Text.isSeparatorByte b = true) :
    b < 0x80 ∧ Text.isSeparator (Char.ofNat b.toNat) = true := by
  simp only [Text.isSeparatorByte, Bool.or_eq_true, beq_iff_eq] at h
  rcases h with (((rfl | rfl) | rfl) | rfl) | rfl <;> decide

section

variable {bytes : List UInt8}

/-- Bytes without separators are read as characters without separators. -/
lemma isSeparator_of_mem_decodeLossy (h : ∀ b ∈ bytes, Text.isSeparatorByte b = false) {c : Char}
    (hc : c ∈ (decodeLossy bytes).toList) : Text.isSeparator c = false := by
  rw [decodeLossy, String.toList_ofList] at hc
  obtain ⟨part, hpart, rfl⟩ := List.mem_map.mp hc
  cases part with
  | none => rfl
  | some c =>
    by_contra hsep
    obtain ⟨b, hb, hmem⟩ := exists_byte_of_isSeparator (by simpa using hsep)
    rw [h b ((encodeChar_isInfix hpart).subset hmem)] at hb
    cases hb

lemma toList_decodeLossy_ne_nil (h : bytes ≠ []) : (decodeLossy bytes).toList ≠ [] := by
  rw [decodeLossy, String.toList_ofList, ne_eq, List.map_eq_nil_iff, parts_eq_nil_iff]
  exact h

/-- What is read of two pieces with a separator between them is read of each. -/
lemma toList_decodeLossy_append_cons (front : List UInt8) {b : UInt8}
    (hb : Text.isSeparatorByte b = true) (rest : List UInt8) :
    (decodeLossy (front ++ b :: rest)).toList =
      (decodeLossy front).toList ++ Char.ofNat b.toNat :: (decodeLossy rest).toList := by
  have hparts : partsFrom none (front ++ b :: rest) = _ :=
    partsFrom_append_ascii isProper_none front (of_isSeparatorByte hb).1 rest
  simp only [decodeLossy, String.toList_ofList, parts, hparts, List.map_append, List.map_cons,
    Option.getD_some]

end

open Text (isSeparatorByte runs runsFrom) in
/-- Reading a byte string and splitting the text gives the readings of the words of the byte
string, of whose first one `held` was split off already, last byte first. -/
lemma fields_decodeLossy_append {held : List UInt8} (hheld : ∀ b ∈ held, isSeparatorByte b = false)
    (bytes : List UInt8) : Text.fields (decodeLossy (held.reverse ++ bytes)) =
      (runsFrom isSeparatorByte held bytes).map decodeLossy := by
  have hword : ∀ held : List UInt8, (∀ b ∈ held, isSeparatorByte b = false) →
      ∀ c ∈ (decodeLossy held.reverse).toList, Text.isSeparator c = false :=
    fun held hheld c => isSeparator_of_mem_decodeLossy (by simpa using hheld)
  induction bytes generalizing held with
  | nil =>
    rw [List.append_nil, runsFrom]
    split_ifs with hempty
    · rw [List.isEmpty_iff.mp hempty]
      rfl
    · have hne : held.reverse ≠ [] := by simpa using hempty
      simp [Text.fields, Text.runs_eq_singleton (toList_decodeLossy_ne_nil hne) (hword held hheld)]
  | cons b bytes ih =>
    have hrest : Text.fields (decodeLossy ([].reverse ++ bytes)) =
        (runsFrom isSeparatorByte [] bytes).map decodeLossy := ih (List.forall_mem_nil _)
    rw [List.reverse_nil, List.nil_append] at hrest
    rw [runsFrom]
    split_ifs with hsep hempty
    · have hfirst : (decodeLossy held.reverse).toList = [] := by
        rw [List.isEmpty_iff.mp hempty]
        rfl
      have hblank : [Char.ofNat b.toNat].all Text.isSeparator = true := by
        simpa using (of_isSeparatorByte hsep).2
      rw [Text.fields, toList_decodeLossy_append_cons _ hsep, hfirst, List.nil_append,
        ← List.singleton_append, Text.runs_append_of_all hblank, ← Text.fields, hrest]
    · have hne : held.reverse ≠ [] := by simpa using hempty
      rw [Text.fields, toList_decodeLossy_append_cons _ hsep,
        Text.runs_append_cons (toList_decodeLossy_ne_nil hne) (hword held hheld)
          (of_isSeparatorByte hsep).2, List.map_cons, String.ofList_toList, List.map_cons,
        ← Text.fields, hrest]
    · have hheld' : ∀ c ∈ b :: held, isSeparatorByte c = false :=
        List.forall_mem_cons.mpr ⟨by simpa using hsep, hheld⟩
      rw [← ih hheld', List.reverse_cons, List.append_assoc, List.singleton_append]

/-- Reading a byte string and splitting the text is splitting the byte string and reading the
words. -/
lemma fields_decodeLossy (bytes : List UInt8) : Text.fields (decodeLossy bytes) =
    (Text.runs Text.isSeparatorByte bytes).map decodeLossy :=
  fields_decodeLossy_append (List.forall_mem_nil _) bytes

end Jury.Utf8
