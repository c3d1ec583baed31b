import Mathlib.Data.List.TakeWhile
import Jury.Number.Parse
import Jury.Proofs.Text.Numerals

/-!
# Which texts are read as numbers

A text is read as a number just if it follows the grammar of floating-point numbers
(`isSome_parse?_iff`): a sign or none, and then one of three words in any case, or digits with at
most one point, before or behind which there is a digit, and an exponent or none.
-/

namespace Jury.Binary64

open Jury.Text (isDigit isDigit_eq IsNumeral natural?_eq_some_iff)

/-! ### The grammar -/

/-- A sign, or none. -/
inductive SpellsSign : List Char → Prop
  | none : SpellsSign []
  | plus : SpellsSign ['+']
  | minus : SpellsSign ['-']

/-- An exponent, or none. -/
inductive SpellsExponent : List Char → Prop
  | none : SpellsExponent []
  | some {e : Char} {sign digits : List Char} (he : e = 'e' ∨ e = 'E') (hsign : SpellsSign sign)
      (hdigits : IsNumeral digits) : SpellsExponent (e :: (sign ++ digits))

/-- A decimal without a sign: digits, perhaps a point among them, and perhaps an exponent. -/
inductive SpellsDecimal : List Char → Prop
  | whole {digits exponent : List Char} (hdigits : IsNumeral digits)
      (hexponent : SpellsExponent exponent) : SpellsDecimal (digits ++ exponent)
  | pointed {whole fraction exponent : List Char} (hne : whole ++ fraction ≠ [])
      (hwhole : ∀ c ∈ whole, c.isDigit = true) (hfraction : ∀ c ∈ fraction, c.isDigit = true)
      (hexponent : SpellsExponent exponent) :
      SpellsDecimal (whole ++ '.' :: (fraction ++ exponent))

/-- A number without a sign: a decimal, or a word for what is none. -/
inductive SpellsUnsigned : List Char → Prop
  | decimal {cs : List Char} (h : SpellsDecimal cs) : SpellsUnsigned cs
  | word {cs : List Char}
      (h : cs.map Char.toLower ∈ ["inf".toList, "infinity".toList, "nan".toList]) :
      SpellsUnsigned cs

/-- A number: a sign or none, and what has none. -/
inductive SpellsNumber : List Char → Prop
  | signed {sign cs : List Char} (hsign : SpellsSign sign) (hcs : SpellsUnsigned cs) :
      SpellsNumber (sign ++ cs)

/-! ### Exponents -/

lemma isSome_exponent?_iff {cs : List Char} :
    (exponent? cs).isSome = true ↔
      ∃ sign digits, cs = sign ++ digits ∧ SpellsSign sign ∧ IsNumeral digits := by
  have hnumeral : ∀ digits, (Text.natural? digits).isSome = true → IsNumeral digits := by
    intro digits h
    obtain ⟨n, hn⟩ := Option.isSome_iff_exists.mp h
    exact (natural?_eq_some_iff.mp hn).1
  constructor
  · intro h
    rw [exponent?.eq_def] at h
    split at h <;> rw [Option.isSome_map] at h
    · next digits =>
      exact ⟨['-'], digits, rfl, .minus, hnumeral digits (Option.isSome_of_isSome_bind h)⟩
    · next digits =>
      exact ⟨['+'], digits, rfl, .plus, hnumeral digits (Option.isSome_of_isSome_bind h)⟩
    · exact ⟨[], cs, rfl, .none, hnumeral cs (Option.isSome_of_isSome_bind h)⟩
  · rintro ⟨sign, digits, rfl, hsign, hdigits⟩
    have hread := natural?_eq_some_iff.mpr ⟨hdigits, rfl⟩
    cases hsign with
    | none =>
      rw [List.nil_append, exponent?, hread]
      · rfl
      · exact hdigits.head_ne rfl
      · exact hdigits.head_ne rfl
    | plus =>
      rw [List.singleton_append, exponent?, hread]
      rfl
    | minus =>
      rw [List.singleton_append, exponent?, hread]
      rfl

lemma isSome_suffix?_iff {cs : List Char} : (suffix? cs).isSome = true ↔ SpellsExponent cs := by
  constructor
  · intro h
    rw [suffix?.eq_def] at h
    split at h
    · exact .none
    · obtain ⟨sign, digits, rfl, hsign, hdigits⟩ := isSome_exponent?_iff.mp h
      exact .some (.inl rfl) hsign hdigits
    · obtain ⟨sign, digits, rfl, hsign, hdigits⟩ := isSome_exponent?_iff.mp h
      exact .some (.inr rfl) hsign hdigits
    · cases h
  · rintro (_ | ⟨rfl | rfl, hsign, hdigits⟩)
    · rfl
    · exact isSome_exponent?_iff.mpr ⟨_, _, rfl, hsign, hdigits⟩
    · exact isSome_exponent?_iff.mpr ⟨_, _, rfl, hsign, hdigits⟩

/-! ### Decimals -/

/-- No exponent begins with a digit or a point. -/
lemma SpellsExponent.head_ne {exponent : List Char} (h : SpellsExponent exponent) {c : Char}
    (hc : c.isDigit = true ∨ c = '.') (rest : List Char) : exponent ≠ c :: rest := by
  rintro rfl
  cases h with
  | some he => rcases he with rfl | rfl <;> simp at hc

/-- A row of digits ends where something else begins. -/
lemma span_isDigit {digits rest : List Char} (hdigits : ∀ c ∈ digits, c.isDigit = true)
    (hrest : ∀ c, rest.head? = some c → c.isDigit = false) :
    (digits ++ rest).takeWhile isDigit = digits ∧ (digits ++ rest).dropWhile isDigit = rest := by
  have hsame : isDigit = Char.isDigit := funext isDigit_eq
  rw [hsame, List.takeWhile_append_of_pos hdigits, List.dropWhile_append_of_pos hdigits]
  cases rest with
  | nil => simp
  | cons c rest =>
    have hc : ¬c.isDigit = true := by simp [hrest c rfl]
    rw [List.takeWhile_cons_of_neg hc, List.dropWhile_cons_of_neg hc, List.append_nil]
    exact ⟨rfl, rfl⟩

lemma span_isDigit_point {digits : List Char} (hdigits : ∀ c ∈ digits, c.isDigit = true)
    (rest : List Char) :
    (digits ++ '.' :: rest).takeWhile isDigit = digits ∧
      (digits ++ '.' :: rest).dropWhile isDigit = '.' :: rest := by
  refine span_isDigit hdigits ?_
  rintro c ⟨⟩
  rfl

lemma SpellsExponent.span_isDigit {digits exponent : List Char} (h : SpellsExponent exponent)
    (hdigits : ∀ c ∈ digits, c.isDigit = true) :
    (digits ++ exponent).takeWhile isDigit = digits ∧
      (digits ++ exponent).dropWhile isDigit = exponent := by
  refine Binary64.span_isDigit hdigits fun c hc => ?_
  obtain ⟨rest, hrest⟩ := List.head?_eq_some_iff.mp hc
  by_contra hdigit
  exact h.head_ne (.inl (eq_true_of_ne_false hdigit)) rest hrest

lemma isDigit_of_mem_takeWhile {cs : List Char} {c : Char} (h : c ∈ cs.takeWhile isDigit) :
    c.isDigit = true :=
  (isDigit_eq c).symm.trans (List.mem_takeWhile_imp h)

/-- What is read as a decimal follows the grammar. -/
lemma SpellsDecimal.of_isSome {cs : List Char} (h : (decimal? cs).isSome = true) :
    SpellsDecimal cs := by
  have hsplit := List.takeWhile_append_dropWhile (p := isDigit) (l := cs)
  have hwhole : ∀ c ∈ cs.takeWhile isDigit, c.isDigit = true := fun c => isDigit_of_mem_takeWhile
  rw [decimal?] at h
  generalize cs.takeWhile isDigit = whole at h hsplit hwhole
  generalize cs.dropWhile isDigit = rest at h hsplit
  subst hsplit
  split at h
  · next rest =>
    dsimp only at h
    split_ifs at h with hempty
    · cases h
    rw [Option.isSome_map, isSome_suffix?_iff] at h
    rw [← List.takeWhile_append_dropWhile (p := isDigit) (l := rest)]
    rw [Bool.and_eq_true, List.isEmpty_iff, List.isEmpty_iff, ← List.append_eq_nil_iff] at hempty
    exact .pointed hempty hwhole (fun c => isDigit_of_mem_takeWhile) h
  · split_ifs at h with hempty
    · cases h
    rw [Option.isSome_map, isSome_suffix?_iff] at h
    exact .whole ⟨by simpa using hempty, hwhole⟩ h

/-- What follows the grammar is read as a decimal. -/
lemma SpellsDecimal.isSome {cs : List Char} (h : SpellsDecimal cs) :
    (decimal? cs).isSome = true := by
  cases h with
  | @whole digits exponent hdigits hexponent =>
    obtain ⟨htake, hdrop⟩ := hexponent.span_isDigit hdigits.2
    have hne : digits.isEmpty = false := by simp [hdigits.1]
    rw [decimal?, htake, hdrop]
    split
    · exact absurd rfl (hexponent.head_ne (.inr rfl) _)
    · simpa [hne] using isSome_suffix?_iff.mpr hexponent
  | @pointed whole fraction exponent hne hwhole hfraction hexponent =>
    obtain ⟨htake, hdrop⟩ := span_isDigit_point hwhole (fraction ++ exponent)
    obtain ⟨htake', hdrop'⟩ := hexponent.span_isDigit hfraction
    have hempty : ¬(whole.isEmpty && fraction.isEmpty) = true := by
      rwa [Bool.and_eq_true, List.isEmpty_iff, List.isEmpty_iff, ← List.append_eq_nil_iff]
    rw [decimal?, htake, hdrop]
    simp only [htake', hdrop', if_neg hempty, Option.isSome_map]
    exact isSome_suffix?_iff.mpr hexponent

/-! ### Numbers -/

lemma isSome_unsigned?_iff (negative : Bool) {cs : List Char} :
    (unsigned? negative cs).isSome = true ↔ SpellsUnsigned cs := by
  rw [unsigned?]
  constructor
  · intro h
    split_ifs at h with hinfinite hnan
    · refine .word ?_
      rcases hinfinite with hword | hword <;> rw [hword] <;> decide
    · exact .word (by rw [hnan]; decide)
    · rw [Option.isSome_map] at h
      exact .decimal (.of_isSome h)
  · intro h
    split_ifs with hinfinite hnan
    · rfl
    · rfl
    · rw [Option.isSome_map]
      cases h with
      | decimal h => exact h.isSome
      | word h =>
        rw [List.mem_cons, List.mem_cons, List.mem_singleton] at h
        tauto

/-- A decimal begins with a digit or a point. -/
lemma SpellsDecimal.exists_eq_cons {cs : List Char} (h : SpellsDecimal cs) :
    ∃ c rest, cs = c :: rest ∧ (c.isDigit = true ∨ c = '.') := by
  cases h with
  | whole hdigits _ =>
    obtain ⟨c, digits, rfl⟩ := List.exists_cons_of_ne_nil hdigits.1
    exact ⟨c, _, List.cons_append, .inl (hdigits.2 c List.mem_cons_self)⟩
  | @pointed whole _ _ _ hwhole _ _ =>
    cases whole with
    | nil => exact ⟨'.', _, List.nil_append _, .inr rfl⟩
    | cons c whole => exact ⟨c, _, List.cons_append, .inl (hwhole c List.mem_cons_self)⟩

/-- What has no sign does not begin with one. -/
lemma SpellsUnsigned.head_ne {cs : List Char} (h : SpellsUnsigned cs) {c : Char}
    (hc : c = '-' ∨ c = '+') (rest : List Char) : cs ≠ c :: rest := by
  rintro rfl
  cases h with
  | decimal h =>
    obtain ⟨d, ds, hds, hd⟩ := h.exists_eq_cons
    obtain ⟨rfl, -⟩ := List.cons.inj hds
    rcases hc with rfl | rfl <;> simp at hd
  | word h => rcases hc with rfl | rfl <;> simp at h

/-- A text is read as a number just if it follows the grammar. -/
lemma isSome_parse?_iff {text : String} :
    (parse? text).isSome = true ↔ SpellsNumber text.toList := by
  constructor
  · intro h
    rw [parse?] at h
    split at h <;> rw [isSome_unsigned?_iff] at h
    · next cs htext => exact htext ▸ .signed .minus h
    · next cs htext => exact htext ▸ .signed .plus h
    · exact .signed .none h
  · intro h
    rw [parse?]
    generalize text.toList = cs at h
    obtain ⟨hsign, hcs⟩ := h
    cases hsign with
    | minus => exact (isSome_unsigned?_iff true).mpr hcs
    | plus => exact (isSome_unsigned?_iff false).mpr hcs
    | none =>
      rw [List.nil_append]
      split
      · exact absurd rfl (hcs.head_ne (.inl rfl) _)
      · exact absurd rfl (hcs.head_ne (.inr rfl) _)
      · exact (isSome_unsigned?_iff false).mpr hcs

end Jury.Binary64
