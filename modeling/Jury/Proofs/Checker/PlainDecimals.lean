import Mathlib.Data.List.TakeWhile
import Jury.Checker.Compare
import Jury.Proofs.Number.Grammar
import Jury.Proofs.Number.Overflow

/-!
# Plain decimals

A token that is compared as a number spells a plain decimal (`isPlainDecimal_iff`), and such a token
is always read as a number (`parse?_text`), a finite one if the decimal is not too large
(`isFinite_value_iff`). Plain decimals have a grammar of their own, which is part of that of
floating-point numbers (`isPlainDecimal_grammar`).
-/

namespace Jury.Checker

open Jury.Text (isDigit isDigit_eq)

/-- A plain decimal: a sign, at least one digit before the point, and those after it. -/
structure PlainDecimal where
  negative : Bool
  whole : List Char
  fraction : List Char
  whole_ne_nil : whole ≠ []
  digits : ∀ c ∈ whole ++ fraction, c.isDigit = true

namespace PlainDecimal

/-- The digits, with a point if there are any after it. -/
def body (d : PlainDecimal) : List Char :=
  d.whole ++ if d.fraction = [] then [] else '.' :: d.fraction

/-- The token that spells a plain decimal. -/
def text (d : PlainDecimal) : String :=
  String.ofList (if d.negative then '-' :: d.body else d.body)

/-- The number a plain decimal stands for, rounded. -/
def value (d : PlainDecimal) : Binary64 :=
  .ofDecimal d.negative ⟨d.whole, d.fraction, 0⟩

/-- Whether a plain decimal is 2^1024 - 2^970 or more in size: its digits, read as one number, are
that many times a power of ten with one zero for each digit after the point. -/
def IsTooLarge (d : PlainDecimal) : Prop :=
  (2 ^ 1024 - 2 ^ 970) * 10 ^ d.fraction.length ≤ Nat.ofDigitChars 10 (d.whole ++ d.fraction) 0

lemma isFinite_value_iff (d : PlainDecimal) : d.value.isFinite = true ↔ ¬d.IsTooLarge :=
  (Binary64.isFinite_ofDecimal_iff d.negative d.whole d.fraction d.digits).trans
    Nat.not_le.symm

/-- A plain decimal starts with a digit after its sign. -/
lemma exists_body_eq (d : PlainDecimal) : ∃ c cs, d.body = c :: cs ∧ c.isDigit = true := by
  obtain ⟨c, cs, hwhole⟩ := List.exists_cons_of_ne_nil d.whole_ne_nil
  refine ⟨c, _, by rw [body, hwhole, List.cons_append], ?_⟩
  exact d.digits c (by simp [hwhole])

end PlainDecimal

/-! ### The spelling -/

lemma ne_point_of_isDigit {c : Char} (h : c.isDigit = true) : c ≠ '.' := by
  rintro rfl
  cases h

/-- Whether what follows the sign is digits with at most one point, which stands between two. -/
def isPlainBody (body : List Char) : Bool :=
  body != [] && body.head? != some '.' && body.getLast? != some '.' &&
    body.all (fun c => isDigit c || c == '.') && body.count '.' ≤ 1

lemma isPlainBody_iff {body : List Char} :
    isPlainBody body = true ↔ body ≠ [] ∧ body.head? ≠ some '.' ∧ body.getLast? ≠ some '.' ∧
      (∀ c ∈ body, c.isDigit = true ∨ c = '.') ∧ body.count '.' ≤ 1 := by
  simp [isPlainBody, isDigit_eq, and_assoc]

lemma isPlainBody_body (d : PlainDecimal) : isPlainBody d.body = true := by
  obtain ⟨c, cs, hbody, hc⟩ := d.exists_body_eq
  obtain ⟨hwhole, hfraction⟩ := List.forall_mem_append.mp d.digits
  have hpoint : ∀ row : List Char, (∀ c ∈ row, c.isDigit = true) → '.' ∉ row :=
    fun row hrow hmem => ne_point_of_isDigit (hrow '.' hmem) rfl
  rw [isPlainBody_iff]
  refine ⟨by simp [hbody], ?_, ?_, ?_, ?_⟩
  · rw [hbody]
    exact fun h => ne_point_of_isDigit hc (Option.some.inj h)
  · intro hlast
    rw [PlainDecimal.body] at hlast
    split_ifs at hlast with hnil
    · rw [List.append_nil] at hlast
      exact hpoint _ hwhole (List.mem_of_getLast? hlast)
    · rw [List.append_cons, List.getLast?_append_of_ne_nil _ hnil] at hlast
      exact hpoint _ hfraction (List.mem_of_getLast? hlast)
  · intro c hc
    rw [PlainDecimal.body] at hc
    split_ifs at hc <;> grind
  · rw [PlainDecimal.body, List.count_append, List.count_eq_zero.mpr (hpoint _ hwhole)]
    split_ifs
    · simp
    · simp [List.count_eq_zero.mpr (hpoint _ hfraction)]

/-- What passes as the digits of a plain decimal is spelled by one. -/
lemma exists_body_of_isPlainBody (negative : Bool) {body : List Char}
    (h : isPlainBody body = true) :
    ∃ d : PlainDecimal, d.negative = negative ∧ d.body = body := by
  obtain ⟨hne, hhead, hlast, hall, hcount⟩ := isPlainBody_iff.mp h
  have hsplit := List.takeWhile_append_dropWhile (p := Char.isDigit) (l := body)
  have hwhole : ∀ c ∈ body.takeWhile Char.isDigit, c.isDigit = true :=
    fun c hc => List.mem_takeWhile_imp hc
  have hrest := List.head?_dropWhile_not Char.isDigit body
  generalize body.takeWhile Char.isDigit = whole at hsplit hwhole
  generalize body.dropWhile Char.isDigit = rest at hsplit hrest
  subst hsplit
  cases rest with
  | nil =>
    refine ⟨⟨negative, whole, [], by simpa using hne, by simpa using hwhole⟩, rfl, ?_⟩
    simp [PlainDecimal.body]
  | cons c fraction =>
    have hc : c.isDigit = false := hrest
    obtain rfl : c = '.' := by simpa [hc] using hall c (by simp)
    -- the one point is taken, so only digits are left
    have hfraction : ∀ c ∈ fraction, c.isDigit = true := by
      intro d hd
      refine (hall d (by simp [hd])).resolve_right ?_
      rintro rfl
      have := List.count_pos_iff.mpr hd
      rw [List.count_append, List.count_cons_self] at hcount
      omega
    refine ⟨⟨negative, whole, fraction, ?_, List.forall_mem_append.mpr ⟨hwhole, hfraction⟩⟩, rfl,
      ?_⟩
    · rintro rfl
      exact hhead rfl
    · rw [PlainDecimal.body, if_neg]
      rintro rfl
      exact hlast (by simp)

lemma isPlainDecimal_sign (body : List Char) :
    isPlainDecimal (String.ofList ('-' :: body)) = isPlainBody body := by
  rw [isPlainDecimal, String.toList_ofList]
  rfl

lemma isPlainDecimal_unsigned {body : List Char} (h : body.head? ≠ some '-') :
    isPlainDecimal (String.ofList body) = isPlainBody body := by
  rw [isPlainDecimal, String.toList_ofList]
  split
  · exact absurd rfl h
  · rfl

/-- A token is a plain decimal just if one spells it. -/
lemma isPlainDecimal_iff {token : String} :
    isPlainDecimal token = true ↔ ∃ d : PlainDecimal, token = d.text := by
  constructor
  · intro h
    obtain ⟨chars, rfl⟩ : ∃ chars, token = String.ofList chars :=
      ⟨token.toList, String.ofList_toList.symm⟩
    by_cases hsign : chars.head? = some '-'
    · obtain ⟨body, rfl⟩ := List.head?_eq_some_iff.mp hsign
      rw [isPlainDecimal_sign] at h
      obtain ⟨d, hnegative, hbody⟩ := exists_body_of_isPlainBody true h
      exact ⟨d, by rw [PlainDecimal.text, hnegative, if_pos rfl, hbody]⟩
    · rw [isPlainDecimal_unsigned hsign] at h
      obtain ⟨d, hnegative, hbody⟩ := exists_body_of_isPlainBody false h
      exact ⟨d, by rw [PlainDecimal.text, hnegative, if_neg Bool.false_ne_true, hbody]⟩
  · rintro ⟨d, rfl⟩
    have hbody := isPlainBody_body d
    rw [PlainDecimal.text]
    split_ifs
    · rwa [isPlainDecimal_sign]
    · obtain ⟨c, cs, hcons, hc⟩ := d.exists_body_eq
      rwa [isPlainDecimal_unsigned]
      rw [hcons]
      rintro ⟨⟩
      cases hc

/-- A plain decimal is one token. -/
lemma PlainDecimal.isToken_text (d : PlainDecimal) : Text.IsToken d.text := by
  obtain ⟨hne, -, -, hall, -⟩ := isPlainBody_iff.mp (isPlainBody_body d)
  have hbody : ∀ c ∈ d.body, Text.isBlank c = false := by
    intro c hc
    rcases hall c hc with hdigit | rfl
    · exact Text.not_isBlank_of_isDigit hdigit
    · rfl
  apply Text.IsSolid.isToken
  rw [Text.IsSolid, PlainDecimal.text, String.toList_ofList, ne_eq, String.ofList_eq_empty_iff]
  split_ifs
  · exact ⟨not_false, List.forall_mem_cons.mpr ⟨rfl, hbody⟩⟩
  · exact ⟨hne, hbody⟩

/-! ### Reading -/

namespace PlainDecimal

lemma decimal?_body (d : PlainDecimal) :
    Binary64.decimal? d.body = some ⟨d.whole, d.fraction, 0⟩ := by
  obtain ⟨hwhole, hfraction⟩ := List.forall_mem_append.mp d.digits
  have hne : d.whole.isEmpty = false := by simp [d.whole_ne_nil]
  by_cases hnil : d.fraction = []
  · have hbody : d.body = d.whole ++ [] := by simp [body, hnil]
    obtain ⟨htake, hdrop⟩ := Binary64.SpellsExponent.none.span_isDigit hwhole
    rw [Binary64.decimal?, hbody, htake, hdrop]
    simp [hne, hnil, Binary64.suffix?]
  · have hbody : d.body = d.whole ++ '.' :: (d.fraction ++ []) := by simp [body, hnil]
    obtain ⟨htake, hdrop⟩ := Binary64.span_isDigit_point hwhole (d.fraction ++ [])
    obtain ⟨htake', hdrop'⟩ := Binary64.SpellsExponent.none.span_isDigit hfraction
    rw [Binary64.decimal?, hbody, htake, hdrop]
    simp only [htake', hdrop']
    simp [hne, Binary64.suffix?]

/-- The words that are read as numbers without digits are no plain decimals. -/
lemma map_toLower_body_ne (d : PlainDecimal) {c : Char} {word : List Char}
    (hc : c.isDigit = false) : d.body.map Char.toLower ≠ c :: word := by
  obtain ⟨first, cs, hbody, hfirst⟩ := d.exists_body_eq
  have hlower : first.toLower = first := by
    have hupper : ¬(first.val ≥ 'A'.val ∧ first.val ≤ 'Z'.val) := by
      simp [Char.isDigit, UInt32.le_iff_toNat_le] at hfirst ⊢
      omega
    exact dif_neg hupper
  rw [hbody, List.map_cons, hlower]
  intro h
  obtain ⟨rfl, -⟩ := List.cons.inj h
  rw [hc] at hfirst
  cases hfirst

lemma unsigned?_body (d : PlainDecimal) : Binary64.unsigned? d.negative d.body = some d.value := by
  rw [Binary64.unsigned?, if_neg, if_neg, decimal?_body]
  · rfl
  · exact d.map_toLower_body_ne rfl
  · rintro (h | h)
    · exact d.map_toLower_body_ne rfl h
    · exact d.map_toLower_body_ne rfl h

/-- A plain decimal is read as the number it stands for. -/
lemma parse?_text (d : PlainDecimal) : Binary64.parse? d.text = some d.value := by
  rw [Binary64.parse?, text, String.toList_ofList, ← unsigned?_body]
  split_ifs with hnegative
  · simp [hnegative]
  · obtain ⟨c, cs, hbody, hc⟩ := d.exists_body_eq
    rw [hbody, Bool.eq_false_of_not_eq_true hnegative]
    split
    · next heq =>
      cases heq
      cases hc
    · next heq =>
      cases heq
      cases hc
    · rfl

end PlainDecimal

/-! ### The grammar -/

section

open Jury.Text (IsNumeral)
open Jury.Binary64 (SpellsDecimal SpellsNumber)

/-- Whether characters spell a plain decimal: a minus sign or none, digits, and perhaps a point and
more digits. -/
inductive SpellsPlainDecimal : List Char → Prop
  | whole {sign digits : List Char} (hsign : sign = [] ∨ sign = ['-'])
      (hdigits : IsNumeral digits) : SpellsPlainDecimal (sign ++ digits)
  | pointed {sign digits fraction : List Char} (hsign : sign = [] ∨ sign = ['-'])
      (hdigits : IsNumeral digits) (hfraction : IsNumeral fraction) :
      SpellsPlainDecimal (sign ++ (digits ++ '.' :: fraction))

/-- What spells a plain decimal is the text of one. -/
lemma SpellsPlainDecimal.exists_text_eq {token : String} (h : SpellsPlainDecimal token.toList) :
    ∃ d : PlainDecimal, token = d.text := by
  have htext : ∀ {sign : List Char}, sign = [] ∨ sign = ['-'] → ∀ whole fraction hne hdigits,
      token.toList = sign ++ PlainDecimal.body ⟨true, whole, fraction, hne, hdigits⟩ →
      ∃ d : PlainDecimal, token = d.text := by
    rintro _ (rfl | rfl) whole fraction hne hdigits htoken
    · refine ⟨⟨false, whole, fraction, hne, hdigits⟩, ?_⟩
      rw [← String.toList_inj, htoken, PlainDecimal.text, String.toList_ofList]
      rfl
    · refine ⟨⟨true, whole, fraction, hne, hdigits⟩, ?_⟩
      rw [← String.toList_inj, htoken, PlainDecimal.text, String.toList_ofList]
      rfl
  generalize hcs : token.toList = cs at h
  cases h with
  | whole hsign hdigits =>
    refine htext hsign _ [] hdigits.1 (by simpa using hdigits.2) ?_
    rw [hcs, PlainDecimal.body, if_pos rfl, List.append_nil]
  | pointed hsign hdigits hfraction =>
    refine htext hsign _ _ hdigits.1 (List.forall_mem_append.mpr ⟨hdigits.2, hfraction.2⟩) ?_
    rw [hcs, PlainDecimal.body, if_neg hfraction.1]

/-- The text of a plain decimal spells one. -/
lemma PlainDecimal.spells_text (d : PlainDecimal) : SpellsPlainDecimal d.text.toList := by
  obtain ⟨hwhole, hfraction⟩ := List.forall_mem_append.mp d.digits
  obtain ⟨sign, hsign, htext⟩ : ∃ sign, (sign = [] ∨ sign = ['-']) ∧
      d.text.toList = sign ++ d.body := by
    rw [text, String.toList_ofList]
    cases d.negative with
    | false => exact ⟨[], .inl rfl, rfl⟩
    | true => exact ⟨['-'], .inr rfl, rfl⟩
  rw [htext, body]
  split_ifs with hnil
  · rw [List.append_nil]
    exact .whole hsign ⟨d.whole_ne_nil, hwhole⟩
  · exact .pointed hsign ⟨d.whole_ne_nil, hwhole⟩ ⟨hnil, hfraction⟩

/-- Every plain decimal follows the grammar of floating-point numbers. -/
lemma SpellsPlainDecimal.spellsNumber {cs : List Char} (h : SpellsPlainDecimal cs) :
    SpellsNumber cs := by
  have hnumber : ∀ {sign body : List Char}, sign = [] ∨ sign = ['-'] → SpellsDecimal body →
      SpellsNumber (sign ++ body) := by
    rintro _ body (rfl | rfl) hbody
    · exact .signed .none (.decimal hbody)
    · exact .signed .minus (.decimal hbody)
  cases h with
  | @whole sign digits hsign hdigits =>
    have hwhole := SpellsDecimal.whole hdigits .none
    rw [List.append_nil] at hwhole
    exact hnumber hsign hwhole
  | @pointed sign digits fraction hsign hdigits hfraction =>
    have hne : digits ++ fraction ≠ [] := List.append_ne_nil_of_left_ne_nil hdigits.1 _
    have hpointed := SpellsDecimal.pointed hne hdigits.2 hfraction.2 .none
    rw [List.append_nil] at hpointed
    exact hnumber hsign hpointed

/-- An expected plain decimal is compared as the number that it is read as. -/
lemma tokensMatch_of_isPlainDecimal {expected : String} (hplain : isPlainDecimal expected = true)
    {e : Binary64} (he : Binary64.parse? expected = some e) (tolerance : Binary64)
    (ignoreCase : Bool) (actual : String) :
    tokensMatch ⟨some tolerance, ignoreCase⟩ expected actual =
      match Binary64.parse? actual with
      | some a => withinTolerance e a tolerance
      | none => false := by
  rw [tokensMatch, hplain, he]
  cases Binary64.parse? actual <;> rfl

/-- **Plain decimals are numbers.** A token is taken for a plain decimal just if it spells one: a
minus sign or none, at least one digit, and perhaps a point with at least one digit behind it. A
text is read as a number just if it follows the larger grammar of floating-point numbers, as every
plain decimal does. So where a plain decimal is expected and there is a tolerance, the expected
token is read, and only an answer that is itself no number is turned down for not being one. -/
theorem isPlainDecimal_grammar :
    (∀ token : String, isPlainDecimal token = true ↔ SpellsPlainDecimal token.toList) ∧
    (∀ text : String, (Binary64.parse? text).isSome = true ↔ SpellsNumber text.toList) ∧
    (∀ cs : List Char, SpellsPlainDecimal cs → SpellsNumber cs) ∧
    ∀ expected : String, isPlainDecimal expected = true →
      ∃ e, Binary64.parse? expected = some e ∧
        ∀ (tolerance : Binary64) (ignoreCase : Bool) (actual : String),
          (¬SpellsNumber actual.toList →
            tokensMatch ⟨some tolerance, ignoreCase⟩ expected actual = false) ∧
          (SpellsNumber actual.toList → ∃ a, Binary64.parse? actual = some a ∧
            tokensMatch ⟨some tolerance, ignoreCase⟩ expected actual =
              withinTolerance e a tolerance) := by
  have hspells : ∀ token : String,
      isPlainDecimal token = true ↔ SpellsPlainDecimal token.toList := by
    intro token
    rw [isPlainDecimal_iff]
    constructor
    · rintro ⟨d, rfl⟩
      exact d.spells_text
    · exact SpellsPlainDecimal.exists_text_eq
  refine ⟨hspells, fun text => Binary64.isSome_parse?_iff,
    fun cs => SpellsPlainDecimal.spellsNumber, fun expected hplain => ?_⟩
  obtain ⟨e, he⟩ := Option.isSome_iff_exists.mp
    (Binary64.isSome_parse?_iff.mpr ((hspells expected).mp hplain).spellsNumber)
  refine ⟨e, he, fun tolerance ignoreCase actual => ⟨fun hactual => ?_, fun hactual => ?_⟩⟩
  · have hnone : Binary64.parse? actual = none := by
      rwa [← Binary64.isSome_parse?_iff, Option.not_isSome_iff_eq_none] at hactual
    rw [tokensMatch_of_isPlainDecimal hplain he, hnone]
  · obtain ⟨a, ha⟩ := Option.isSome_iff_exists.mp (Binary64.isSome_parse?_iff.mpr hactual)
    exact ⟨a, ha, by rw [tokensMatch_of_isPlainDecimal hplain he, ha]⟩

/-- Where -2.5 is expected, an answer with two points is turned down for being no number, and one
with its point at the end is compared, though it is no plain decimal. -/
theorem isPlainDecimal_grammar_points :
    let options : CompareOptions := ⟨some (.finite false 0), false⟩
    isPlainDecimal "-2.5" = true ∧ SpellsNumber "-2.5".toList ∧
      ¬SpellsNumber "-2.5.0".toList ∧ tokensMatch options "-2.5" "-2.5.0" = false ∧
      SpellsNumber "5.".toList ∧ ¬SpellsPlainDecimal "5.".toList ∧
      ∃ e a, Binary64.parse? "-2.5" = some e ∧ Binary64.parse? "5." = some a ∧
        tokensMatch options "-2.5" "5." = withinTolerance e a (.finite false 0) := by
  intro options
  obtain ⟨hplain, hnumber, hlarger, hexpected⟩ := isPlainDecimal_grammar
  have htoken : isPlainDecimal "-2.5" = true := by decide
  have htwice : ¬SpellsNumber "-2.5.0".toList := by
    rw [← hnumber]
    decide
  have hends : SpellsNumber "5.".toList := (hnumber _).mp (by decide)
  obtain ⟨e, he, hcompared⟩ := hexpected "-2.5" htoken
  obtain ⟨a, ha, hmatch⟩ := (hcompared (.finite false 0) false "5.").2 hends
  refine ⟨htoken, hlarger _ ((hplain _).mp htoken), htwice, (hcompared _ _ _).1 htwice, hends, ?_,
    e, a, he, ha, hmatch⟩
  rw [← hplain]
  decide

end

end Jury.Checker
