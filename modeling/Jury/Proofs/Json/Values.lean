import Jury.Proofs.Json.Strings
import Jury.Proofs.Text.Numerals

/-!
# JSON texts are read back

A value whose numbers are natural and whose strings stand for texts is read back from the text that
it is written as (`parse?_render`). What is written is read without fuel running out: a value of `n`
characters takes at most `2 * n` steps.
-/

namespace Jury.Json

open Jury.Text (isDigit)

/-! ### Numbers -/

/-- Whether what follows a number cannot be taken for a part of it. -/
def Stops (rest : List Char) : Prop :=
  ∀ c ∈ rest.head?, isDigit c = false ∧ c ≠ '.' ∧ c ≠ 'e' ∧ c ≠ 'E'

lemma Stops.nil : Stops [] := by
  simp [Stops]

lemma Stops.cons {c : Char} (h : isDigit c = false ∧ c ≠ '.' ∧ c ≠ 'e' ∧ c ≠ 'E')
    (rest : List Char) : Stops (c :: rest) := by
  simpa [Stops] using h

section

variable {rest : List Char}

lemma Stops.takeWhile_isDigit (h : Stops rest) : rest.takeWhile isDigit = [] := by
  cases rest with
  | nil => rfl
  | cons c rest => exact List.takeWhile_cons_of_neg (by simp [(h c rfl).1])

lemma Stops.dropWhile_isDigit (h : Stops rest) : rest.dropWhile isDigit = rest := by
  cases rest with
  | nil => rfl
  | cons c rest => exact List.dropWhile_cons_of_neg (by simp [(h c rfl).1])

lemma Stops.fractionPart? (h : Stops rest) : fractionPart? rest = some ([], rest) := by
  rw [Json.fractionPart?]
  rintro cs rfl
  exact (h '.' rfl).2.1 rfl

lemma Stops.exponentPart? (h : Stops rest) : exponentPart? rest = some ([], rest) := by
  cases rest with
  | nil => rfl
  | cons c rest =>
    obtain ⟨-, -, hlower, hupper⟩ := h c rfl
    simp [Json.exponentPart?, hlower, hupper]

/-- The digits of a written number are read up to its end. -/
lemma digits?_toString (n : Nat) (h : Stops rest) :
    digits? ((toString n).toList ++ rest) = some ((toString n).toList, rest) := by
  have hdigits : ∀ c ∈ (toString n).toList, isDigit c = true := fun c hc =>
    (Text.isDigit_eq c).trans (Text.isDigit_of_mem_toString hc)
  have htake : ((toString n).toList ++ rest).takeWhile isDigit = (toString n).toList := by
    rw [List.takeWhile_append_of_pos hdigits, h.takeWhile_isDigit, List.append_nil]
  have hdrop : ((toString n).toList ++ rest).dropWhile isDigit = rest := by
    rw [List.dropWhile_append_of_pos hdigits, h.dropWhile_isDigit]
  have hne : (toString n).toList.isEmpty = false := by simp
  rw [digits?, htake, hdrop, hne]
  rfl

lemma lt_of_isDigit {c : Char} (h : c.isDigit = true) : 0x20 < c.toNat := by
  have hrange := Char.isDigit_iff_toNat.mp h
  have hzero : '0'.toNat = 48 := rfl
  omega

/-- A written number is not empty, and begins with a digit. -/
lemma exists_toList_toString (n : Nat) :
    ∃ c digits, (toString n).toList = c :: digits ∧ c.isDigit = true := by
  obtain ⟨c, digits, hdigits⟩ := List.exists_cons_of_ne_nil (l := (toString n).toList) (by simp)
  exact ⟨c, digits, hdigits,
    Text.isDigit_of_mem_toString (by rw [hdigits]; exact List.mem_cons_self)⟩

lemma wholePart?_toString (n : Nat) (h : Stops rest) :
    wholePart? ((toString n).toList ++ rest) = some ((toString n).toList, rest) := by
  rcases Nat.eq_zero_or_pos n with rfl | hpos
  · have hzero : (toString 0).toList = ['0'] := rfl
    rw [hzero, List.singleton_append, wholePart?, h.takeWhile_isDigit]
    rfl
  · rw [wholePart?, digits?_toString n h]
    intro cs hcs
    obtain ⟨c, digits, hdigits, -⟩ := exists_toList_toString n
    have htext : (toString n).toList = Nat.toDigits 10 n := Nat.toList_repr
    apply Text.head?_toDigits hpos
    rw [← htext, hdigits]
    rw [hdigits] at hcs
    exact congrArg some (List.cons.inj hcs).1

/-- A written number is read up to its end. -/
lemma number?_toString (n : Nat) (h : Stops rest) :
    number? ((toString n).toList ++ rest) = some (number (toString n).toList, rest) := by
  rw [number?]
  · simp only [wholePart?_toString n h, h.fractionPart?, h.exponentPart?, Option.bind_eq_bind,
      Option.bind_some, List.nil_append, List.append_nil]
    rfl
  · intro cs hcs
    obtain ⟨c, digits, hdigits, hc⟩ := exists_toList_toString n
    rw [hdigits] at hcs
    rw [(List.cons.inj hcs).1] at hc
    cases hc

end

/-! ### Values -/

/-- The values that are written without loss: their numbers are natural, and their strings and keys
stand for texts. -/
inductive Written : Json → Prop
  | null : Written null
  | bool (value : Bool) : Written (bool value)
  | number (n : Nat) : Written (number (toString n).toList)
  | ofString (text : String) : Written (ofString text)
  | array {items : List Json} (h : ∀ item ∈ items, Written item) : Written (array items)
  | object {fields : List (List Char × Json)} (hkeys : ∀ f ∈ fields, ∃ key, f.1 = escape key)
      (hvalues : ∀ f ∈ fields, Written f.2) : Written (object fields)

lemma itemChars_cons_cons (item next : Json) (items : List Json) :
    itemChars (item :: next :: items) = item.chars ++ ',' :: itemChars (next :: items) := by
  rw [itemChars]
  exact List.cons_ne_nil _ _

lemma fieldChars_cons_cons (key : List Char) (value : Json) (next : List Char × Json)
    (fields : List (List Char × Json)) :
    fieldChars ((key, value) :: next :: fields) =
      '"' :: key ++ '"' :: ':' :: value.chars ++ ',' :: fieldChars (next :: fields) := by
  rw [fieldChars]
  exact List.cons_ne_nil _ _

/-- What is no blank is not skipped. -/
lemma skipBlanks_cons {c : Char} (h : 0x20 < c.toNat) (cs : List Char) :
    skipBlanks (c :: cs) = c :: cs := by
  have hblank : ¬(c == ' ' || c == '\t' || c == '\n' || c == '\x0d') = true := by
    simp only [Bool.or_eq_true, beq_iff_eq]
    rintro (((rfl | rfl) | rfl) | rfl) <;> revert h <;> decide
  exact List.dropWhile_cons_of_neg hblank

/-- A written value begins with a character that is neither a blank nor a closing bracket. -/
lemma Written.exists_chars_eq {value : Json} (h : Written value) :
    ∃ c cs, value.chars = c :: cs ∧ 0x20 < c.toNat ∧ c ≠ ']' := by
  cases h with
  | null => exact ⟨'n', _, by rw [chars], by decide, by decide⟩
  | bool b =>
    cases b with
    | true => exact ⟨'t', _, by rw [chars], by decide, by decide⟩
    | false => exact ⟨'f', _, by rw [chars], by decide, by decide⟩
  | number n =>
    obtain ⟨c, digits, hdigits, hc⟩ := exists_toList_toString n
    refine ⟨c, digits, by rw [chars, hdigits], lt_of_isDigit hc, ?_⟩
    rintro rfl
    cases hc
  | ofString text => exact ⟨'"', _, by rw [Json.ofString, chars]; rfl, by decide, by decide⟩
  | array _ => exact ⟨'[', _, by rw [chars]; rfl, by decide, by decide⟩
  | object _ _ => exact ⟨'\x7b', _, by rw [chars]; rfl, by decide, by decide⟩

/-- Whether a value is read back, whatever follows it, with two steps for each of its characters. -/
def IsReadBack (value : Json) : Prop :=
  ∀ fuel rest, 2 * value.chars.length ≤ fuel → Stops rest →
    value? fuel (value.chars ++ rest) = some (value, rest)

/-- A value is not read back for nothing: its text is not empty, so there is a step to take. -/
lemma Written.isReadBack_of_succ {value : Json} (h : Written value)
    (hread : ∀ fuel rest, 2 * value.chars.length ≤ fuel + 1 → Stops rest →
      value? (fuel + 1) (value.chars ++ rest) = some (value, rest)) :
    IsReadBack value := by
  intro fuel rest hfuel hrest
  obtain ⟨c, cs, hchars, -⟩ := h.exists_chars_eq
  obtain ⟨fuel, rfl⟩ := Nat.exists_eq_add_one_of_ne_zero (n := fuel) (by
    rw [hchars, List.length_cons] at hfuel
    omega)
  exact hread fuel rest hfuel hrest

/-- Items that are read back are read up to the closing bracket. -/
lemma items?_itemChars {items : List Json} (hne : items ≠ []) (h : ∀ item ∈ items, IsReadBack item)
    {fuel : Nat} (hfuel : 2 * (itemChars items).length < fuel) (rest : List Char) :
    items? fuel (itemChars items ++ ']' :: rest) = some (items, rest) := by
  induction items generalizing fuel with
  | nil => exact absurd rfl hne
  | cons item items ih =>
    rw [List.forall_mem_cons] at h
    obtain ⟨fuel, rfl⟩ := Nat.exists_eq_add_one_of_ne_zero (n := fuel) (by omega)
    cases items with
    | nil =>
      rw [itemChars] at hfuel ⊢
      have hitem := h.1 fuel (']' :: rest) (by omega) (.cons (by decide) rest)
      rw [items?, hitem]
      rfl
    | cons next items =>
      rw [itemChars_cons_cons] at hfuel ⊢
      rw [List.length_append, List.length_cons] at hfuel
      have hitem := h.1 fuel (',' :: (itemChars (next :: items) ++ ']' :: rest)) (by omega)
        (.cons (by decide) _)
      have hitems := ih (List.cons_ne_nil _ _) h.2
        (by omega : 2 * (itemChars (next :: items)).length < fuel)
      rw [List.append_assoc, List.cons_append, items?, hitem]
      simp only [Option.bind_eq_bind, Option.bind_some,
        skipBlanks_cons (by decide : 0x20 < ','.toNat), hitems, Option.map_some]

section

variable {value : Json} (h : IsReadBack value) {fuel : Nat} (hfuel : 2 * value.chars.length ≤ fuel)
  (key : String) (rest : List Char)

include h hfuel

/-- A field is read up to the comma behind its value, and then the fields that follow. -/
lemma fields?_comma :
    fields? (fuel + 1) ('"' :: escape key ++ '"' :: ':' :: value.chars ++ ',' :: rest) =
      (fields? fuel rest).map fun (fields, cs) => ((escape key, value) :: fields, cs) := by
  have hvalue := h fuel (',' :: rest) hfuel (.cons (by decide) rest)
  rw [List.append_assoc, List.cons_append, List.cons_append, List.cons_append, fields?,
    skipBlanks_cons (by decide)]
  simp only [body?_escape, Option.bind_eq_bind, Option.bind_some, hvalue,
    skipBlanks_cons (by decide : 0x20 < ':'.toNat), skipBlanks_cons (by decide : 0x20 < ','.toNat)]

/-- The last field is read up to the closing brace. -/
lemma fields?_brace :
    fields? (fuel + 1) ('"' :: escape key ++ '"' :: ':' :: value.chars ++ '\x7d' :: rest) =
      some ([(escape key, value)], rest) := by
  have hvalue := h fuel ('\x7d' :: rest) hfuel (.cons (by decide) rest)
  rw [List.append_assoc, List.cons_append, List.cons_append, List.cons_append, fields?,
    skipBlanks_cons (by decide)]
  simp only [body?_escape, Option.bind_eq_bind, Option.bind_some, hvalue,
    skipBlanks_cons (by decide : 0x20 < ':'.toNat),
    skipBlanks_cons (by decide : 0x20 < '\x7d'.toNat)]

end

/-- Fields whose values are read back are read up to the closing brace. -/
lemma fields?_fieldChars {fields : List (List Char × Json)} (hne : fields ≠ [])
    (hkeys : ∀ f ∈ fields, ∃ key, f.1 = escape key) (h : ∀ f ∈ fields, IsReadBack f.2)
    {fuel : Nat} (hfuel : 2 * (fieldChars fields).length < fuel) (rest : List Char) :
    fields? fuel (fieldChars fields ++ '\x7d' :: rest) = some (fields, rest) := by
  induction fields generalizing fuel with
  | nil => exact absurd rfl hne
  | cons field fields ih =>
    rw [List.forall_mem_cons] at h hkeys
    obtain ⟨key, value⟩ := field
    obtain ⟨⟨key, rfl⟩, hkeys⟩ := hkeys
    obtain ⟨hvalue, hvalues⟩ : value.IsReadBack ∧ _ := h
    obtain ⟨fuel, rfl⟩ := Nat.exists_eq_add_one_of_ne_zero (n := fuel) (by omega)
    cases fields with
    | nil =>
      rw [fieldChars] at hfuel ⊢
      simp only [List.length_append, List.length_cons] at hfuel
      exact fields?_brace hvalue (by omega) key rest
    | cons next fields =>
      rw [fieldChars_cons_cons] at hfuel ⊢
      simp only [List.length_append, List.length_cons] at hfuel
      have hfields := ih (List.cons_ne_nil _ _) hkeys hvalues
        (by omega : 2 * (fieldChars (next :: fields)).length < fuel)
      rw [List.append_assoc]
      refine (fields?_comma hvalue (by omega) key
        (fieldChars (next :: fields) ++ '\x7d' :: rest)).trans ?_
      exact congrArg (Option.map fun (fields, cs) => ((escape key, value) :: fields, cs)) hfields

/-- A written number is not taken for any other value. -/
lemma value?_number (fuel n : Nat) {rest : List Char} (h : Stops rest) :
    value? (fuel + 1) ((toString n).toList ++ rest) = some (number (toString n).toList, rest) := by
  have hread := number?_toString n h
  obtain ⟨c, digits, hdigits, hc⟩ := exists_toList_toString n
  have hne {d : Char} (hd : d.isDigit = false) (cs : List Char) :
      c :: (digits ++ rest) ≠ d :: cs := by
    intro heq
    rw [(List.cons.inj heq).1, hd] at hc
    cases hc
  rw [hdigits] at hread ⊢
  rw [List.cons_append] at hread ⊢
  rw [value?, skipBlanks_cons (lt_of_isDigit hc)]
  split
  case h_7 => exact hread
  all_goals exact absurd ‹_› (hne rfl _)

/-- A row of items begins as its first item does. -/
lemma exists_itemChars_eq {item : Json} (h : Written item) (items : List Json) :
    ∃ c cs, itemChars (item :: items) = c :: cs ∧ 0x20 < c.toNat ∧ c ≠ ']' := by
  obtain ⟨c, cs, hchars, hc⟩ := h.exists_chars_eq
  cases items with
  | nil => exact ⟨c, cs, by rw [itemChars, hchars], hc⟩
  | cons next items =>
    exact ⟨c, cs ++ ',' :: itemChars (next :: items),
      by rw [itemChars_cons_cons, hchars, List.cons_append], hc⟩

lemma exists_fieldChars_eq (field : List Char × Json) (fields : List (List Char × Json)) :
    ∃ cs, fieldChars (field :: fields) = '"' :: cs := by
  obtain ⟨key, value⟩ := field
  cases fields with
  | nil => exact ⟨_, by rw [fieldChars]; rfl⟩
  | cons next fields => exact ⟨_, by rw [fieldChars_cons_cons]; rfl⟩

lemma value?_bracket (fuel : Nat) (cs : List Char) :
    value? (fuel + 1) ('[' :: cs) =
      match skipBlanks cs with
      | ']' :: cs => some (array [], cs)
      | cs => (items? fuel cs).map fun (items, cs) => (array items, cs) := by
  rw [value?, skipBlanks_cons (by decide)]
  rfl

lemma value?_brace (fuel : Nat) (cs : List Char) :
    value? (fuel + 1) ('\x7b' :: cs) =
      match skipBlanks cs with
      | '\x7d' :: cs => some (object [], cs)
      | cs => (fields? fuel cs).map fun (fields, cs) => (object fields, cs) := by
  rw [value?, skipBlanks_cons (by decide)]
  rfl

lemma isReadBack_array {items : List Json} (h : ∀ item ∈ items, Written item)
    (hread : ∀ item ∈ items, IsReadBack item) : IsReadBack (array items) := by
  refine (Written.array h).isReadBack_of_succ fun fuel rest hfuel _ => ?_
  rw [chars] at hfuel ⊢
  simp only [List.length_append, List.length_cons, List.length_nil] at hfuel
  rw [List.append_assoc, List.cons_append, List.singleton_append, value?_bracket]
  cases items with
  | nil =>
    rw [itemChars, List.nil_append, skipBlanks_cons (by decide)]
    rfl
  | cons item items =>
    obtain ⟨c, cs, hchars, hblank, hbracket⟩ :=
      exists_itemChars_eq (h item List.mem_cons_self) items
    have hitems := items?_itemChars (List.cons_ne_nil _ _) hread
      (by omega : 2 * (itemChars (item :: items)).length < fuel) rest
    rw [hchars, List.cons_append] at hitems ⊢
    rw [skipBlanks_cons hblank]
    split
    · next heq => exact absurd (List.cons.inj heq).1 hbracket
    · rw [hitems]
      rfl

lemma isReadBack_object {fields : List (List Char × Json)}
    (hkeys : ∀ f ∈ fields, ∃ key, f.1 = escape key) (h : ∀ f ∈ fields, Written f.2)
    (hread : ∀ f ∈ fields, IsReadBack f.2) : IsReadBack (object fields) := by
  refine (Written.object hkeys h).isReadBack_of_succ fun fuel rest hfuel _ => ?_
  rw [chars] at hfuel ⊢
  simp only [List.length_append, List.length_cons, List.length_nil] at hfuel
  rw [List.append_assoc, List.cons_append, List.singleton_append, value?_brace]
  cases fields with
  | nil =>
    rw [fieldChars, List.nil_append, skipBlanks_cons (by decide)]
    rfl
  | cons field fields =>
    obtain ⟨cs, hchars⟩ := exists_fieldChars_eq field fields
    have hfields := fields?_fieldChars (List.cons_ne_nil _ _) hkeys hread
      (by omega : 2 * (fieldChars (field :: fields)).length < fuel) rest
    rw [hchars, List.cons_append] at hfields ⊢
    rw [skipBlanks_cons (by decide)]
    exact congrArg (Option.map fun (fields, cs) => (object fields, cs)) hfields

lemma isReadBack_ofString (text : String) : IsReadBack (ofString text) := by
  refine (Written.ofString text).isReadBack_of_succ fun fuel rest _ _ => ?_
  rw [ofString, chars, List.append_assoc, List.cons_append, List.singleton_append, value?,
    skipBlanks_cons (by decide)]
  simp only [body?_escape, Option.map_some]

/-- A value that is written without loss is read back. -/
lemma Written.isReadBack {value : Json} (h : Written value) : IsReadBack value := by
  induction h with
  | null =>
    refine Written.null.isReadBack_of_succ fun fuel rest _ _ => ?_
    rw [chars]
    rfl
  | bool b =>
    refine (Written.bool b).isReadBack_of_succ fun fuel rest _ _ => ?_
    cases b <;> rw [chars] <;> rfl
  | number n =>
    refine (Written.number n).isReadBack_of_succ fun fuel rest _ hrest => ?_
    rw [chars]
    exact value?_number fuel n hrest
  | ofString text => exact isReadBack_ofString text
  | array h ih => exact isReadBack_array h ih
  | object hkeys h ih => exact isReadBack_object hkeys h ih

/-! ### Texts -/

/-- A value that is written without loss is what its text stands for. -/
lemma parse?_render {value : Json} (h : Written value) : parse? value.render = some value := by
  have hread := h.isReadBack (2 * value.chars.length + 2) [] (by omega) .nil
  rw [List.append_nil] at hread
  rw [parse?, render, String.toList_ofList, hread]
  rfl

end Jury.Json
