import Mathlib.Data.List.TakeWhile
import Mathlib.Data.Set.Card
import Jury.Proofs.Random.Mask

/-!
# Draws are unbiased

Drawing below `n` yields the first word that is below `n` when masked (`below_eq`). Two values are
equally likely because exchanging their bits in every word of a script exchanges the results and
keeps the words that are drawn in vain; these are at most half of all words, since `n` less than
such a word is drawn with success.
-/

namespace Jury.RandomSource

/-! ### What is drawn -/

/-- Whether a word is drawn in vain when a value below `n` is wanted. -/
def isRejected (n word : UInt64) : Bool :=
  !decide (word &&& smear (n - 1) < n)

lemma isRejected_eq_false_iff {n word : UInt64} :
    isRejected n word = false ↔ word &&& smear (n - 1) < n := by
  simp [isRejected]

/-- A word is drawn in vain when its remainder by the power of the mask is not below `n`. -/
lemma isRejected_eq_true_iff {n word : UInt64} :
    isRejected n word = true ↔ n.toNat ≤ word.toNat % 2 ^ (n - 1).toNat.size := by
  rw [isRejected, Bool.not_eq_true', decide_eq_false_iff_not, UInt64.not_lt,
    UInt64.le_iff_toNat_le, toNat_and_smear]

lemma firstBelow_eq (n : UInt64) {script : List UInt64} {fuel : Nat}
    (h : script.length < fuel) :
    firstBelow n (smear (n - 1)) fuel script =
      match script.dropWhile (isRejected n) with
      | [] => (.error .exhausted, [])
      | word :: rest => (.ok (word &&& smear (n - 1)), rest) := by
  induction script generalizing fuel with
  | nil => cases fuel <;> rfl
  | cons word script ih =>
    cases fuel with
    | zero => exact absurd h (Nat.not_lt_zero _)
    | succ fuel =>
      by_cases hword : word &&& smear (n - 1) < n
      · simp [firstBelow, next?, isRejected, hword]
      · have hshort : script.length < fuel := Nat.lt_of_succ_lt_succ h
        simp [firstBelow, next?, isRejected, hword, ih hshort]

/-- The first word that is not drawn in vain decides. -/
theorem below_eq (n : UInt64) (script : List UInt64) :
    below n script =
      match script.dropWhile (isRejected n) with
      | [] => (.error .exhausted, [])
      | word :: rest => (.ok (word &&& smear (n - 1)), rest) :=
  firstBelow_eq n (Nat.lt_succ_self script.length)

lemma lt_of_below_eq_ok {n v : UInt64} {script : List UInt64}
    (h : (below n script).1 = .ok v) : v < n := by
  rw [below_eq] at h
  cases hdrop : script.dropWhile (isRejected n) with
  | nil => simp [hdrop] at h
  | cons word rest =>
    have hword : isRejected n word = false := by
      have := List.head_dropWhile_not (isRejected n) (l := script) (by simp [hdrop])
      simpa [hdrop] using this
    obtain rfl : word &&& smear (n - 1) = v := by simpa [hdrop] using h
    exact isRejected_eq_false_iff.mp hword

/-- A script is exhausted when all its words are drawn in vain. -/
lemma below_eq_exhausted_iff {n : UInt64} {script : List UInt64} :
    (below n script).1 = .error .exhausted ↔ ∀ word ∈ script, isRejected n word = true := by
  rw [below_eq, ← List.dropWhile_eq_nil_iff]
  cases script.dropWhile (isRejected n) <;> simp

/-- A draw yields a value below the bound unless the script is exhausted. -/
lemma below_cases (n : UInt64) (script : List UInt64) :
    (∃ x, x < n ∧ (below n script).1 = .ok x) ∨ (below n script).1 = .error .exhausted := by
  rw [below_eq]
  cases hdrop : script.dropWhile (isRejected n) with
  | nil => exact .inr rfl
  | cons word rest =>
    refine .inl ⟨word &&& smear (n - 1), ?_, rfl⟩
    have hbelow : (below n script).1 = .ok (word &&& smear (n - 1)) := by rw [below_eq, hdrop]
    exact lt_of_below_eq_ok hbelow

lemma range_fst {lo hi : UInt64} (h : lo < hi) (script : List UInt64) :
    (range lo hi script).1 = (below (hi - lo) script).1.map (lo + ·) := by
  simp [range, h]

/-! ### Exchanging two values -/

section

variable {mask v v' : UInt64}

/-- Exchanges two values in the masked bits of a word. -/
def exchange (mask v v' word : UInt64) : UInt64 :=
  if word &&& mask = v ∨ word &&& mask = v' then word ^^^ (v ^^^ v') else word

lemma xor_and (a b c : UInt64) : (a ^^^ b) &&& c = (a &&& c) ^^^ (b &&& c) := by
  apply UInt64.toNat_inj.mp
  simp [Nat.and_xor_distrib_right]

lemma exchange_and (hv : v &&& mask = v) (hv' : v' &&& mask = v') (word : UInt64) :
    exchange mask v v' word &&& mask = Equiv.swap v v' (word &&& mask) := by
  have hxor : (v ^^^ v') &&& mask = v ^^^ v' := by rw [xor_and, hv, hv']
  by_cases hword : word &&& mask = v ∨ word &&& mask = v'
  · rw [exchange, if_pos hword, xor_and, hxor]
    rcases hword with hword | hword
    · rw [hword, Equiv.swap_apply_left, ← UInt64.xor_assoc, UInt64.xor_self, UInt64.zero_xor]
    · rw [hword, Equiv.swap_apply_right, UInt64.xor_comm v v', ← UInt64.xor_assoc,
        UInt64.xor_self, UInt64.zero_xor]
  · rw [exchange, if_neg hword]
    rw [not_or] at hword
    rw [Equiv.swap_apply_of_ne_of_ne hword.1 hword.2]

lemma exchange_involutive (hv : v &&& mask = v) (hv' : v' &&& mask = v') :
    Function.Involutive (exchange mask v v') := by
  intro word
  by_cases hword : word &&& mask = v ∨ word &&& mask = v'
  · have hback : exchange mask v v' word &&& mask = v ∨
        exchange mask v v' word &&& mask = v' := by
      rw [exchange_and hv hv']
      rcases hword with hword | hword
      · exact .inr (by rw [hword, Equiv.swap_apply_left])
      · exact .inl (by rw [hword, Equiv.swap_apply_right])
    rw [exchange, if_pos hback, exchange, if_pos hword, UInt64.xor_assoc, UInt64.xor_self,
      UInt64.xor_zero]
  · rw [exchange, exchange, if_neg hword, if_neg hword]

end

section

variable {n v v' : UInt64} (hn : n ≠ 0) (hv : v < n) (hv' : v' < n)

include hn hv hv'

lemma isRejected_exchange (word : UInt64) :
    isRejected n (exchange (smear (n - 1)) v v' word) = isRejected n word := by
  have hswap : ∀ x, Equiv.swap v v' x < n ↔ x < n := by
    intro x
    rcases eq_or_ne x v with rfl | hne
    · simp [hv, hv']
    · rcases eq_or_ne x v' with rfl | hne'
      · simp [hv, hv']
      · rw [Equiv.swap_apply_of_ne_of_ne hne hne']
  rw [isRejected, isRejected, exchange_and (and_smear_of_lt hn hv) (and_smear_of_lt hn hv')]
  simp only [hswap]

/-- Exchanging two values in every word exchanges them in the result. -/
lemma below_map_exchange (script : List UInt64) :
    (below n (script.map (exchange (smear (n - 1)) v v'))).1 =
      (below n script).1.map (Equiv.swap v v') := by
  have hcomp : isRejected n ∘ exchange (smear (n - 1)) v v' = isRejected n :=
    funext (isRejected_exchange hn hv hv')
  rw [below_eq, below_eq, List.dropWhile_map, hcomp]
  cases script.dropWhile (isRejected n) with
  | nil => rfl
  | cons word rest =>
    simp [Except.map, exchange_and (and_smear_of_lt hn hv) (and_smear_of_lt hn hv')]

end

/-! ### Counting scripts -/

/-- The scripts of `length` words on which a draw has this result. -/
def scripts {α : Type} (draw : List UInt64 → Except DrawFault α) (length : Nat)
    (result : Except DrawFault α) : Set (List UInt64) :=
  {script | script.length = length ∧ draw script = result}

instance : Finite UInt64 :=
  Finite.of_injective UInt64.toFin fun _ _ h => UInt64.toFin_inj.mp h

lemma card_word : Nat.card UInt64 = 2 ^ 64 := by
  rw [Nat.card_congr ⟨UInt64.toFin, UInt64.ofFin, fun _ => rfl, fun _ => rfl⟩, Nat.card_fin]
  rfl

/-- The number of scripts made of certain words. -/
lemma ncard_scripts_of_words (words : Set UInt64) (length : Nat) :
    {script : List UInt64 | script.length = length ∧ ∀ word ∈ script, word ∈ words}.ncard =
      words.ncard ^ length := by
  induction length with
  | zero =>
    have hnil : {script : List UInt64 | script.length = 0 ∧ ∀ word ∈ script, word ∈ words} =
        {[]} := by
      ext script
      cases script <;> simp
    rw [hnil, Set.ncard_singleton, Nat.pow_zero]
  | succ length ih =>
    have hcons : {script : List UInt64 | script.length = length + 1 ∧
          ∀ word ∈ script, word ∈ words} =
        (fun p : UInt64 × List UInt64 => p.1 :: p.2) '' (words ×ˢ
          {script : List UInt64 | script.length = length ∧ ∀ word ∈ script, word ∈ words}) := by
      ext script
      cases script with
      | nil => simp
      | cons word script => simp [and_left_comm]
    have hinjective : Function.Injective fun p : UInt64 × List UInt64 => p.1 :: p.2 := by
      rintro ⟨word, script⟩ ⟨word', script'⟩ h
      simpa using h
    rw [hcons, Set.ncard_image_of_injective _ hinjective, Set.ncard_prod, ih, Nat.pow_succ']

lemma ncard_scripts_of_length (length : Nat) :
    {script : List UInt64 | script.length = length}.ncard = 2 ^ (64 * length) := by
  have hall : {script : List UInt64 | script.length = length} =
      {script : List UInt64 | script.length = length ∧ ∀ word ∈ script, word ∈ Set.univ} := by
    ext script
    simp
  rw [hall, ncard_scripts_of_words, Set.ncard_univ, card_word, ← Nat.pow_mul]

/-- Taking `n` from a word that is drawn in vain leaves one that is not. -/
lemma isRejected_sub {n word : UInt64} (hn : n ≠ 0) (h : isRejected n word = true) :
    isRejected n (word - n) = false := by
  have hlt := two_pow_size_lt hn
  rw [isRejected_eq_true_iff] at h
  rw [← Bool.not_eq_true, isRejected_eq_true_iff, Nat.not_le]
  generalize hp : 2 ^ (n - 1).toNat.size = p at h hlt ⊢
  have hpos : 0 < p := hp ▸ Nat.two_pow_pos _
  have hword := Nat.div_add_mod word.toNat p
  have hmod := Nat.mod_lt word.toNat hpos
  have hsub : (word - n).toNat = p * (word.toNat / p) + (word.toNat % p - n.toNat) := by
    have hle : n ≤ word := UInt64.le_iff_toNat_le.mpr (h.trans (Nat.mod_le _ _))
    rw [UInt64.toNat_sub_of_le _ _ hle]
    omega
  calc (word - n).toNat % p = word.toNat % p - n.toNat := by
        rw [hsub, Nat.mul_add_mod, Nat.mod_eq_of_lt (by omega)]
    _ < n.toNat := by omega

/-- At most half of all words are drawn in vain. -/
lemma ncard_isRejected_le {n : UInt64} (hn : n ≠ 0) :
    {word | isRejected n word = true}.ncard * 2 ≤ 2 ^ 64 := by
  have hmaps : ∀ word ∈ {word | isRejected n word = true},
      word - n ∈ {word | isRejected n word = true}ᶜ := by
    intro word hword
    simp [isRejected_sub hn hword]
  have hinjective : Set.InjOn (· - n) {word | isRejected n word = true} := by
    intro word _ word' _ h
    simpa using congrArg (· + n) h
  have hle := Set.ncard_le_ncard_of_injOn (· - n) hmaps hinjective
  have hall := Set.ncard_add_ncard_compl {word | isRejected n word = true}
  rw [card_word] at hall
  omega

section

variable {n : UInt64} (hn : n ≠ 0)

include hn

lemma ncard_scripts_below_eq (length : Nat) {v v' : UInt64} (hv : v < n) (hv' : v' < n) :
    (scripts (fun script => (below n script).1) length (.ok v)).ncard =
      (scripts (fun script => (below n script).1) length (.ok v')).ncard := by
  have hinvolutive := exchange_involutive (and_smear_of_lt hn hv) (and_smear_of_lt hn hv')
  have hback : ∀ script : List UInt64,
      (script.map (exchange (smear (n - 1)) v v')).map (exchange (smear (n - 1)) v v') =
        script := by
    intro script
    rw [List.map_map, hinvolutive.comp_self, List.map_id]
  refine Set.ncard_congr (fun script _ => script.map (exchange (smear (n - 1)) v v')) ?_ ?_ ?_
  · rintro script ⟨hlength, hdraw⟩
    refine ⟨by rw [List.length_map, hlength], ?_⟩
    simp only at hdraw ⊢
    rw [below_map_exchange hn hv hv', hdraw, Except.map, Equiv.swap_apply_left]
  · intro script script' _ _ h
    rw [← hback script, h, hback script']
  · rintro script ⟨hlength, hdraw⟩
    refine ⟨script.map (exchange (smear (n - 1)) v v'), ⟨by rw [List.length_map, hlength], ?_⟩,
      hback script⟩
    simp only at hdraw ⊢
    rw [below_map_exchange hn hv hv', hdraw, Except.map, Equiv.swap_apply_right]

lemma ncard_scripts_below_exhausted_le (length : Nat) :
    (scripts (fun script => (below n script).1) length (.error .exhausted)).ncard * 2 ^ length ≤
      2 ^ (64 * length) := by
  have hvain : scripts (fun script => (below n script).1) length (.error .exhausted) =
      {script : List UInt64 | script.length = length ∧
        ∀ word ∈ script, word ∈ {word | isRejected n word = true}} := by
    ext script
    exact and_congr_right fun _ => below_eq_exhausted_iff
  calc (scripts (fun script => (below n script).1) length (.error .exhausted)).ncard * 2 ^ length
      = ({word | isRejected n word = true}.ncard * 2) ^ length := by
        rw [hvain, ncard_scripts_of_words, Nat.mul_pow]
    _ ≤ (2 ^ 64) ^ length := Nat.pow_le_pow_left (ncard_isRejected_le hn) length
    _ = 2 ^ (64 * length) := (Nat.pow_mul 2 64 length).symm

end

/-! ### Draws from a range -/

section

variable {lo hi : UInt64} (h : lo < hi)

include h

lemma sub_ne_zero : hi - lo ≠ 0 := by
  intro hzero
  have hnat := congrArg UInt64.toNat hzero
  rw [UInt64.toNat_sub_of_le _ _ (UInt64.le_of_lt h), UInt64.toNat_zero] at hnat
  have := UInt64.lt_iff_toNat_lt.mp h
  omega

lemma sub_lt_sub {v : UInt64} (hlo : lo ≤ v) (hhi : v < hi) : v - lo < hi - lo := by
  rw [UInt64.lt_iff_toNat_lt, UInt64.toNat_sub_of_le _ _ hlo,
    UInt64.toNat_sub_of_le _ _ (UInt64.le_of_lt h)]
  have := UInt64.lt_iff_toNat_lt.mp hhi
  have := UInt64.le_iff_toNat_le.mp hlo
  omega

lemma range_eq_ok_iff {script : List UInt64} {v : UInt64} :
    (range lo hi script).1 = .ok v ↔ (below (hi - lo) script).1 = .ok (v - lo) := by
  rw [range_fst h]
  cases (below (hi - lo) script).1 with
  | error fault => simp [Except.map]
  | ok x =>
    simp only [Except.map, Except.ok.injEq]
    constructor
    · rintro rfl
      rw [UInt64.add_comm, UInt64.add_sub_cancel]
    · rintro rfl
      rw [UInt64.add_comm, UInt64.sub_add_cancel]

lemma toNat_sub_add : (hi - lo).toNat + lo.toNat = hi.toNat := by
  have hle := UInt64.le_of_lt h
  rw [UInt64.toNat_sub_of_le _ _ hle]
  exact Nat.sub_add_cancel (UInt64.le_iff_toNat_le.mp hle)

/-- A value below the size of the range leads from its lower end to one of its values. -/
lemma toNat_add_of_lt_sub {x : UInt64} (hx : x < hi - lo) :
    (lo + x).toNat = lo.toNat + x.toNat := by
  have hsize := toNat_sub_add h
  have hhi := hi.toNat_lt
  rw [UInt64.lt_iff_toNat_lt] at hx
  rw [UInt64.toNat_add]
  exact Nat.mod_eq_of_lt (by omega)

lemma add_mem_of_lt_sub {x : UInt64} (hx : x < hi - lo) : lo ≤ lo + x ∧ lo + x < hi := by
  have hvalue := toNat_add_of_lt_sub h hx
  have hsize := toNat_sub_add h
  rw [UInt64.lt_iff_toNat_lt] at hx
  rw [UInt64.le_iff_toNat_le, UInt64.lt_iff_toNat_lt, hvalue]
  constructor
  · exact Nat.le_add_right _ _
  · omega

/-- A draw yields a value of the range unless the script is exhausted. -/
lemma range_cases (script : List UInt64) :
    (∃ v, lo ≤ v ∧ v < hi ∧ (range lo hi script).1 = .ok v) ∨
      (range lo hi script).1 = .error .exhausted := by
  rw [range_fst h]
  rcases below_cases (hi - lo) script with ⟨x, hx, hbelow⟩ | hbelow
  · obtain ⟨hlo, hhi⟩ := add_mem_of_lt_sub h hx
    exact .inl ⟨lo + x, hlo, hhi, by rw [hbelow]; rfl⟩
  · rw [hbelow]
    exact .inr rfl

lemma range_eq_exhausted_iff {script : List UInt64} :
    (range lo hi script).1 = .error .exhausted ↔
      (below (hi - lo) script).1 = .error .exhausted := by
  rw [range_fst h]
  cases (below (hi - lo) script).1 <;> simp [Except.map]

/-- Any two values of a range are drawn by as many scripts. -/
lemma ncard_scripts_range_eq (length : Nat) {v v' : UInt64} (hv : lo ≤ v ∧ v < hi)
    (hv' : lo ≤ v' ∧ v' < hi) :
    (scripts (fun script => (range lo hi script).1) length (.ok v)).ncard =
      (scripts (fun script => (range lo hi script).1) length (.ok v')).ncard := by
  simp only [scripts, range_eq_ok_iff h]
  exact ncard_scripts_below_eq (sub_ne_zero h) length (sub_lt_sub h hv.1 hv.2)
    (sub_lt_sub h hv'.1 hv'.2)

lemma ncard_scripts_range_exhausted_le (length : Nat) :
    (scripts (fun script => (range lo hi script).1) length (.error .exhausted)).ncard *
      2 ^ length ≤ 2 ^ (64 * length) := by
  simp only [scripts, range_eq_exhausted_iff h]
  exact ncard_scripts_below_exhausted_le (sub_ne_zero h) length

end

/-! ### Draws from a list -/

section

variable {α : Type}

/-- The position that choosing from a list draws. -/
def position (items : List α) (script : List UInt64) : Except DrawFault (Fin items.length) :=
  match (range 0 items.length.toUInt64 script).1 with
  | .error fault => .error fault
  | .ok p => if h : p.toNat < items.length then .ok ⟨p.toNat, h⟩ else .error .emptyList

variable {items : List α} (hne : items ≠ []) (hsize : items.length < UInt64.size)

include hsize

lemma toNat_length : items.length.toUInt64.toNat = items.length :=
  UInt64.toNat_ofNat_of_lt' hsize

include hne

lemma zero_lt_length : 0 < items.length.toUInt64 := by
  rw [UInt64.lt_iff_toNat_lt, toNat_length hsize]
  exact List.length_pos_iff.mpr hne

lemma toNat_lt_length {script : List UInt64} {p : UInt64}
    (h : (range 0 items.length.toUInt64 script).1 = .ok p) : p.toNat < items.length := by
  rw [range_eq_ok_iff (zero_lt_length hne hsize), UInt64.sub_zero, UInt64.sub_zero] at h
  rw [← toNat_length hsize]
  exact UInt64.lt_iff_toNat_lt.mp (lt_of_below_eq_ok h)

lemma position_eq_ok_iff {script : List UInt64} {p : Fin items.length} :
    position items script = .ok p ↔
      (range 0 items.length.toUInt64 script).1 = .ok (UInt64.ofNat p) := by
  have hp : (UInt64.ofNat p).toNat = p := UInt64.toNat_ofNat_of_lt' (p.isLt.trans hsize)
  rw [position]
  cases hdraw : (range 0 items.length.toUInt64 script).1 with
  | error fault => simp
  | ok q =>
    have hq := toNat_lt_length hne hsize hdraw
    simp only [hq, dif_pos, Except.ok.injEq, Fin.ext_iff, ← UInt64.toNat_inj, hp]

/-- A position is drawn unless the script is exhausted. -/
lemma position_cases (script : List UInt64) :
    (∃ p, position items script = .ok p) ∨ position items script = .error .exhausted := by
  rw [position]
  rcases range_cases (zero_lt_length hne hsize) script with ⟨p, -, -, hdraw⟩ | hdraw
  · have hp := toNat_lt_length hne hsize hdraw
    simp [hdraw, hp]
  · exact .inr (by rw [hdraw])

lemma position_eq_exhausted_iff {script : List UInt64} :
    position items script = .error .exhausted ↔
      (range 0 items.length.toUInt64 script).1 = .error .exhausted := by
  rw [position]
  cases hdraw : (range 0 items.length.toUInt64 script).1 with
  | error fault => simp
  | ok q => simp [toNat_lt_length hne hsize hdraw]

/-- Choosing from a list yields the item at the position that is drawn. -/
lemma choose_fst (script : List UInt64) :
    (choose items script).1 = (position items script).map items.get := by
  have hempty : items.isEmpty = false := by simpa using hne
  rw [choose, position, hempty]
  rcases hdraw : range 0 items.length.toUInt64 script with ⟨_ | q, rest⟩
  · rfl
  · have hq := toNat_lt_length hne hsize (by rw [hdraw])
    simp [hq, Except.map]

lemma choose_eq_exhausted_iff {script : List UInt64} :
    (choose items script).1 = .error .exhausted ↔
      (range 0 items.length.toUInt64 script).1 = .error .exhausted := by
  rw [choose_fst hne hsize, ← position_eq_exhausted_iff hne hsize]
  cases position items script <;> simp [Except.map]

/-- Any two positions of a list are drawn by as many scripts. -/
lemma ncard_scripts_position_eq (length : Nat) (p p' : Fin items.length) :
    (scripts (position items) length (.ok p)).ncard =
      (scripts (position items) length (.ok p')).ncard := by
  have hbounds : ∀ q : Fin items.length,
      0 ≤ UInt64.ofNat q ∧ UInt64.ofNat q < items.length.toUInt64 := by
    intro q
    have hq : (UInt64.ofNat q).toNat = q := UInt64.toNat_ofNat_of_lt' (q.isLt.trans hsize)
    constructor
    · exact UInt64.le_iff_toNat_le.mpr (Nat.zero_le _)
    · rw [UInt64.lt_iff_toNat_lt, hq, toNat_length hsize]
      exact q.isLt
  simp only [scripts, position_eq_ok_iff hne hsize]
  exact ncard_scripts_range_eq (zero_lt_length hne hsize) length (hbounds p) (hbounds p')

lemma ncard_scripts_choose_exhausted_le (length : Nat) :
    (scripts (fun script => (choose items script).1) length (.error .exhausted)).ncard *
      2 ^ length ≤ 2 ^ (64 * length) := by
  simp only [scripts, choose_eq_exhausted_iff hne hsize]
  exact ncard_scripts_range_exhausted_le (zero_lt_length hne hsize) length

end

/-- **Drawing from a range, and choosing from a list, is exactly unbiased.** A script of some length
yields a value of the range, or is exhausted without one; as many scripts yield one value as any
other, and at most one in `2 ^ length` is exhausted. The same holds of the positions of a list that
is chosen from, where the item at the position that is drawn is chosen. -/
theorem ncard_scripts_uniform (length : Nat) :
    {script : List UInt64 | script.length = length}.ncard = 2 ^ (64 * length) ∧
      (∀ lo hi : UInt64, lo < hi →
        (∀ script : List UInt64, script.length = length →
          (∃ v, lo ≤ v ∧ v < hi ∧ (range lo hi script).1 = .ok v) ∨
            (range lo hi script).1 = .error .exhausted) ∧
        (∀ v v', lo ≤ v ∧ v < hi → lo ≤ v' ∧ v' < hi →
          (scripts (fun script => (range lo hi script).1) length (.ok v)).ncard =
            (scripts (fun script => (range lo hi script).1) length (.ok v')).ncard) ∧
        (scripts (fun script => (range lo hi script).1) length (.error .exhausted)).ncard *
          2 ^ length ≤ 2 ^ (64 * length)) ∧
      ∀ (α : Type) (items : List α), items ≠ [] → items.length < UInt64.size →
        ∃ position : List UInt64 → Except DrawFault (Fin items.length),
          (∀ script, (choose items script).1 = (position script).map items.get) ∧
          (∀ script : List UInt64, script.length = length →
            (∃ p, position script = .ok p) ∨ position script = .error .exhausted) ∧
          (∀ p p', (scripts position length (.ok p)).ncard =
            (scripts position length (.ok p')).ncard) ∧
          (scripts (fun script => (choose items script).1) length (.error .exhausted)).ncard *
            2 ^ length ≤ 2 ^ (64 * length) := by
  refine ⟨ncard_scripts_of_length length,
    fun lo hi h => ⟨fun script _ => ?_, fun v v' hv hv' => ?_, ?_⟩,
    fun α items hne hsize => ⟨position items, fun script => ?_, fun script _ => ?_,
      fun p p' => ?_, ?_⟩⟩
  · exact range_cases h script
  · exact ncard_scripts_range_eq h length hv hv'
  · exact ncard_scripts_range_exhausted_le h length
  · exact choose_fst hne hsize script
  · exact position_cases hne hsize script
  · exact ncard_scripts_position_eq hne hsize length p p'
  · exact ncard_scripts_choose_exhausted_le hne hsize length

/-- Three values and three positions, where one word in four is drawn in vain. -/
theorem ncard_scripts_uniform_three :
    let draw (script : List UInt64) := (range 5 8 script).1
    let pick (script : List UInt64) := (choose ["a", "b", "a"] script).1
    [3, 0] ∈ scripts draw 2 (.ok 5) ∧ [3, 2] ∈ scripts draw 2 (.ok 7) ∧
      (scripts draw 2 (.ok 5)).ncard = (scripts draw 2 (.ok 7)).ncard ∧
      [3, 0] ∈ scripts pick 2 (.ok "a") ∧ [1, 3] ∈ scripts pick 2 (.ok "b") ∧
      [3, 7] ∈ scripts pick 2 (.error .exhausted) ∧
      (∀ script : List UInt64, script.length = 2 →
        pick script = .ok "a" ∨ pick script = .ok "b" ∨ pick script = .error .exhausted) ∧
      (scripts pick 2 (.error .exhausted)).ncard * 2 ^ 2 ≤ 2 ^ (64 * 2) := by
  intro draw pick
  obtain ⟨-, hrange, hchoose⟩ := ncard_scripts_uniform 2
  obtain ⟨-, heq, -⟩ := hrange 5 8 (by decide)
  obtain ⟨position, hpick, hposition, -, hexhausted⟩ :=
    hchoose String ["a", "b", "a"] (by decide) (by decide)
  refine ⟨⟨rfl, by decide⟩, ⟨rfl, by decide⟩, heq 5 7 (by decide) (by decide), ⟨rfl, by decide⟩,
    ⟨rfl, by decide⟩, ⟨rfl, by decide⟩, fun script hlength => ?_, hexhausted⟩
  have hitems : ∀ p : Fin ["a", "b", "a"].length,
      ["a", "b", "a"].get p = "a" ∨ ["a", "b", "a"].get p = "b" := by
    decide
  simp only [pick, hpick]
  rcases hposition script hlength with ⟨p, hp⟩ | hp
  · rw [hp]
    rcases hitems p with hitem | hitem
    · exact .inl (congrArg Except.ok hitem)
    · exact .inr (.inl (congrArg Except.ok hitem))
  · rw [hp]
    exact .inr (.inr rfl)

end Jury.RandomSource
