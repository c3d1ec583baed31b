import Mathlib.Data.List.Basic
import Mathlib.Data.List.TakeWhile
import Jury.Text.Blank

/-!
# Fields and trimmed lines

A line that is written as tokens with a space between each two is read as these tokens
(`fields_intercalate`), and whatever a line is read as consists of tokens (`isToken_of_mem_fields`).
A part of a line has no more fields than the line (`length_fields_le_of_infix`). Trimming takes
nothing from a line that begins and ends with solid text (`trim_append`).
-/

namespace Jury.Text

/-! ### Runs -/

section Runs

variable {α : Type} {sep : α → Bool}

lemma runsFrom_append (held : List α) {xs : List α} (hxs : ∀ x ∈ xs, sep x = false)
    (rest : List α) : runsFrom sep held (xs ++ rest) = runsFrom sep (xs.reverse ++ held) rest := by
  induction xs generalizing held with
  | nil => rfl
  | cons x xs ih =>
    rw [List.forall_mem_cons] at hxs
    simp [runsFrom, hxs.1, ih (x :: held) hxs.2]

/-- A run ends at a separator. -/
lemma runs_append_cons {xs : List α} (hne : xs ≠ []) (hxs : ∀ x ∈ xs, sep x = false) {x : α}
    (hx : sep x = true) (rest : List α) : runs sep (xs ++ x :: rest) = xs :: runs sep rest := by
  rw [runs, runsFrom_append [] hxs]
  simp [runsFrom, runs, hx, hne]

/-- A run ends with the text. -/
lemma runs_eq_singleton {xs : List α} (hne : xs ≠ []) (hxs : ∀ x ∈ xs, sep x = false) :
    runs sep xs = [xs] := by
  have := runsFrom_append [] hxs []
  simpa [runs, runsFrom, hne] using this

/-- Separators at the front belong to no run. -/
lemma runs_append_of_all {xs : List α} (hxs : xs.all sep = true) (rest : List α) :
    runs sep (xs ++ rest) = runs sep rest := by
  induction xs with
  | nil => rfl
  | cons x xs ih =>
    rw [List.all_cons, Bool.and_eq_true] at hxs
    simpa [runs, runsFrom, hxs.1] using ih hxs.2

/-- Only a text of separators has no runs. -/
lemma runsFrom_eq_nil_iff {held xs : List α} :
    runsFrom sep held xs = [] ↔ held = [] ∧ xs.all sep = true := by
  induction xs generalizing held with
  | nil => by_cases hheld : held = [] <;> simp [runsFrom, hheld]
  | cons x xs ih =>
    by_cases hx : sep x = true
    · by_cases hheld : held = []
      · simp [runsFrom, hx, hheld, ih]
      · simp [runsFrom, hx, hheld]
    · simp [runsFrom, hx, ih]

lemma of_mem_runsFrom {held : List α} (hheld : ∀ x ∈ held, sep x = false) {xs run : List α}
    (h : run ∈ runsFrom sep held xs) : run ≠ [] ∧ ∀ x ∈ run, sep x = false := by
  induction xs generalizing held with
  | nil =>
    simp only [runsFrom] at h
    split_ifs at h with hempty
    · cases h
    · rw [List.mem_singleton] at h
      subst h
      simpa [List.isEmpty_iff] using And.intro hempty hheld
  | cons x xs ih =>
    simp only [runsFrom] at h
    split_ifs at h with hx hempty
    · exact ih (by simp) h
    · rcases List.mem_cons.mp h with rfl | h
      · simpa [List.isEmpty_iff] using And.intro hempty hheld
      · exact ih (by simp) h
    · exact ih (List.forall_mem_cons.mpr ⟨by simpa using hx, hheld⟩) h

lemma mem_of_mem_runsFrom {held xs run : List α} (h : run ∈ runsFrom sep held xs) {x : α}
    (hx : x ∈ run) : x ∈ held ∨ x ∈ xs := by
  induction xs generalizing held with
  | nil =>
    simp only [runsFrom] at h
    split_ifs at h with hempty
    · cases h
    · obtain rfl := List.mem_singleton.mp h
      exact .inl (List.mem_reverse.mp hx)
  | cons y xs ih =>
    simp only [runsFrom] at h
    split_ifs at h with hy hempty
    · exact .inr (List.mem_cons_of_mem y ((ih h).resolve_left List.not_mem_nil))
    · rcases List.mem_cons.mp h with rfl | h
      · exact .inl (List.mem_reverse.mp hx)
      · exact .inr (List.mem_cons_of_mem y ((ih h).resolve_left List.not_mem_nil))
    · rcases ih h with hmem | hmem
      · rcases List.mem_cons.mp hmem with rfl | hheld
        · exact .inr List.mem_cons_self
        · exact .inl hheld
      · exact .inr (List.mem_cons_of_mem y hmem)

/-- What is held adds a run at most. -/
lemma length_runsFrom_le {held held' : List α} (h : held' = [] → held = []) (xs : List α) :
    (runsFrom sep held xs).length ≤ (runsFrom sep held' xs).length := by
  induction xs generalizing held held' with
  | nil =>
    simp only [runsFrom, List.isEmpty_iff]
    split_ifs <;> simp_all
  | cons x xs ih =>
    simp only [runsFrom, List.isEmpty_iff]
    split_ifs with hx hheld hheld' hheld'
    · exact Nat.le_refl _
    · simp
    · exact absurd (h hheld') hheld
    · simp
    · exact ih (by simp)

lemma length_runsFrom_le_append (held xs rest : List α) :
    (runsFrom sep held xs).length ≤ (runsFrom sep held (xs ++ rest)).length := by
  induction xs generalizing held with
  | nil =>
    by_cases hheld : held = []
    · simp [runsFrom, hheld]
    · have hne : runsFrom sep held rest ≠ [] := fun hnil => hheld (runsFrom_eq_nil_iff.mp hnil).1
      simpa [runsFrom, hheld] using Nat.succ_le_of_lt (List.length_pos_iff.mpr hne)
  | cons x xs ih =>
    simp only [List.cons_append, runsFrom]
    split_ifs
    · exact ih []
    · exact Nat.succ_le_succ (ih [])
    · exact ih (x :: held)

lemma length_runs_le_runsFrom_append (held first xs : List α) :
    (runs sep xs).length ≤ (runsFrom sep held (first ++ xs)).length := by
  induction first generalizing held with
  | nil => exact length_runsFrom_le (fun _ => rfl) xs
  | cons x first ih =>
    simp only [List.cons_append, runsFrom]
    split_ifs
    · exact ih []
    · exact Nat.le_succ_of_le (ih [])
    · exact ih (x :: held)

/-- A part of a text has no more runs than the text. -/
lemma length_runs_le_of_infix {xs ys : List α} (h : xs <:+: ys) :
    (runs sep xs).length ≤ (runs sep ys).length := by
  obtain ⟨first, rest, rfl⟩ := h
  exact Nat.le_trans (length_runs_le_runsFrom_append [] first xs)
    (length_runsFrom_le_append [] (first ++ xs) rest)

/-- The last run ends where the text does, unless a separator ends the text. -/
lemma runsFrom_concat (held xs : List α) {x : α} (hx : sep x = false) :
    ∃ front run, runsFrom sep held (xs ++ [x]) = front ++ [run ++ [x]] := by
  induction xs generalizing held with
  | nil => exact ⟨[], held.reverse, by simp [runsFrom, hx]⟩
  | cons y xs ih =>
    simp only [List.cons_append, runsFrom]
    split_ifs
    · exact ih []
    · obtain ⟨front, run, hruns⟩ := ih []
      exact ⟨held.reverse :: front, run, by rw [hruns, List.cons_append]⟩
    · exact ih (y :: held)

end Runs

/-! ### Tokens -/

/-- A text that can be a field: it is not empty and holds no separator. -/
def IsToken (s : String) : Prop :=
  s ≠ "" ∧ ∀ c ∈ s.toList, isSeparator c = false

/-- A text that holds something and no blanks. -/
def IsSolid (s : String) : Prop :=
  s ≠ "" ∧ ∀ c ∈ s.toList, isBlank c = false

-- decided over the characters of the text, where the instance search may try all characters
instance (s : String) : Decidable (IsToken s) :=
  decidable_of_iff (s ≠ "" ∧ s.toList.all fun c => !isSeparator c) (by simp [IsToken])

instance (s : String) : Decidable (IsSolid s) :=
  decidable_of_iff (s ≠ "" ∧ s.toList.all fun c => !isBlank c) (by simp [IsSolid])

lemma IsSolid.isToken {s : String} (h : IsSolid s) : IsToken s := by
  refine ⟨h.1, fun c hc => ?_⟩
  by_contra hsep
  have hblank := isBlank_of_isSeparator (by simpa using hsep)
  simp [h.2 c hc] at hblank

lemma IsToken.lf_notMem {s : String} (h : IsToken s) : '\n' ∉ s.toList := by
  intro hlf
  have := h.2 '\n' hlf
  simp [isSeparator] at this

lemma fields_append_space {t : String} (ht : IsToken t) (line : String) :
    fields (t ++ " " ++ line) = t :: fields line := by
  have hne : t.toList ≠ [] := by simpa using ht.1
  have hspace : isSeparator ' ' = true := by decide
  have hcs : (t ++ " " ++ line).toList = t.toList ++ ' ' :: line.toList := by simp
  rw [fields, hcs, runs_append_cons hne ht.2 hspace, List.map_cons, String.ofList_toList, ← fields]

lemma fields_token {t : String} (ht : IsToken t) : fields t = [t] := by
  have hne : t.toList ≠ [] := by simpa using ht.1
  rw [fields, runs_eq_singleton hne ht.2, List.map_singleton, String.ofList_toList]

/-- Tokens with spaces between them are read as these tokens. -/
lemma fields_intercalate {ts : List String} (hts : ∀ t ∈ ts, IsToken t) :
    fields (String.intercalate " " ts) = ts := by
  induction ts with
  | nil => rfl
  | cons t ts ih =>
    rw [List.forall_mem_cons] at hts
    cases ts with
    | nil => simpa using fields_token hts.1
    | cons u ts =>
      rw [String.intercalate_cons_cons, fields_append_space hts.1, ih hts.2]

/-- Whatever a line is read as, its fields are tokens. -/
lemma isToken_of_mem_fields {line t : String} (h : t ∈ fields line) : IsToken t := by
  obtain ⟨run, hrun, rfl⟩ := List.mem_map.mp h
  obtain ⟨hne, hsep⟩ := of_mem_runsFrom (by simp) hrun
  exact ⟨by simpa using hne, by simpa using hsep⟩

/-- A part of a line has no more fields than the line. -/
lemma length_fields_le_of_infix {s t : String} (h : s.toList <:+: t.toList) :
    (fields s).length ≤ (fields t).length := by
  simpa [fields] using length_runs_le_of_infix h

/-- What is in a field is in the line. -/
lemma mem_toList_of_mem_fields {line t : String} (h : t ∈ fields line) {c : Char}
    (hc : c ∈ t.toList) : c ∈ line.toList := by
  obtain ⟨run, hrun, rfl⟩ := List.mem_map.mp h
  rw [String.toList_ofList] at hc
  exact (mem_of_mem_runsFrom hrun hc).resolve_left List.not_mem_nil

/-- The last field of a line ends as the line does, unless a separator ends the line. -/
lemma getLast?_of_fields {line t : String} (h : (fields line).getLast? = some t) {c : Char}
    (hc : line.toList.getLast? = some c) (hsep : isSeparator c = false) :
    t.toList.getLast? = some c := by
  obtain ⟨cs, hcs⟩ := List.getLast?_eq_some_iff.mp hc
  obtain ⟨front, run, hruns⟩ := runsFrom_concat [] cs hsep
  rw [fields, hcs, runs, hruns, List.map_append, List.map_singleton, List.getLast?_concat] at h
  rw [← Option.some.inj h, String.toList_ofList, List.getLast?_concat]

/-! ### Trimming -/

lemma trimChars_of_ends {cs : List Char} (hhead : ∀ c ∈ cs.head?, isBlank c = false)
    (hlast : ∀ c ∈ cs.getLast?, isBlank c = false) : trimChars cs = cs := by
  have hdrop : ∀ ds : List Char, (∀ c ∈ ds.head?, isBlank c = false) →
      ds.dropWhile isBlank = ds := by
    intro ds hds
    cases ds with
    | nil => rfl
    | cons d ds => simp [hds d (by simp)]
  rw [trimChars, hdrop cs hhead, hdrop cs.reverse (by simpa using hlast), List.reverse_reverse]

/-- What is left when a text is trimmed does not end in a blank. -/
lemma isBlank_of_getLast?_trim {s : String} {c : Char} (h : (trim s).toList.getLast? = some c) :
    isBlank c = false := by
  rw [trim, String.toList_ofList, trimChars, List.getLast?_reverse] at h
  simpa [h] using List.head?_dropWhile_not isBlank (s.toList.dropWhile isBlank).reverse

/-- Blanks at the ends of a text make no difference when it is trimmed. -/
lemma trim_append_of_blank {front back : String} (hfront : front.toList.all isBlank = true)
    (hback : back.toList.all isBlank = true) (s : String) :
    trim (front ++ s ++ back) = trim s := by
  rw [List.all_eq_true] at hfront hback
  have hnil : back.toList.dropWhile isBlank = [] := List.dropWhile_eq_nil_iff.mpr hback
  have hreverse : ∀ c ∈ back.toList.reverse, isBlank c = true := by simpa using hback
  rw [trim, trim, String.toList_append, String.toList_append, List.append_assoc, trimChars,
    List.dropWhile_append_of_pos hfront, List.dropWhile_append, hnil]
  split_ifs with hempty
  · rw [List.isEmpty_iff] at hempty
    rw [trimChars, hempty]
  · rw [List.reverse_append, List.dropWhile_append_of_pos hreverse, ← trimChars]

lemma toList_trim_isInfix (s : String) : (trim s).toList <:+: s.toList := by
  rw [trim, String.toList_ofList, trimChars, ← List.reverse_infix, List.reverse_reverse]
  refine (List.dropWhile_suffix isBlank).isInfix.trans ?_
  rw [List.reverse_infix]
  exact (List.dropWhile_suffix isBlank).isInfix

lemma trim_solid {s : String} (h : IsSolid s) : trim s = s := by
  rw [trim, trimChars_of_ends, String.ofList_toList]
  · exact fun c hc => h.2 c (List.mem_of_mem_head? hc)
  · exact fun c hc => h.2 c (List.mem_of_mem_getLast? hc)

/-- Nothing is taken from a line with solid ends. -/
lemma trim_append {s t : String} (hs : IsSolid s) (ht : IsSolid t) (m : String) :
    trim (s ++ m ++ t) = s ++ m ++ t := by
  have hsne : s.toList ≠ [] := by simpa using hs.1
  have htne : t.toList ≠ [] := by simpa using ht.1
  rw [trim, trimChars_of_ends, String.ofList_toList]
  · intro c hc
    rw [String.toList_append, String.toList_append, List.append_assoc,
      List.head?_append_of_ne_nil _ hsne] at hc
    exact hs.2 c (List.mem_of_mem_head? hc)
  · intro c hc
    rw [String.toList_append, List.getLast?_append_of_ne_nil _ htne] at hc
    exact ht.2 c (List.mem_of_mem_getLast? hc)

end Jury.Text
