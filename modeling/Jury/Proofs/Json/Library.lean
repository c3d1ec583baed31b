import Jury.Json.Library
import Jury.Proofs.Json.Values

/-!
# What is written through a library is read back

What a program may rely on of a library for JSON: values are printed without blanks and with every
control character escaped (`PrintsCompactly`), the text of a value stands for that value
(`ReadsBack`), and data is bound to values as its shape says (`Binds`). From these, data that is
written is read back shape by shape (`Keeps`), and its text takes one line (`print_onOneLine`). The
library that runs is such a library.
-/

namespace Jury.Json

/-- How deep arrays and objects may be nested in a text that is parsed. -/
def maxNesting : Nat := 127

/-- A list that is written item by item is read back item by item. -/
lemma mapM_map_eq_some {α β : Type} {write : α → β} {read : β → Option α} {xs : List α}
    (h : ∀ x ∈ xs, read (write x) = some x) : (xs.map write).mapM read = some xs := by
  induction xs with
  | nil => rfl
  | cons x xs ih =>
    rw [List.forall_mem_cons] at h
    rw [List.map_cons, List.mapM_cons, h.1, ih h.2]
    rfl

/-- What is written for a record has names of its fields, in their order. -/
lemma Fields.names_write_sublist {Value Data : Type} (fields : Fields Value Data) (data : Data) :
    ((fields.write data).map Prod.fst).Sublist fields.names := by
  induction fields with
  | nil => exact .slnil
  | required name codec rest ih =>
    obtain ⟨data, row⟩ := data
    exact (ih row).cons_cons name
  | optional name codec rest ih =>
    obtain ⟨_ | data, row⟩ := data
    · exact (ih row).cons name
    · exact (ih row).cons_cons name

lemma Variants.name_write_mem {Value Data : Type} {kinds : Variants Value Data}
    (record : {Data : Type} → Fields Value Data → Codec Value Data) (data : Data) :
    (kinds.write record data).1 ∈ kinds.names := by
  induction kinds with
  | nil => cases data
  | cons name fields rest ih =>
    cases data with
    | inl data => exact List.mem_cons_self
    | inr data => exact List.mem_cons_of_mem _ (ih data)

lemma lookup_cons_of_ne {α : Type} {name other : String} (h : other ≠ name) (value : α)
    (row : List (String × α)) : ((name, value) :: row).lookup other = row.lookup other := by
  rw [List.lookup_cons, beq_eq_false_iff_ne.mpr h]

lemma lookup_eq_none_iff_notMem {α : Type} {name : String} {row : List (String × α)} :
    row.lookup name = none ↔ name ∉ row.map Prod.fst := by
  rw [List.lookup_eq_none_iff]
  simp only [bne_iff_ne, List.mem_map, not_exists, not_and]
  exact forall₂_congr fun field _ => ne_comm

namespace Library

variable (L : Library)

/-! ### What is relied on -/

/-- The values that are written for data, with at most `levels` arrays and objects around anything
in them. -/
inductive Written : Nat → L.Value → Prop
  | bool (levels : Nat) (b : Bool) : Written levels (L.bool.write b)
  | word (levels : Nat) (n : UInt32) : Written levels (L.word.write n)
  | text (levels : Nat) (s : String) : Written levels (L.text.write s)
  | array {levels : Nat} {values : List L.Value} (h : ∀ value ∈ values, Written levels value) :
      Written (levels + 1) (L.array values)
  | object {levels : Nat} {row : List (String × L.Value)} (hnames : (row.map Prod.fst).Nodup)
      (h : ∀ field ∈ row, Written levels field.2) : Written (levels + 1) (L.object row)

/-- How a field is printed: its name in quotes, a colon and its value. -/
def printField (field : String × L.Value) : String :=
  L.print (L.text.write field.1) ++ ":" ++ L.print field.2

/-- Values are printed without blanks, and characters of a text are escaped where JSON requires
it. -/
structure PrintsCompactly : Prop where
  bool : ∀ b : Bool, L.print (L.bool.write b) = toString b
  word : ∀ n : UInt32, L.print (L.word.write n) = toString n
  text : ∃ escape : Char → List Char, (∀ c, Escapes c (escape c)) ∧
    ∀ s : String, L.print (L.text.write s) = "\"" ++ String.ofList (s.toList.flatMap escape) ++ "\""
  array : ∀ values : List L.Value,
    L.print (L.array values) = "[" ++ ",".intercalate (values.map L.print) ++ "]"
  object : ∀ row : List (String × L.Value),
    L.print (L.object row) = "\x7b" ++ ",".intercalate (row.map L.printField) ++ "\x7d"

/-- The text of a value that is not nested too deep stands for this value. -/
def ReadsBack : Prop :=
  ∀ value, L.Written maxNesting value → L.parse? (L.print value) = some value

/-- How data is bound to values. Data that may be missing is null or written as it is; a list is an
array; a record is an object of its fields, which are found by their names; and a record of some
kind is an object whose only field is named for the kind. -/
structure Binds : Prop where
  bool_read : ∀ b : Bool, L.bool.read? (L.bool.write b) = some b
  word_read : ∀ n : UInt32, L.word.read? (L.word.write n) = some n
  word_ne_null : ∀ n : UInt32, L.word.write n ≠ L.null
  text_read : ∀ s : String, L.text.read? (L.text.write s) = some s
  option_write : ∀ {Data : Type} (codec : Codec L.Value Data) (data : Data),
    (L.option codec).write (some data) = codec.write data
  option_read : ∀ {Data : Type} (codec : Codec L.Value Data) (value : L.Value), value ≠ L.null →
    (L.option codec).read? value = (codec.read? value).map some
  list_write : ∀ {Data : Type} (codec : Codec L.Value Data) (items : List Data),
    (L.list codec).write items = L.array (items.map codec.write)
  list_read : ∀ {Data : Type} (codec : Codec L.Value Data) (values : List L.Value),
    (L.list codec).read? (L.array values) = values.mapM codec.read?
  named_write : ∀ {Data : Type} (name : Data → String) (named? : String → Option Data)
    (data : Data), (L.named name named?).write data = L.text.write (name data)
  named_read : ∀ {Data : Type} (name : Data → String) (named? : String → Option Data)
    (s : String), (L.named name named?).read? (L.text.write s) = named? s
  record_write : ∀ {Data : Type} (fields : Fields L.Value Data) (data : Data),
    (L.record fields).write data = L.object (fields.write data)
  record_read : ∀ {Data : Type} (fields : Fields L.Value Data) (row : List (String × L.Value)),
    (row.map Prod.fst).Nodup →
      (L.record fields).read? (L.object row) = fields.read? (row.lookup ·)
  variant_write : ∀ {Data : Type} (kinds : Variants L.Value Data) (data : Data),
    (L.variant kinds).write data = L.object [kinds.write L.record data]
  variant_read : ∀ {Data : Type} (kinds : Variants L.Value Data) (name : String)
    (value : L.Value),
    (L.variant kinds).read? (L.object [(name, value)]) = kinds.read? L.record name value

variable {L} {Data : Type} {levels : Nat}

lemma Written.mono {value : L.Value} (h : L.Written levels value) {more : Nat}
    (hle : levels ≤ more) : L.Written more value := by
  induction h generalizing more with
  | bool => exact .bool _ _
  | word => exact .word _ _
  | text => exact .text _ _
  | array _ ih =>
    obtain ⟨more, rfl⟩ := Nat.exists_eq_add_one_of_ne_zero (n := more) (by omega)
    exact .array fun value hvalue => ih value hvalue (by omega)
  | object hnames _ ih =>
    obtain ⟨more, rfl⟩ := Nat.exists_eq_add_one_of_ne_zero (n := more) (by omega)
    exact .object hnames fun field hfield => ih field hfield (by omega)

/-! ### One line -/

/-- Whether a text holds no control characters, and so takes one line. -/
def OnOneLine (s : String) : Prop :=
  ∀ c ∈ s.toList, 0x20 ≤ c.toNat

lemma OnOneLine.append {s t : String} (hs : OnOneLine s) (ht : OnOneLine t) :
    OnOneLine (s ++ t) := by
  rw [OnOneLine, String.toList_append, List.forall_mem_append]
  exact ⟨hs, ht⟩

lemma OnOneLine.intercalate {texts : List String} (h : ∀ s ∈ texts, OnOneLine s) :
    OnOneLine (",".intercalate texts) := by
  induction texts with
  | nil => simp [OnOneLine]
  | cons s texts ih =>
    rw [List.forall_mem_cons] at h
    cases texts with
    | nil => simpa using h.1
    | cons t texts =>
      rw [String.intercalate_cons_cons]
      exact (h.1.append (by simp [OnOneLine])).append (ih h.2)

lemma PrintsCompactly.onOneLine_text (h : L.PrintsCompactly) (s : String) :
    OnOneLine (L.print (L.text.write s)) := by
  obtain ⟨escape, hescape, htext⟩ := h.text
  rw [htext]
  refine (OnOneLine.append (by simp [OnOneLine]) fun c hc => ?_).append (by simp [OnOneLine])
  rw [String.toList_ofList] at hc
  obtain ⟨d, -, hc⟩ := List.mem_flatMap.mp hc
  exact (hescape d).le_of_mem hc

/-- The text of a written value takes one line. -/
lemma Written.onOneLine_print {value : L.Value} (hvalue : L.Written levels value)
    (h : L.PrintsCompactly) : OnOneLine (L.print value) := by
  induction hvalue with
  | bool _ b =>
    rw [h.bool]
    cases b with
    | true => exact (by simp [OnOneLine] : OnOneLine "true")
    | false => exact (by simp [OnOneLine] : OnOneLine "false")
  | word _ n =>
    rw [h.word]
    exact fun c hc => (lt_of_isDigit (Text.isDigit_of_mem_toString hc)).le
  | text _ s => exact h.onOneLine_text s
  | array _ ih =>
    rw [h.array]
    refine (OnOneLine.append (by simp [OnOneLine]) (.intercalate ?_)).append (by simp [OnOneLine])
    exact List.forall_mem_map.mpr ih
  | object _ _ ih =>
    rw [h.object]
    refine (OnOneLine.append (by simp [OnOneLine]) (.intercalate ?_)).append (by simp [OnOneLine])
    refine List.forall_mem_map.mpr fun field hfield => ?_
    exact ((h.onOneLine_text field.1).append (by simp [OnOneLine])).append (ih field hfield)

/-! ### Shapes of data -/

/-- Whether a codec keeps some data: what is written for it is nested at most so deep, and is read
back as it was. -/
structure Keeps (L : Library) (levels : Nat) (codec : Codec L.Value Data) (data : Data) :
    Prop where
  written : L.Written levels (codec.write data)
  read : codec.read? (codec.write data) = some data

section

variable (h : L.Binds)

include h

lemma Binds.keeps_bool (levels : Nat) (b : Bool) : L.Keeps levels L.bool b :=
  ⟨.bool _ _, h.bool_read b⟩

lemma Binds.keeps_word (levels : Nat) (n : UInt32) : L.Keeps levels L.word n :=
  ⟨.word _ _, h.word_read n⟩

lemma Binds.keeps_text (levels : Nat) (s : String) : L.Keeps levels L.text s :=
  ⟨.text _ _, h.text_read s⟩

lemma Binds.keeps_option_word (levels : Nat) (n : UInt32) :
    L.Keeps levels (L.option L.word) (some n) where
  written := by
    rw [h.option_write]
    exact .word _ _
  read := by rw [h.option_write, h.option_read _ _ (h.word_ne_null n), h.word_read, Option.map_some]

lemma Binds.keeps_named {name : Data → String} {named? : String → Option Data} {data : Data}
    (hname : named? (name data) = some data) : L.Keeps levels (L.named name named?) data where
  written := by
    rw [h.named_write]
    exact .text _ _
  read := by rw [h.named_write, h.named_read, hname]

lemma Binds.keeps_list {codec : Codec L.Value Data} {items : List Data}
    (hitems : ∀ item ∈ items, L.Keeps levels codec item) :
    L.Keeps (levels + 1) (L.list codec) items where
  written := by
    rw [h.list_write]
    exact .array (List.forall_mem_map.mpr fun item hitem => (hitems item hitem).written)
  read := by
    rw [h.list_write, h.list_read]
    exact mapM_map_eq_some fun item hitem => (hitems item hitem).read

end

lemma Keeps.map {Form : Type} {codec : Codec L.Value Data} {unpack : Form → Data}
    {pack : Data → Form} {form : Form} (h : L.Keeps levels codec (unpack form))
    (hpack : pack (unpack form) = form) : L.Keeps levels (codec.map unpack pack) form where
  written := h.written
  read := by
    have hread : (codec.map unpack pack).read? ((codec.map unpack pack).write form) =
        (codec.read? (codec.write (unpack form))).map pack := rfl
    rw [hread, h.read, Option.map_some, hpack]

/-! ### Records -/

/-- Whether the data of each field is kept. -/
def KeepsFields (L : Library) (levels : Nat) {Data : Type} : Fields L.Value Data → Data → Prop
  | .nil, _ => True
  | .required _ codec rest, (data, row) => L.Keeps levels codec data ∧ KeepsFields L levels rest row
  | .optional _ _ rest, (none, row) => KeepsFields L levels rest row
  | .optional _ codec rest, (some data, row) =>
    L.Keeps levels codec (some data) ∧ KeepsFields L levels rest row

/-- A record is read back from any values that have, under the names of its fields, what was written
for it. -/
lemma KeepsFields.read?_eq {fields : Fields L.Value Data} {data : Data}
    (h : KeepsFields L levels fields data) (hnames : fields.names.Nodup)
    {value? : String → Option L.Value}
    (hvalues : ∀ name ∈ fields.names, value? name = (fields.write data).lookup name) :
    fields.read? value? = some data := by
  induction fields with
  | nil => rfl
  | required name codec rest ih =>
    obtain ⟨data, more⟩ := data
    rw [Fields.names, List.nodup_cons] at hnames
    rw [Fields.names, List.forall_mem_cons, Fields.write, List.lookup_cons_self] at hvalues
    have hrest : rest.read? value? = some more := ih h.2 hnames.2 fun other hother =>
      (hvalues.2 other hother).trans (lookup_cons_of_ne (ne_of_mem_of_not_mem hother hnames.1) _ _)
    simp only [Fields.read?, hvalues.1, h.1.read, hrest, Option.bind_eq_bind, Option.bind_some]
    rfl
  | optional name codec rest ih =>
    obtain ⟨_ | data, more⟩ := data
    · rw [Fields.names, List.nodup_cons] at hnames
      rw [Fields.names, List.forall_mem_cons, Fields.write] at hvalues
      have hrest : rest.read? value? = some more := ih h hnames.2 hvalues.2
      have hnone : value? name = none := by
        rw [hvalues.1, lookup_eq_none_iff_notMem]
        exact fun hmem => hnames.1 ((rest.names_write_sublist more).subset hmem)
      simp only [Fields.read?, hnone, hrest, Option.bind_eq_bind, Option.bind_some]
      rfl
    · rw [Fields.names, List.nodup_cons] at hnames
      rw [Fields.names, List.forall_mem_cons, Fields.write, List.lookup_cons_self] at hvalues
      have hrest : rest.read? value? = some more := by
        refine ih h.2 hnames.2 fun other hother => (hvalues.2 other hother).trans ?_
        exact lookup_cons_of_ne (ne_of_mem_of_not_mem hother hnames.1) _ _
      simp only [Fields.read?, hvalues.1, h.1.read, hrest, Option.bind_eq_bind, Option.bind_some]
      rfl

lemma KeepsFields.written {fields : Fields L.Value Data} {data : Data}
    (h : KeepsFields L levels fields data) :
    ∀ field ∈ fields.write data, L.Written levels field.2 := by
  induction fields with
  | nil => exact List.forall_mem_nil _
  | required name codec rest ih =>
    obtain ⟨data, more⟩ := data
    exact List.forall_mem_cons.mpr ⟨h.1.written, ih h.2⟩
  | optional name codec rest ih =>
    obtain ⟨_ | data, more⟩ := data
    · exact ih h
    · exact List.forall_mem_cons.mpr ⟨h.1.written, ih h.2⟩

lemma Binds.keeps_record (h : L.Binds) {fields : Fields L.Value Data} {data : Data}
    (hnames : fields.names.Nodup) (hfields : KeepsFields L levels fields data) :
    L.Keeps (levels + 1) (L.record fields) data := by
  have hrow : ((fields.write data).map Prod.fst).Nodup :=
    (fields.names_write_sublist data).nodup hnames
  constructor
  · rw [h.record_write]
    exact .object hrow hfields.written
  · rw [h.record_write, h.record_read fields _ hrow]
    exact hfields.read?_eq hnames fun name _ => rfl

/-! ### Kinds of records -/

/-- Whether the data of each field of a record is kept, of whatever kind the record is. -/
def KeepsVariants (L : Library) (levels : Nat) {Data : Type} : Variants L.Value Data → Data → Prop
  | .cons _ fields _, .inl data => fields.names.Nodup ∧ KeepsFields L levels fields data
  | .cons _ _ rest, .inr data => KeepsVariants L levels rest data

/-- A record is read back as one of its own kind, as no other kind has the same name. -/
lemma KeepsVariants.keeps (h : L.Binds) {kinds : Variants L.Value Data} {data : Data}
    (hkinds : KeepsVariants L levels kinds data) (hnames : kinds.names.Nodup) :
    L.Written (levels + 1) (kinds.write L.record data).2 ∧
      kinds.read? L.record (kinds.write L.record data).1 (kinds.write L.record data).2 =
        some data := by
  induction kinds with
  | nil => cases data
  | cons name fields rest ih =>
    rw [Variants.names, List.nodup_cons] at hnames
    cases data with
    | inl data =>
      have hrecord := h.keeps_record hkinds.1 hkinds.2
      refine ⟨hrecord.written, ?_⟩
      rw [Variants.write, Variants.read?, if_pos rfl, hrecord.read]
      rfl
    | inr data =>
      obtain ⟨hwritten, hread⟩ := ih hkinds hnames.2
      refine ⟨hwritten, ?_⟩
      have hne : (rest.write L.record data).1 ≠ name :=
        ne_of_mem_of_not_mem (Variants.name_write_mem L.record data) hnames.1
      rw [Variants.write, Variants.read?, if_neg hne, hread]
      rfl

lemma Binds.keeps_variant (h : L.Binds) {kinds : Variants L.Value Data} {data : Data}
    (hnames : kinds.names.Nodup) (hkinds : KeepsVariants L levels kinds data) :
    L.Keeps (levels + 2) (L.variant kinds) data := by
  obtain ⟨hwritten, hread⟩ := hkinds.keeps h hnames
  constructor
  · rw [h.variant_write]
    exact .object (by simp) (List.forall_mem_singleton.mpr hwritten)
  · rw [h.variant_write, h.variant_read, hread]

end Library

/-! ### The library that runs -/

lemma toList_render (value : Json) : value.render.toList = value.chars :=
  String.toList_ofList

lemma toList_intercalate_render (items : List Json) :
    (",".intercalate (items.map render)).toList = itemChars items := by
  induction items with
  | nil => rfl
  | cons item items ih =>
    cases items with
    | nil => rw [List.map_singleton, String.intercalate_singleton, toList_render, itemChars]
    | cons next items =>
      rw [List.map_cons, List.map_cons, String.intercalate_cons_cons, ← List.map_cons,
        String.toList_append, String.toList_append, ih, toList_render, itemChars_cons_cons,
        List.append_assoc]
      rfl

/-- A field as it is printed. -/
def renderField (field : String × Json) : String :=
  (ofString field.1).render ++ ":" ++ field.2.render

lemma toList_intercalate_renderField (row : List (String × Json)) :
    (",".intercalate (row.map renderField)).toList =
      fieldChars (row.map fun field => (escape field.1, field.2)) := by
  induction row with
  | nil => rfl
  | cons field row ih =>
    have hfield : (renderField field).toList =
        '"' :: escape field.1 ++ '"' :: ':' :: field.2.chars := by
      simp [renderField, toList_render, ofString, chars]
    cases row with
    | nil => rw [List.map_singleton, String.intercalate_singleton, hfield]; rfl
    | cons next row =>
      rw [List.map_cons, List.map_cons, String.intercalate_cons_cons, ← List.map_cons,
        String.toList_append, String.toList_append, ih, hfield, List.map_cons, List.map_cons,
        List.map_cons, fieldChars_cons_cons, List.append_assoc]
      rfl

/-- The library that runs prints as is relied on. -/
theorem library_printsCompactly : library.PrintsCompactly where
  bool b := by cases b <;> rfl
  word n := String.ofList_toList
  text := by
    refine ⟨escapeChar, escapes_escapeChar, fun s => String.toList_inj.mp ?_⟩
    refine (toList_render (ofString s)).trans ?_
    rw [ofString, chars, escape, String.toList_append, String.toList_append]
    exact congrArg (fun cs => '"' :: cs ++ ['"']) String.toList_ofList.symm
  array (values : List Json) := by
    refine String.toList_inj.mp ((toList_render (array values)).trans ?_)
    rw [chars, String.toList_append, String.toList_append]
    exact congrArg (fun cs => '[' :: cs ++ [']']) (toList_intercalate_render values).symm
  object (row : List (String × Json)) := by
    refine String.toList_inj.mp ((toList_render (record row)).trans ?_)
    rw [record, chars, String.toList_append, String.toList_append]
    exact congrArg (fun cs => '\x7b' :: cs ++ ['\x7d']) (toList_intercalate_renderField row).symm

lemma written_of_library {levels : Nat} {value : library.Value}
    (h : library.Written levels value) : Written value := by
  induction h with
  | bool _ b => exact .bool b
  | word _ n => exact .number n.toNat
  | text _ s => exact .ofString s
  | array _ ih => exact .array ih
  | object _ _ ih =>
    refine .object ?_ (List.forall_mem_map.mpr ih)
    exact List.forall_mem_map.mpr fun field _ => ⟨field.1, rfl⟩

/-- The library that runs parses what it prints, however deep it is nested. -/
theorem library_readsBack : library.ReadsBack :=
  fun _ hvalue => parse?_render (written_of_library hvalue)

lemma namedFields?_record (row : List (String × Json)) :
    namedFields? (row.map fun field => (escape field.1, field.2)) = some row := by
  refine mapM_map_eq_some fun field _ => ?_
  simp [unescape?_escape]

/-- A row of different names is found in the object that is written for it. -/
lemma toRow?_record {row : List (String × Json)} (hrow : (row.map Prod.fst).Nodup)
    (names : List String) : (record row).toRow? names = some row := by
  rw [record, toRow?, namedFields?_record, Option.bind_eq_bind, Option.bind_some, if_pos]
  refine List.all_eq_true.mpr fun name _ => decide_eq_true ?_
  have hcount := List.nodup_iff_count.mp hrow name
  rwa [List.count, List.countP_map] at hcount

lemma toVariant?_record (name : String) (value : Json) :
    (record [(name, value)]).toVariant? = some (name, value) := by
  simp [record, toVariant?, unescape?_escape]

lemma toWord?_ofWord (n : UInt32) : (ofWord n).toWord? = some n := by
  have hread : Text.natural? (toString n).toList = some n.toNat := Text.natural?_toString n.toNat
  have hlt : n.toNat < UInt32.size := n.toNat_lt
  simp [ofWord, toWord?, hread, hlt]

/-- The library that runs binds data as is relied on. -/
theorem library_binds : library.Binds where
  bool_read _ := rfl
  word_read := toWord?_ofWord
  word_ne_null _ := nofun
  text_read := toText?_ofString
  option_write _ _ := rfl
  option_read codec value hvalue := by
    cases value with
    | null => exact absurd rfl hvalue
    | _ => rfl
  list_write _ _ := rfl
  list_read _ _ := rfl
  named_write _ _ _ := rfl
  named_read name named? s := by
    have hname : (ofString s).toName? = some s := toText?_ofString s
    exact congrArg (· >>= named?) hname
  record_write _ _ := rfl
  record_read fields _ hrow :=
    congrArg (fun row? : Option (List (String × Json)) => row?.bind fun row =>
      fields.read? (row.lookup ·)) (toRow?_record hrow fields.names)
  variant_write _ _ := rfl
  variant_read kinds name value :=
    congrArg (fun tagged? : Option (String × Json) => tagged?.bind fun tagged =>
      kinds.read? Codec.record tagged.1 tagged.2) (toVariant?_record name value)

end Jury.Json
