import Jury.Json.Basic

/-!
# Data as JSON

A program that keeps its data as JSON declares what its records are: the names of their fields, in
order, and which of them may be missing (`Fields`), or the kinds of records that there are
(`Variants`). How they are written and read back is up to a library (`Library`), which also prints
values and parses texts. `library` is the one that runs here.
-/

namespace Jury.Json

variable {Value Data Rest : Type}

/-- How data is written as a value and read back. -/
structure Codec (Value Data : Type) where
  write : Data → Value
  read? : Value → Option Data

/-- The codec of data that is unpacked to be written. -/
def Codec.map {Form : Type} (codec : Codec Value Data) (unpack : Form → Data)
    (pack : Data → Form) : Codec Value Form where
  write form := codec.write (unpack form)
  read? value := (codec.read? value).map pack

/-! ### Records -/

/-- The fields of a record, and their data as nested pairs. An optional field without data is left
out, and what is missing has no data. -/
inductive Fields (Value : Type) : Type → Type 1
  | nil : Fields Value Unit
  | required {Data Rest : Type} (name : String) (codec : Codec Value Data)
      (rest : Fields Value Rest) : Fields Value (Data × Rest)
  | optional {Data Rest : Type} (name : String) (codec : Codec Value (Option Data))
      (rest : Fields Value Rest) : Fields Value (Option Data × Rest)

namespace Fields

def names {Data : Type} : Fields Value Data → List String
  | nil => []
  | required name _ rest | optional name _ rest => name :: rest.names

/-- The named values that are written for a record. -/
def write {Data : Type} : Fields Value Data → Data → List (String × Value)
  | nil, _ => []
  | required name codec rest, (data, row) => (name, codec.write data) :: rest.write row
  | optional _ _ rest, (none, row) => rest.write row
  | optional name codec rest, (some data, row) =>
    (name, codec.write (some data)) :: rest.write row

/-- The record that is read from the values that the names of its fields have. -/
def read? {Data : Type} : Fields Value Data → (String → Option Value) → Option Data
  | nil, _ => some ()
  | required name codec rest, value? => do
    return (← codec.read? (← value? name), ← rest.read? value?)
  | optional name codec rest, value? =>
    match value? name with
    | none => do return (none, ← rest.read? value?)
    | some value => do return (← codec.read? value, ← rest.read? value?)

end Fields

/-- Kinds of records, each with its name. -/
inductive Variants (Value : Type) : Type → Type 1
  | nil : Variants Value Empty
  | cons {Data Rest : Type} (name : String) (fields : Fields Value Data)
      (rest : Variants Value Rest) : Variants Value (Data ⊕ Rest)

namespace Variants

def names {Data : Type} : Variants Value Data → List String
  | nil => []
  | cons name _ rest => name :: rest.names

variable (record : {Data : Type} → Fields Value Data → Codec Value Data)

/-- The name of a record's kind, and what is written for the record. -/
def write {Data : Type} : Variants Value Data → Data → String × Value
  | cons name fields _, .inl data => (name, (record fields).write data)
  | cons _ _ rest, .inr data => rest.write data

/-- The record that is read as one of the kind of this name. -/
def read? {Data : Type} : Variants Value Data → String → Value → Option Data
  | nil, _, _ => none
  | cons name fields rest, key, value =>
    if key = name then ((record fields).read? value).map .inl
    else (rest.read? key value).map .inr

end Variants

/-! ### Libraries -/

/-- What a library offers: values, their texts, and how each shape of data is bound to values. -/
structure Library where
  Value : Type
  null : Value
  array : List Value → Value
  object : List (String × Value) → Value
  print : Value → String
  parse? : String → Option Value
  bool : Codec Value Bool
  word : Codec Value UInt32
  text : Codec Value String
  option {Data : Type} : Codec Value Data → Codec Value (Option Data)
  list {Data : Type} : Codec Value Data → Codec Value (List Data)
  /-- Data that is nothing but one of several names. -/
  named {Data : Type} : (Data → String) → (String → Option Data) → Codec Value Data
  record {Data : Type} : Fields Value Data → Codec Value Data
  variant {Data : Type} : Variants Value Data → Codec Value Data

/-! ### The library that runs -/

/-- A name, as a string or as a variant that nothing belongs to. -/
def toName? : Json → Option String
  | string body => toText? (string body)
  | value => match value.toVariant? with
    | some (name, null) => some name
    | _ => none

namespace Codec

def option (codec : Codec Json Data) : Codec Json (Option Data) where
  write
    | none => null
    | some data => codec.write data
  read?
    | null => some none
    | value => (codec.read? value).map some

def list (codec : Codec Json Data) : Codec Json (List Data) where
  write items := array (items.map codec.write)
  read? value := do (← value.toItems?).mapM codec.read?

def named (name : Data → String) (named? : String → Option Data) : Codec Json Data where
  write data := ofString (name data)
  read? value := do named? (← value.toName?)

def record (fields : Fields Json Data) : Codec Json Data where
  write data := Json.record (fields.write data)
  read? value := do
    let row ← value.toRow? fields.names
    fields.read? (row.lookup ·)

/-- A record of some kind is an object whose only field is named for the kind. -/
def variant (kinds : Variants Json Data) : Codec Json Data where
  write data := Json.record [kinds.write record data]
  read? value := do
    let tagged ← value.toVariant?
    kinds.read? record tagged.1 tagged.2

end Codec

def library : Library where
  Value := Json
  null := null
  array := array
  object := record
  print := render
  parse? := parse?
  bool := ⟨bool, toBool?⟩
  word := ⟨ofWord, toWord?⟩
  text := ⟨ofString, toText?⟩
  option := Codec.option
  list := Codec.list
  named := Codec.named
  record := Codec.record
  variant := Codec.variant

end Jury.Json
