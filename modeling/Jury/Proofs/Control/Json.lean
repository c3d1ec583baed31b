import Mathlib.Data.List.Sublists
import Jury.Command.Transcript
import Jury.Proofs.Control.Fields
import Jury.Proofs.Json.Library

/-!
# The JSON form of messages loses nothing

A message of declared parts is read back from its JSON text as it was, with the name of its judge
log and the scores of its tests, which do not travel (`Response.ofText?_line`). This holds with
every library that does what it is relied on for, if sets of parts are written as the names of
their parts (`PartKind.WritesNames`).
-/

namespace Jury.Control

open Json (Codec Library library)
open Json.Library (Keeps KeepsFields)

/-! ### Sets of parts -/

namespace PartKind

/-- The parts that a set holds, in the order of their bits. -/
def held (kind : PartKind) (set : UInt32) : List (UInt32 × String) :=
  kind.bits.filter fun part => set &&& part.1 == part.1

/-- The set of some parts. -/
def setOf (parts : List (UInt32 × String)) : UInt32 :=
  parts.foldl (fun set part => set ||| part.1) 0

/-- The names of some parts as a text; it is empty if there are none. -/
def joined (parts : List (UInt32 × String)) : String :=
  " | ".intercalate (parts.map Prod.snd)

/-- What is relied on of the texts of sets: a set of declared parts is written as their names, and
names of parts are read as the set of these parts. -/
structure WritesNames (kind : PartKind) (L : Library) (codec : Codec L.Value UInt32) : Prop where
  write : ∀ set : UInt32, kind.declares set = true →
    codec.write set = L.text.write (joined (kind.held set))
  read : ∀ parts : List (UInt32 × String), parts.Sublist kind.bits →
    codec.read? (L.text.write (joined parts)) = some (setOf parts)

/-- There are no more declared sets than numbers up to that of the set of all parts. -/
lemma forall_declared {kind : PartKind} {p : UInt32 → Prop}
    (h : ∀ n ≤ kind.allBits.toNat, p (UInt32.ofNat n)) (set : UInt32)
    (hset : kind.declares set = true) : p set := by
  have hp := h set.toNat (le_allBits hset)
  rwa [UInt32.ofNat_toNat] at hp

/-- A declared set is the set of the parts that it holds. -/
lemma setOf_held_test : ∀ set, test.declares set = true → setOf (test.held set) = set :=
  forall_declared (by decide)

lemma setOf_held_subtask :
    ∀ set, subtask.declares set = true → setOf (subtask.held set) = set :=
  forall_declared (by decide)

lemma WritesNames.keeps {kind : PartKind} {L : Library} {codec : Codec L.Value UInt32}
    (h : kind.WritesNames L codec) {set : UInt32} (hset : kind.declares set = true)
    (hheld : setOf (kind.held set) = set) (levels : Nat) : L.Keeps levels codec set where
  written := by
    rw [h.write set hset]
    exact .text _ _
  read := by rw [h.write set hset, h.read (kind.held set) List.filter_sublist, hheld]

end PartKind

/-! ### Judge logs -/

/-- A judge log whose entries have declared parts only. -/
structure JudgeLog.Declared (log : JudgeLog) : Prop where
  tests : ∀ entry ∈ log.tests, PartKind.test.declares entry.parts = true
  subtasks : ∀ entry ∈ log.subtasks, PartKind.subtask.declares entry.parts = true

section

variable {L : Library} {parts : PartKind → Codec L.Value UInt32} (hbinds : L.Binds)

include hbinds

lemma keeps_kindCodec (kind : StatusKind) : L.Keeps 0 (kindCodec L) kind :=
  hbinds.keeps_named (by cases kind <;> decide)

/-- A test entry is written with a score only if it has one. -/
lemma TestEntry.keeps (htest : PartKind.test.WritesNames L (parts .test)) {e : TestEntry}
    (h : PartKind.test.declares e.parts = true) : L.Keeps 1 (codec L parts) e := by
  have hfields : KeepsFields L 0 (shape L parts)
      (e.test, e.statusCode, e.kind, e.parts, e.score, ()) := by
    refine ⟨hbinds.keeps_word _ _, hbinds.keeps_text _ _, keeps_kindCodec hbinds _,
      htest.keeps h (PartKind.setOf_held_test _ h) _, ?_⟩
    cases e.score with
    | none => trivial
    | some score => exact ⟨hbinds.keeps_option_word _ _, trivial⟩
  have hnames : (shape L parts).names.Nodup := by simp [shape, Json.Fields.names]
  rw [codec]
  exact .map (hbinds.keeps_record hnames hfields) rfl

lemma SubtaskEntry.keeps (hsubtask : PartKind.subtask.WritesNames L (parts .subtask))
    {e : SubtaskEntry} (h : PartKind.subtask.declares e.parts = true) :
    L.Keeps 1 (codec L parts) e := by
  have hfields : KeepsFields L 0 (shape L parts) (e.subtask, e.score, e.parts, ()) :=
    ⟨hbinds.keeps_word _ _, hbinds.keeps_word _ _,
      hsubtask.keeps h (PartKind.setOf_held_subtask _ h) _, trivial⟩
  have hnames : (shape L parts).names.Nodup := by simp [shape, Json.Fields.names]
  rw [codec]
  exact .map (hbinds.keeps_record hnames hfields) rfl

variable (htest : PartKind.test.WritesNames L (parts .test))
  (hsubtask : PartKind.subtask.WritesNames L (parts .subtask))

include htest hsubtask

lemma JudgeLog.keeps {log : JudgeLog} (h : log.Declared) : L.Keeps 3 (codec L parts) log := by
  have hfields : KeepsFields L 2 (shape L parts) (log.name, log.tests, log.subtasks, ()) :=
    ⟨hbinds.keeps_text _ _,
      hbinds.keeps_list fun entry hentry => TestEntry.keeps hbinds htest (h.tests entry hentry),
      hbinds.keeps_list fun entry hentry =>
        SubtaskEntry.keeps hbinds hsubtask (h.subtasks entry hentry), trivial⟩
  have hnames : (shape L parts).names.Nodup := by simp [shape, Json.Fields.names]
  rw [codec]
  exact .map (hbinds.keeps_record hnames hfields) rfl

/-! ### Messages -/

namespace Response

/-- A message whose judge log, if it has one, has declared parts only. -/
def Declared : Response → Prop
  | finish _ _ log => log.Declared
  | _ => True

lemma keeps {r : Response} (h : r.Declared) : L.Keeps 5 (codec L parts) r := by
  have hnames : (variants L parts).names.Nodup := by simp [variants, Json.Variants.names]
  have hdata : Json.Library.KeepsVariants L 3 (variants L parts) r.data := by
    cases r with
    | test id live =>
      exact ⟨by simp [Json.Fields.names], hbinds.keeps_word _ _, hbinds.keeps_bool _ _, trivial⟩
    | liveScore score => exact ⟨by simp [Json.Fields.names], hbinds.keeps_word _ _, trivial⟩
    | finish score full log =>
      exact ⟨by simp [Json.Fields.names], hbinds.keeps_word _ _, hbinds.keeps_bool _ _,
        JudgeLog.keeps hbinds htest hsubtask h, trivial⟩
  rw [codec]
  exact .map (hbinds.keeps_variant hnames hdata) (by cases r <;> rfl)

end Response

end

/-! ### One line of JSON -/

namespace Response

/-- **The JSON form loses nothing.** A message of declared parts, whatever its texts and numbers and
however many entries its judge log has, is shown as one line of JSON, and it is read back from this
text as it was. -/
theorem ofText?_line {L : Library} {parts : PartKind → Codec L.Value UInt32}
    (hprints : L.PrintsCompactly) (hreads : L.ReadsBack) (hbinds : L.Binds)
    (htest : PartKind.test.WritesNames L (parts .test))
    (hsubtask : PartKind.subtask.WritesNames L (parts .subtask)) {r : Response}
    (h : r.Declared) :
    Command.Transcript.lineWith (toText L parts) true r = toText L parts r ++ "\n" ∧
      '\n' ∉ (toText L parts r).toList ∧ ofText? L parts (toText L parts r) = some r := by
  have hkeeps := keeps hbinds htest hsubtask h
  refine ⟨rfl, fun hnewline => ?_, ?_⟩
  · exact absurd (hkeeps.written.onOneLine_print hprints _ hnewline) (by decide)
  · have hparse := hreads _ (hkeeps.written.mono (by decide))
    rw [ofText?, toText, hparse, Option.bind_eq_bind, Option.bind_some, hkeeps.read]

end Response

/-! ### The texts of sets that are written here -/

namespace PartKind

/-- A codec that writes the text of a set writes names if its texts do. -/
lemma writesNames_codec {kind : PartKind}
    (hrender : ∀ set, kind.declares set = true → kind.render set = joined (kind.held set))
    (hparse : ∀ parts ∈ kind.bits.sublists, kind.parse? (joined parts) = some (setOf parts)) :
    kind.WritesNames library kind.codec where
  write set hset := congrArg Json.ofString (hrender set hset)
  read parts hparts := by
    have htext : (Json.ofString (joined parts)).toText? = some (joined parts) :=
      Json.toText?_ofString _
    have hread := hparse parts (List.mem_sublists.mpr hparts)
    rw [← hread]
    exact congrArg (· >>= kind.parse?) htext

lemma writesNames_test : test.WritesNames library test.codec :=
  writesNames_codec (forall_declared (by decide)) (by decide)

lemma writesNames_subtask : subtask.WritesNames library subtask.codec :=
  writesNames_codec (forall_declared (by decide)) (by decide)

end PartKind

namespace Response

/-- A message with texts that need escapes, with scores and without, and with sets of all parts and
of none. -/
def awkward : Response :=
  .finish 4294967295 true {
    name := "\"judge\"\\\n\x00\x1f😀"
    tests := [
      { test := 0, statusCode := "", kind := .skipped },
      { test := 4294967295, statusCode := "É\t/", kind := .accepted, parts := 7, score := some 0 }]
    subtasks := [
      { subtask := 1, score := 50, parts := 1 },
      { subtask := 1, score := 0, parts := 0 }] }

/-- The message with awkward texts is one line of JSON, in which every quote, backslash and control
character is escaped and the missing score has no field, and is read back from it. -/
theorem ofText?_line_awkward :
    awkward.Declared ∧
    Command.Transcript.line true awkward =
      "\x7b\"Finish\":\x7b\"score\":4294967295,\"treat_as_full\":true,\"judge_log\":\x7b" ++
        "\"name\":\"\\\"judge\\\"\\\\\\n\\u0000\\u001f😀\",\"tests\":[\x7b\"test_id\":0," ++
        "\"status_code\":\"\",\"status_kind\":\"Skipped\",\"components\":\"\"\x7d,\x7b" ++
        "\"test_id\":4294967295,\"status_code\":\"É\\t/\",\"status_kind\":\"Accepted\"," ++
        "\"components\":\"TEST_DATA | OUTPUT | ANSWER\",\"score\":0\x7d],\"subtasks\":[\x7b" ++
        "\"subtask_id\":1,\"score\":50,\"components\":\"SCORE\"\x7d,\x7b\"subtask_id\":1," ++
        "\"score\":0,\"components\":\"\"\x7d]\x7d\x7d\x7d\n" ∧
    '\n' ∉ awkward.toJson.render.toList ∧ parseJson? awkward.toJson.render = some awkward := by
  have hdeclared : awkward.Declared := ⟨by decide, by decide⟩
  obtain ⟨-, hnewline, hread⟩ := @ofText?_line library PartKind.codec
    Json.library_printsCompactly Json.library_readsBack Json.library_binds
    PartKind.writesNames_test PartKind.writesNames_subtask awkward hdeclared
  exact ⟨hdeclared, by decide +kernel, hnewline, hread⟩

end Response

end Jury.Control
