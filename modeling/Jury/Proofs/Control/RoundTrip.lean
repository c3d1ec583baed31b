import Jury.Control.Response
import Jury.Proofs.Control.Fields
import Jury.Proofs.Control.Lines

/-!
# The round trip of messages

Messages that are written one after the other are read back, without what does not travel, exactly
when every status code is a token (`decode_render_iff`). Reading goes line by line, so a message is
first taken apart into its lines; a stream that ends after them, or goes on, is read alike.
-/

namespace Jury.Control

open Jury.Text (fields IsToken IsSolid isSeparator)

/-! ### Messages before and after they travel -/

/-- A judge log of declared parts only, with as many entries as can be in memory. -/
structure JudgeLog.WellFormed (log : JudgeLog) : Prop where
  tests_declared : ∀ entry ∈ log.tests, PartKind.test.declares entry.parts = true
  subtasks_declared : ∀ entry ∈ log.subtasks, PartKind.subtask.declares entry.parts = true
  tests_lt : log.tests.length < UInt64.size
  subtasks_lt : log.subtasks.length < UInt64.size

/-- A message whose judge log, if it has one, is well formed. -/
def Response.WellFormed : Response → Prop
  | finish _ _ log => log.WellFormed
  | _ => True

/-- The status codes of a message. -/
def Response.statusCodes : Response → List String
  | finish _ _ log => log.tests.map (·.statusCode)
  | _ => []

/-- What arrives of a test entry: all but its score. -/
def TestEntry.travelled (entry : TestEntry) : TestEntry :=
  { entry with score := none }

/-- What arrives of a message: all but the name of a judge log and the scores of its tests. -/
def Response.travelled : Response → Response
  | finish score full log =>
    finish score full { log with name := "", tests := log.tests.map TestEntry.travelled }
  | response => response

@[simp] lemma Response.statusCodes_travelled (r : Response) :
    r.travelled.statusCodes = r.statusCodes := by
  cases r <;> simp [travelled, statusCodes, TestEntry.travelled]

/-! ### The lines of a message -/

/-- The words of a test entry's line. -/
def TestEntry.words (entry : TestEntry) : List String :=
  [toString entry.test, entry.kind.name, entry.statusCode, toString entry.parts]

/-- The words of a subtask entry's line. -/
def SubtaskEntry.words (entry : SubtaskEntry) : List String :=
  [toString entry.subtask, toString entry.score, toString entry.parts]

/-- The lines of a row of entries. -/
def rowLines {α : Type} (words : α → List String) (entries : List α) : List String :=
  toString entries.length :: entries.map fun entry => spaced (words entry)

/-- The lines of a message. -/
def Response.lines : Response → List String
  | test id live => [spaced ["RUN", toString id, renderFlag live]]
  | liveScore score => [spaced ["LIVE-SCORE", toString score]]
  | finish score full log =>
    spaced ["DONE", toString score, renderFlag full] ::
      (rowLines TestEntry.words log.tests ++ rowLines SubtaskEntry.words log.subtasks)

lemma TestEntry.render_eq_spaced (entry : TestEntry) :
    entry.render = spaced entry.words ++ "\n" := by
  simp [render, words, spaced, String.intercalate_cons_cons, String.append_assoc]

lemma SubtaskEntry.render_eq_spaced (entry : SubtaskEntry) :
    entry.render = spaced entry.words ++ "\n" := by
  simp [render, words, spaced, String.intercalate_cons_cons, String.append_assoc]

lemma renderEntries_eq_unlines {α : Type} {render : α → String} {words : α → List String}
    (h : ∀ entry, render entry = spaced (words entry) ++ "\n") (entries : List α) :
    renderEntries render entries = unlines (rowLines words entries) := by
  rw [renderEntries, rowLines, unlines_cons, unlines, List.map_map, funext h]
  rfl

/-- A message is written as its lines. -/
lemma Response.render_eq_unlines (r : Response) : r.render = unlines r.lines := by
  cases r with
  | test id live =>
    simp [render, lines, unlines_cons, spaced, String.intercalate_cons_cons, String.append_assoc]
  | liveScore score => simp [render, lines, unlines_cons, spaced, String.intercalate_cons_cons]
  | finish score full log =>
    rw [render, lines, JudgeLog.render, renderEntries_eq_unlines TestEntry.render_eq_spaced,
      renderEntries_eq_unlines SubtaskEntry.render_eq_spaced, unlines_cons, unlines_append]
    simp [spaced, String.intercalate_cons_cons, String.append_assoc]

/-- Every line of a message is one that a reader keeps, if the status codes are tokens. -/
lemma Response.isLine_of_mem_lines {r : Response} (h : ∀ code ∈ r.statusCodes, IsToken code)
    {line : String} (hline : line ∈ r.lines) : IsLine line := by
  cases r with
  | test id live =>
    rw [lines, List.mem_singleton] at hline
    subst hline
    exact IsLine.of_tokens [toString id] (by decide) (isSolid_renderFlag live)
      (by simpa using (isSolid_toString_word id).isToken)
  | liveScore score =>
    rw [lines, List.mem_singleton] at hline
    subst hline
    exact IsLine.of_tokens [] (by decide) (isSolid_toString_word score) (by simp)
  | finish score full log =>
    simp only [lines, rowLines, List.cons_append, List.mem_cons, List.mem_append,
      List.mem_map] at hline
    rcases hline with rfl | rfl | ⟨entry, hentry, rfl⟩ | rfl | ⟨entry, hentry, rfl⟩
    · exact IsLine.of_tokens [toString score] (by decide) (isSolid_renderFlag full)
        (by simpa using (isSolid_toString_word score).isToken)
    · exact IsLine.of_solid (Text.isSolid_toString _)
    · have hcode := h entry.statusCode (List.mem_map_of_mem hentry)
      exact IsLine.of_tokens [entry.kind.name, entry.statusCode]
        (isSolid_toString_word _) (isSolid_toString_word _)
        (by simpa using ⟨(isSolid_name entry.kind).isToken, hcode⟩)
    · exact IsLine.of_solid (Text.isSolid_toString _)
    · exact IsLine.of_tokens [toString entry.score] (isSolid_toString_word _)
        (isSolid_toString_word _) (by simpa using (isSolid_toString_word entry.score).isToken)

/-! ### Reading line by line -/

/-- Lines of these texts. -/
def told (texts : List String) : List Line :=
  texts.map fun text => ⟨some text, 0⟩

/-- A stream of messages that these came before. -/
def Transcript.after (responses : List Response) (t : Transcript) : Transcript :=
  { t with responses := responses ++ t.responses }

namespace Transcript

lemma ofLines_cons_ok {block : Block} {line : Line} {read : Option Response × Block}
    (h : block.feedLine line = .ok read) (lines : List Line) :
    ofLines block (line :: lines) = (ofLines read.2 lines).after read.1.toList := by
  obtain ⟨response, next⟩ := read
  rw [ofLines, h]
  cases response <;> rfl

/-- What is read depends on the texts of lines alone. -/
lemma ofLines_congr (block : Block) {lines lines' : List Line}
    (h : lines.map (·.text) = lines'.map (·.text)) :
    ofLines block lines = ofLines block lines' := by
  induction lines generalizing block lines' with
  | nil =>
    rw [List.map_nil, eq_comm, List.map_eq_nil_iff] at h
    rw [h]
  | cons line lines ih =>
    obtain ⟨line', lines', rfl, htext, hrest⟩ := List.map_eq_cons_iff.mp h.symm
    have hfeed : block.feedLine line = block.feedLine line' := by
      rw [Block.feedLine, Block.feedLine, htext]
    simp only [ofLines, hfeed, ih _ hrest.symm]

lemma ofLines_told_cons {block : Block} {text : String} {read : Option Response × Block}
    (h : block.feed text = .ok read) (texts : List String) (lines : List Line) :
    ofLines block (told (text :: texts) ++ lines) =
      (ofLines read.2 (told texts ++ lines)).after read.1.toList := by
  have hline : block.feedLine ⟨some text, 0⟩ = .ok read := h
  exact ofLines_cons_ok hline _

end Transcript

/-! ### Reading the lines of a message -/

lemma Block.feed_test (id : UInt32) (live : Bool) :
    idle.feed (spaced ["RUN", toString id, renderFlag live]) =
      .ok (some (.test id live), idle) := by
  have hwords : ∀ t ∈ ["RUN", toString id, renderFlag live], IsToken t := by
    simpa using ⟨by decide, (isSolid_toString_word id).isToken, (isSolid_renderFlag live).isToken⟩
  rw [feed, start, spaced, Text.fields_intercalate hwords]
  simp only [wordField_toString, flagField_renderFlag]
  rfl

lemma Block.feed_liveScore (score : UInt32) :
    idle.feed (spaced ["LIVE-SCORE", toString score]) = .ok (some (.liveScore score), idle) := by
  have hwords : ∀ t ∈ ["LIVE-SCORE", toString score], IsToken t := by
    simpa using ⟨by decide, (isSolid_toString_word score).isToken⟩
  rw [feed, start, spaced, Text.fields_intercalate hwords]
  simp only [wordField_toString]
  rfl

lemma Block.feed_finish (score : UInt32) (full : Bool) :
    idle.feed (spaced ["DONE", toString score, renderFlag full]) =
      .ok (none, testCount ⟨score, full⟩) := by
  have hwords : ∀ t ∈ ["DONE", toString score, renderFlag full], IsToken t := by
    simpa using
      ⟨by decide, (isSolid_toString_word score).isToken, (isSolid_renderFlag full).isToken⟩
  rw [feed, start, spaced, Text.fields_intercalate hwords]
  simp only [wordField_toString, flagField_renderFlag]
  rfl

lemma partsField_toString {kind : PartKind} {parts : UInt32} (h : kind.declares parts = true)
    (fault : UInt32 → ProtocolFault) (what : String) :
    partsField kind fault what (toString parts) = .ok parts := by
  simp only [partsField, wordField_toString]
  exact if_pos h

lemma TestEntry.fields_words {entry : TestEntry} (hcode : IsToken entry.statusCode) :
    fields (spaced entry.words) = entry.words := by
  apply Text.fields_intercalate
  simpa [words] using ⟨(isSolid_toString_word entry.test).isToken,
    (isSolid_name entry.kind).isToken, hcode, (isSolid_toString_word entry.parts).isToken⟩

lemma SubtaskEntry.fields_words (entry : SubtaskEntry) :
    fields (spaced entry.words) = entry.words := by
  apply Text.fields_intercalate
  simpa [words] using ⟨(isSolid_toString_word entry.subtask).isToken,
    (isSolid_toString_word entry.score).isToken, (isSolid_toString_word entry.parts).isToken⟩

/-- A test entry is read back without its score. -/
lemma TestEntry.parse_words {entry : TestEntry} (hcode : IsToken entry.statusCode)
    (hparts : PartKind.test.declares entry.parts = true) :
    TestEntry.parse (spaced entry.words) = .ok entry.travelled := by
  rw [parse, fields_words hcode, words]
  simp only [wordField_toString, kindField_name, partsField_toString hparts]
  rfl

lemma SubtaskEntry.parse_words {entry : SubtaskEntry}
    (hparts : PartKind.subtask.declares entry.parts = true) :
    SubtaskEntry.parse (spaced entry.words) = .ok entry := by
  rw [parse, fields_words, words]
  simp only [wordField_toString, partsField_toString hparts]
  rfl

namespace Transcript

lemma ofLines_tests (header : Header) {entries : List TestEntry} (read : List TestEntry)
    (hcodes : ∀ entry ∈ entries, IsToken entry.statusCode)
    (hparts : ∀ entry ∈ entries, PartKind.test.declares entry.parts = true) (lines : List Line) :
    ofLines (.afterTests header entries.length read)
        (told (entries.map fun entry => spaced entry.words) ++ lines) =
      ofLines (.subtaskCount header (read ++ entries.map TestEntry.travelled)) lines := by
  induction entries generalizing read with
  | nil => simp [told, Block.afterTests]
  | cons entry entries ih =>
    rw [List.forall_mem_cons] at hcodes hparts
    have hfeed : (Block.tests header (entries.length + 1) read).feed (spaced entry.words) =
        .ok (none, .afterTests header entries.length (read ++ [entry.travelled])) := by
      rw [Block.feed, TestEntry.parse_words hcodes.1 hparts.1]
      rfl
    have hmore : Block.afterTests header (entry :: entries).length read =
        .tests header (entries.length + 1) read := by
      rw [List.length_cons, Block.afterTests, if_neg (by omega)]
    rw [hmore, List.map_cons, ofLines_told_cons hfeed, ih _ hcodes.2 hparts.2]
    simp [after]

lemma ofLines_subtasks (header : Header) (listed : List TestEntry) {entries : List SubtaskEntry}
    (read : List SubtaskEntry)
    (hparts : ∀ entry ∈ entries, PartKind.subtask.declares entry.parts = true)
    (lines : List Line) :
    (ofLines (Block.afterSubtasks header listed entries.length read).2
        (told (entries.map fun entry => spaced entry.words) ++ lines)).after
        (Block.afterSubtasks header listed entries.length read).1.toList =
      (ofLines .idle lines).after
        [.finish header.score header.full { tests := listed, subtasks := read ++ entries }] := by
  induction entries generalizing read with
  | nil => simp [told, Block.afterSubtasks]
  | cons entry entries ih =>
    rw [List.forall_mem_cons] at hparts
    have hfeed : (Block.subtasks header listed (entries.length + 1) read).feed
        (spaced entry.words) =
          .ok (Block.afterSubtasks header listed entries.length (read ++ [entry])) := by
      rw [Block.feed, SubtaskEntry.parse_words hparts.1]
      rfl
    have hmore : Block.afterSubtasks header listed (entry :: entries).length read =
        (none, .subtasks header listed (entries.length + 1) read) := by
      rw [List.length_cons, Block.afterSubtasks, if_neg (by omega)]
    have hrest := ih (read ++ [entry]) hparts.2
    rw [List.append_assoc, List.singleton_append] at hrest
    rw [hmore, List.map_cons, ofLines_told_cons hfeed, hrest]
    simp [after]

/-- The lines of a message are read as the message. -/
lemma ofLines_lines {r : Response} (hwf : r.WellFormed)
    (hcodes : ∀ code ∈ r.statusCodes, IsToken code) (lines : List Line) :
    ofLines .idle (told r.lines ++ lines) = (ofLines .idle lines).after [r.travelled] := by
  cases r with
  | test id live =>
    rw [Response.lines, ofLines_told_cons (Block.feed_test id live)]
    rfl
  | liveScore score =>
    rw [Response.lines, ofLines_told_cons (Block.feed_liveScore score)]
    rfl
  | finish score full log =>
    have htests : (Block.testCount ⟨score, full⟩).feed (toString log.tests.length) =
        .ok (none, .afterTests ⟨score, full⟩ log.tests.length []) := by
      rw [Block.feed, numberField_toString hwf.tests_lt]
      rfl
    have hsubtasks : (Block.subtaskCount ⟨score, full⟩ (log.tests.map TestEntry.travelled)).feed
        (toString log.subtasks.length) = .ok (Block.afterSubtasks ⟨score, full⟩
          (log.tests.map TestEntry.travelled) log.subtasks.length []) := by
      rw [Block.feed, numberField_toString hwf.subtasks_lt]
      rfl
    have htokens : ∀ entry ∈ log.tests, IsToken entry.statusCode :=
      fun entry hentry => hcodes _ (List.mem_map_of_mem hentry)
    have htold : ∀ texts texts' : List String, told (texts ++ texts') ++ lines =
        told texts ++ (told texts' ++ lines) := by simp [told]
    rw [Response.lines, ofLines_told_cons (Block.feed_finish score full), rowLines,
      List.cons_append, ofLines_told_cons htests, htold,
      ofLines_tests _ _ htokens hwf.tests_declared, rowLines, List.nil_append,
      ofLines_told_cons hsubtasks, ofLines_subtasks _ _ _ hwf.subtasks_declared]
    rfl

/-- A message is read from the front of a stream, and the rest as if it stood alone. -/
lemma decode_render_append {r : Response} (hwf : r.WellFormed)
    (hcodes : ∀ code ∈ r.statusCodes, IsToken code) (text : String) :
    decode (Utf8.encode (r.render ++ text)) =
      (decode (Utf8.encode text)).after [r.travelled] := by
  have hlines :=
    Line.all_encode_unlines (fun _ => Response.isLine_of_mem_lines hcodes) (Utf8.encode text)
  rw [← Utf8.encode_append] at hlines
  have htold : (Line.all (Utf8.encode (unlines r.lines ++ text))).map (·.text) =
      (told r.lines ++ Line.all (Utf8.encode text)).map (·.text) := by
    rw [hlines]
    simp [told]
  rw [decode, Response.render_eq_unlines, ofLines_congr _ htold, ofLines_lines hwf hcodes]
  rfl

/-- Messages with tokens for status codes are read back. -/
lemma decode_join_render {rs : List Response} (hwf : ∀ r ∈ rs, r.WellFormed)
    (hcodes : ∀ r ∈ rs, ∀ code ∈ r.statusCodes, IsToken code) :
    decode (Utf8.encode (String.join (rs.map Response.render))) =
      ⟨rs.map Response.travelled, none⟩ := by
  induction rs with
  | nil => rfl
  | cons r rs ih =>
    rw [List.forall_mem_cons] at hwf hcodes
    rw [List.map_cons, String.join_cons, decode_render_append hwf.1 hcodes.1,
      ih hwf.2 hcodes.2]
    rfl

end Transcript

/-! ### Status codes that are read are tokens -/

/-- The status codes of a message that is being read. -/
def Block.statusCodes : Block → List String
  | tests _ _ read => read.map (·.statusCode)
  | subtaskCount _ listed => listed.map (·.statusCode)
  | subtasks _ listed _ _ => listed.map (·.statusCode)
  | _ => []

lemma TestEntry.isToken_of_parse {line : String} {entry : TestEntry}
    (h : TestEntry.parse line = .ok entry) : IsToken entry.statusCode := by
  rw [parse] at h
  split at h
  · next test kind code parts hfields =>
    obtain ⟨_, _, h⟩ := Except.bind_eq_ok_iff.mp h
    obtain ⟨_, _, h⟩ := Except.bind_eq_ok_iff.mp h
    obtain ⟨_, _, h⟩ := Except.bind_eq_ok_iff.mp h
    cases h
    have hmem : code ∈ fields line := by simp [hfields]
    exact Text.isToken_of_mem_fields hmem
  · cases h

lemma Block.statusCodes_of_start {line : String} {response : Option Response} {next : Block}
    (h : Block.start line = .ok (response, next)) :
    next.statusCodes = [] ∧ ∀ r ∈ response, r.statusCodes = [] := by
  rw [start] at h
  split at h
  · obtain ⟨_, _, h⟩ := Except.bind_eq_ok_iff.mp h
    obtain ⟨_, _, h⟩ := Except.bind_eq_ok_iff.mp h
    cases h
    simp [statusCodes, Response.statusCodes]
  · obtain ⟨_, _, h⟩ := Except.bind_eq_ok_iff.mp h
    cases h
    simp [statusCodes, Response.statusCodes]
  · obtain ⟨_, _, h⟩ := Except.bind_eq_ok_iff.mp h
    obtain ⟨_, _, h⟩ := Except.bind_eq_ok_iff.mp h
    cases h
    simp [statusCodes]
  · cases h

lemma Block.statusCodes_afterTests (header : Header) (left : Nat) (read : List TestEntry) :
    (afterTests header left read).statusCodes = read.map (·.statusCode) := by
  rw [afterTests]
  split_ifs <;> rfl

lemma Block.statusCodes_afterSubtasks {header : Header} {listed : List TestEntry} {left : Nat}
    {read : List SubtaskEntry} {response : Option Response} {next : Block}
    (h : afterSubtasks header listed left read = (response, next)) :
    (∀ code ∈ next.statusCodes, code ∈ listed.map (·.statusCode)) ∧
      ∀ r ∈ response, ∀ code ∈ r.statusCodes, code ∈ listed.map (·.statusCode) := by
  rw [afterSubtasks] at h
  split_ifs at h <;> cases h <;> simp [statusCodes, Response.statusCodes]

/-- What one more line brings: every status code, of the message that it completes and of the one
that goes on, was there before or is a token. -/
lemma Block.isToken_of_feed {line : String} {block next : Block} {response : Option Response}
    (hblock : ∀ code ∈ block.statusCodes, IsToken code)
    (h : block.feed line = .ok (response, next)) :
    (∀ code ∈ next.statusCodes, IsToken code) ∧
      ∀ r ∈ response, ∀ code ∈ r.statusCodes, IsToken code := by
  cases block with
  | idle =>
    obtain ⟨hnext, hresponse⟩ := statusCodes_of_start h
    refine ⟨by simp [hnext], fun r hr => ?_⟩
    simp [hresponse r hr]
  | testCount header =>
    obtain ⟨_, _, h⟩ := Except.bind_eq_ok_iff.mp h
    cases h
    simp [statusCodes_afterTests]
  | tests header left read =>
    obtain ⟨entry, hentry, h⟩ := Except.bind_eq_ok_iff.mp h
    cases h
    have hread : ∀ e ∈ read, IsToken e.statusCode := by simpa [statusCodes] using hblock
    simpa [statusCodes_afterTests, or_imp, forall_and] using
      ⟨hread, TestEntry.isToken_of_parse hentry⟩
  | subtaskCount header listed =>
    obtain ⟨_, _, h⟩ := Except.bind_eq_ok_iff.mp h
    obtain ⟨hnext, hresponse⟩ := statusCodes_afterSubtasks (Except.ok.inj h)
    exact ⟨fun code hcode => hblock code (hnext code hcode),
      fun r hr code hcode => hblock code (hresponse r hr code hcode)⟩
  | subtasks header listed left read =>
    obtain ⟨_, _, h⟩ := Except.bind_eq_ok_iff.mp h
    obtain ⟨hnext, hresponse⟩ := statusCodes_afterSubtasks (Except.ok.inj h)
    exact ⟨fun code hcode => hblock code (hnext code hcode),
      fun r hr code hcode => hblock code (hresponse r hr code hcode)⟩

/-- What every line that is read keeps of a block, and brings about for the messages that it
completes, holds of all messages of a stream. -/
lemma Transcript.forall_mem_responses {P : Block → Prop} {Q : Response → Prop}
    (hfeed : ∀ {block next : Block} {line : String} {response : Option Response}, P block →
      block.feed line = .ok (response, next) → P next ∧ ∀ r ∈ response, Q r)
    {block : Block} (hblock : P block) (lines : List Line) :
    ∀ r ∈ (ofLines block lines).responses, Q r := by
  intro r hr
  induction lines generalizing block with
  | nil => cases hr
  | cons line lines ih =>
    cases hline : block.feedLine line with
    | error fault =>
      rw [ofLines, hline] at hr
      cases hr
    | ok read =>
      obtain ⟨response, next⟩ := read
      have hstep : P next ∧ ∀ r ∈ response, Q r := by
        rw [Block.feedLine] at hline
        split at hline
        · cases hline
        · exact hfeed hblock hline
      rw [ofLines_cons_ok hline] at hr
      rcases List.mem_append.mp hr with hr | hr
      · exact hstep.2 r (by simpa using hr)
      · exact ih hstep.1 hr

/-- Every status code of a message that was read is a token. -/
lemma Transcript.isToken_of_mem_responses {block : Block} {lines : List Line}
    (hblock : ∀ code ∈ block.statusCodes, IsToken code) {r : Response}
    (hr : r ∈ (ofLines block lines).responses) {code : String} (hcode : code ∈ r.statusCodes) :
    IsToken code :=
  -- the invariant is about the codes of the message that is being read
  forall_mem_responses (P := fun block => ∀ code ∈ block.statusCodes, IsToken code)
    (Q := fun r => ∀ code ∈ r.statusCodes, IsToken code)
    Block.isToken_of_feed hblock lines r hr code hcode

/-! ### The round trip -/

/-- A judge log is valid when no status code holds a blank. -/
lemma JudgeLog.validate_eq_ok_iff {log : JudgeLog} :
    log.validate = .ok () ↔ ∀ entry ∈ log.tests, IsSolid entry.statusCode := by
  rw [validate, List.forM_eq_ok_iff]
  simp only [checkStatusCode_eq_ok_iff]

lemma isToken_of_validate {r : Response}
    (h : ∀ score full log, r = .finish score full log → log.validate = .ok ()) :
    ∀ code ∈ r.statusCodes, IsToken code := by
  cases r with
  | finish score full log =>
    intro code hcode
    obtain ⟨entry, hentry, rfl⟩ := List.mem_map.mp hcode
    exact (JudgeLog.validate_eq_ok_iff.mp (h score full log rfl) entry hentry).isToken
  | _ => simp [Response.statusCodes]

/-- Messages that are written one after the other are read back, but for what does not travel, and
the stream ends cleanly, exactly when all status codes are tokens; those of judge logs that are
valid always are. -/
theorem decode_render_iff (rs : List Response) (hwf : ∀ r ∈ rs, r.WellFormed) :
    (Transcript.decode (Utf8.encode (String.join (rs.map Response.render))) =
        ⟨rs.map Response.travelled, none⟩ ↔
      ∀ r ∈ rs, ∀ code ∈ r.statusCodes, code ≠ "" ∧ ∀ c ∈ code.toList, isSeparator c = false) ∧
    ((∀ r ∈ rs, ∀ score full log, r = .finish score full log → log.validate = .ok ()) →
      Transcript.decode (Utf8.encode (String.join (rs.map Response.render))) =
        ⟨rs.map Response.travelled, none⟩) := by
  refine ⟨⟨fun h r hr code hcode => ?_, Transcript.decode_join_render hwf⟩, fun hvalid => ?_⟩
  · -- only tokens can be read, so reading back what was written forces them
    have hread : r.travelled ∈ (Transcript.decode
        (Utf8.encode (String.join (rs.map Response.render)))).responses := by
      rw [h]
      exact List.mem_map_of_mem hr
    exact Transcript.isToken_of_mem_responses (by simp [Block.statusCodes]) hread
      (by simpa using hcode)
  · exact Transcript.decode_join_render hwf fun r hr => isToken_of_validate (hvalid r hr)

/-- A status code may hold blanks that separate nothing, such as U+00A0 and the vertical tab. -/
theorem decode_render_noBreakSpace :
    let rs : List Response := [.test 1 true, .liveScore 33,
      .finish 40 false
        { name := "main"
          tests :=
            [⟨1, "\u00a0OK\x0b", .accepted, 5, some 1⟩, ⟨4294967295, "WA", .rejected, 7, none⟩]
          subtasks := [⟨1, 40, 1⟩] },
      .test 2 false]
    (∀ r ∈ rs, r.WellFormed) ∧
      Transcript.decode (Utf8.encode (String.join (rs.map Response.render))) =
        ⟨rs.map Response.travelled, none⟩ := by
  intro rs
  have hwf : ∀ r ∈ rs, r.WellFormed := by
    simp only [rs, List.forall_mem_cons, Response.WellFormed, true_and]
    exact ⟨⟨by decide, by decide, by decide, by decide⟩, by simp⟩
  have hcodes : ∀ r ∈ rs, ∀ code ∈ r.statusCodes, IsToken code := by decide
  exact ⟨hwf, (decode_render_iff rs hwf).1.mpr hcodes⟩

end Jury.Control
