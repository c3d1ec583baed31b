import Jury.Proofs.Control.RoundTrip
import Jury.Proofs.Text.Decoding

/-!
# Messages that are cut off

A final message that is cut off anywhere before its end is at fault, and nothing is read from it
(`decode_torn`). The cut leaves whole lines of the message, which are read as in the whole message
and open a block, and a part of the next line, which cannot close the block.
-/

namespace Jury.Control

open Jury.Text (trim fields IsToken IsSolid)

/-! ### Blocks that stay open -/

namespace Block

lemma ne_idle_of_start {line : String} {next : Block} (h : start line = .ok (none, next)) :
    next ≠ idle := by
  rw [start] at h
  split at h
  · obtain ⟨_, _, h⟩ := Except.bind_eq_ok_iff.mp h
    obtain ⟨_, _, h⟩ := Except.bind_eq_ok_iff.mp h
    cases h
  · obtain ⟨_, _, h⟩ := Except.bind_eq_ok_iff.mp h
    cases h
  · obtain ⟨_, _, h⟩ := Except.bind_eq_ok_iff.mp h
    obtain ⟨_, _, h⟩ := Except.bind_eq_ok_iff.mp h
    cases h
    exact Block.noConfusion
  · cases h

lemma afterTests_ne_idle (header : Header) (left : Nat) (read : List TestEntry) :
    afterTests header left read ≠ idle := by
  rw [afterTests]
  split_ifs <;> exact Block.noConfusion

lemma ne_idle_of_afterSubtasks {header : Header} {listed : List TestEntry} {left : Nat}
    {read : List SubtaskEntry} {next : Block}
    (h : afterSubtasks header listed left read = (none, next)) : next ≠ idle := by
  rw [afterSubtasks] at h
  split_ifs at h
  · cases h
  · cases h
    exact Block.noConfusion

/-- A line that completes no message leaves a block open. -/
lemma ne_idle_of_feed {block next : Block} {line : String}
    (h : block.feed line = .ok (none, next)) : next ≠ idle := by
  cases block with
  | idle => exact ne_idle_of_start h
  | testCount header =>
    obtain ⟨_, _, h⟩ := Except.bind_eq_ok_iff.mp h
    cases h
    exact afterTests_ne_idle _ _ _
  | tests header left read =>
    obtain ⟨_, _, h⟩ := Except.bind_eq_ok_iff.mp h
    cases h
    exact afterTests_ne_idle _ _ _
  | subtaskCount header listed =>
    obtain ⟨_, _, h⟩ := Except.bind_eq_ok_iff.mp h
    exact ne_idle_of_afterSubtasks (Except.ok.inj h)
  | subtasks header listed left read =>
    obtain ⟨_, _, h⟩ := Except.bind_eq_ok_iff.mp h
    exact ne_idle_of_afterSubtasks (Except.ok.inj h)

lemma exists_endFault {block : Block} (h : block ≠ idle) :
    ∃ fault, block.endFault? = some fault := by
  cases block with
  | idle => exact absurd rfl h
  | _ => exact ⟨_, rfl⟩

end Block

/-! ### Reading a stream in two parts -/

namespace Transcript

@[simp] lemma after_nil (t : Transcript) : t.after [] = t := rfl

lemma after_after (t : Transcript) (rs rs' : List Response) :
    (t.after rs').after rs = t.after (rs ++ rs') := by
  simp [after]

/-- A stream that ends cleanly has a message in it, unless it is empty and no block was open. -/
lemma responses_ne_nil {block : Block} {lines : List Line}
    (hend : (ofLines block lines).fault = none) (h : block ≠ .idle ∨ lines ≠ []) :
    (ofLines block lines).responses ≠ [] := by
  induction lines generalizing block with
  | nil =>
    obtain ⟨fault, hfault⟩ := Block.exists_endFault (h.resolve_right (fun h => h rfl))
    rw [ofLines, hfault] at hend
    cases hend
  | cons line lines ih =>
    cases hfeed : block.feedLine line with
    | error fault =>
      rw [ofLines, hfeed] at hend
      cases hend
    | ok read =>
      obtain ⟨response, next⟩ := read
      rw [ofLines_cons_ok hfeed] at hend ⊢
      cases response with
      | some response => exact List.cons_ne_nil _ _
      | none =>
        have hnext : next ≠ .idle := by
          rw [Block.feedLine] at hfeed
          split at hfeed
          · cases hfeed
          · exact Block.ne_idle_of_feed hfeed
        exact ih hend (.inl hnext)

/-- Where a stream ends cleanly, its first line is read. -/
lemma exists_feed_eq_ok {block : Block} {text : String} {lines : List Line}
    (hend : (ofLines block (⟨some text, 0⟩ :: lines)).fault = none) :
    ∃ read, block.feed text = .ok read := by
  cases hfeed : block.feed text with
  | ok read => exact ⟨read, rfl⟩
  | error fault =>
    have hline : block.feedLine ⟨some text, 0⟩ = .error fault := hfeed
    rw [ofLines, hline] at hend
    cases hend

/-- A stream that ends cleanly is read up to any line of it, whatever comes then. -/
lemma exists_block_of_fault_eq_none {block : Block} {texts : List String} {lines : List Line}
    (hend : (ofLines block (told texts ++ lines)).fault = none) :
    ∃ rs next, (texts = [] → next = block) ∧
      ∀ rest, ofLines block (told texts ++ rest) = (ofLines next rest).after rs := by
  induction texts generalizing block with
  | nil => exact ⟨[], block, fun _ => rfl, fun _ => rfl⟩
  | cons text texts ih =>
    obtain ⟨read, hfeed⟩ := exists_feed_eq_ok hend
    rw [ofLines_told_cons hfeed] at hend
    obtain ⟨rs, next, -, hrest⟩ := ih hend
    refine ⟨read.1.toList ++ rs, next, fun h => absurd h (List.cons_ne_nil _ _), fun rest => ?_⟩
    rw [ofLines_told_cons hfeed, hrest, after_after]

/-- In a message that is read from its lines, the lines before the last open a block that the rest
closes. -/
lemma exists_block_of_lines {texts rest : List String} {r : Response}
    (hread : ofLines .idle (told (texts ++ rest)) = ⟨[r], none⟩) (hrest : rest ≠ []) :
    ∃ block, (texts = [] ↔ block = .idle) ∧
      (∀ lines, ofLines .idle (told texts ++ lines) = ofLines block lines) ∧
      ofLines block (told rest) = ⟨[r], none⟩ := by
  have htold : told (texts ++ rest) = told texts ++ told rest := List.map_append
  rw [htold] at hread
  obtain ⟨rs, block, hidle, hblock⟩ :=
    exists_block_of_fault_eq_none (congrArg Transcript.fault hread)
  rw [hblock] at hread
  have hend : (ofLines block (told rest)).fault = none := congrArg Transcript.fault hread
  have hresponses : rs ++ (ofLines block (told rest)).responses = [r] :=
    congrArg Transcript.responses hread
  have hsome : (ofLines block (told rest)).responses ≠ [] :=
    responses_ne_nil hend (.inr (List.map_eq_nil_iff.not.mpr hrest))
  -- the one message is not among the lines before, for the rest has one too
  obtain rfl : rs = [] := by
    cases rs with
    | nil => rfl
    | cons r' rs =>
      rw [List.cons_append] at hresponses
      exact absurd (List.append_eq_nil_iff.mp (List.cons.inj hresponses).2).2 hsome
  refine ⟨block, ⟨hidle, ?_⟩, hblock, hread⟩
  rintro rfl
  by_contra htexts
  have hbefore : ofLines .idle (told texts) = ⟨[], none⟩ := by
    simpa [ofLines, Block.endFault?, Block.expected?] using hblock []
  refine responses_ne_nil (congrArg Transcript.fault hbefore) (.inr ?_)
    (congrArg Transcript.responses hbefore)
  exact List.map_eq_nil_iff.not.mpr htexts

end Transcript

/-! ### Where a text is cut -/

/-- What is cut off from a text of lines is whole lines and a part of the next one. -/
lemma exists_cut {lines : List String} {p : List UInt8}
    (hp : p <+: Utf8.encode (unlines lines))
    (hshort : p.length < (Utf8.encode (unlines lines)).length) :
    ∃ before line behind cut, lines = before ++ line :: behind ∧
      p = Utf8.encode (unlines before) ++ cut ∧ cut <+: Utf8.encode line := by
  induction lines generalizing p with
  | nil => exact absurd hshort (Nat.not_lt_zero _)
  | cons line lines ih =>
    rw [unlines_cons, Utf8.encode_append] at hp hshort
    rcases Nat.lt_or_ge p.length (Utf8.encode (line ++ "\n")).length with hin | hbeyond
    · have hcut : p <+: Utf8.encode (line ++ "\n") :=
        List.prefix_of_prefix_length_le hp (List.prefix_append _ _) (Nat.le_of_lt hin)
      rw [Utf8.encode_append_lf] at hcut hin
      refine ⟨[], line, lines, p, rfl, rfl, ?_⟩
      rcases List.prefix_concat_iff.mp hcut with rfl | hcut
      · exact absurd hin (Nat.lt_irrefl _)
      · exact hcut
    · obtain ⟨rest, rfl⟩ := List.prefix_of_prefix_length_le (List.prefix_append _ _) hp hbeyond
      obtain ⟨before, line', behind, cut, rfl, rfl, hcut⟩ :=
        ih ((List.prefix_append_right_inj _).mp hp) (by simpa using hshort)
      refine ⟨line :: before, line', behind, cut, rfl, ?_, hcut⟩
      rw [unlines_cons, Utf8.encode_append (line ++ "\n"), List.append_assoc]

/-- A line begins with a character that is not blank. -/
lemma IsLine.isBlank_head {line : String} (h : IsLine line) {c : Char} {cs : List Char}
    (hline : line.toList = c :: cs) : Text.isBlank c = false := by
  by_contra hblank
  have htrimmed := congrArg (fun s => s.toList.length) h.trimmed
  simp only [trim, Text.trimChars, hline, List.dropWhile_cons, eq_true_of_ne_false hblank, if_true,
    String.toList_ofList, List.length_reverse, List.length_cons] at htrimmed
  have hback := (List.dropWhile_sublist Text.isBlank
    (l := (cs.dropWhile Text.isBlank).reverse)).length_le
  have hfront := (List.dropWhile_sublist Text.isBlank (l := cs)).length_le
  rw [List.length_reverse] at hback
  omega

/-- What is cut off from a line is read as one line, with a text that the line begins with or with
none. -/
lemma Line.all_cut {line : String} (hline : IsLine line) {cut : List UInt8}
    (hcut : cut <+: Utf8.encode line) (hne : cut ≠ []) :
    (∃ size, all cut = [⟨none, size⟩]) ∨
      ∃ text size, cut = Utf8.encode text ∧ text.toList <+: line.toList ∧
        all cut = [⟨some (trim text), size⟩] := by
  have hlf : 0x0A ∉ cut := fun h => lf_notMem_encode hline.unbroken (hcut.subset h)
  have hall : all cut = (ofBytes? (0 + cut.length) cut).toList := by
    have happend := allFrom_append 0 [] hlf []
    rw [List.append_nil, List.append_nil] at happend
    simp [all, happend, allFrom, hne]
  rw [hall, ofBytes?]
  cases hdecode : Utf8.decode? cut with
  | none => exact .inl ⟨_, rfl⟩
  | some text =>
    obtain rfl := Utf8.decode?_eq_some_iff.mp hdecode
    have hfront := Utf8.toList_isPrefix hcut
    have hsolid : ¬ text.toList.all Text.isBlank = true := by
      cases htext : text.toList with
      | nil => exact absurd (by simp [Utf8.encode, htext]) hne
      | cons c cs =>
        obtain ⟨rest, hrest⟩ := hfront
        rw [htext] at hrest
        simp [hline.isBlank_head hrest.symm]
    refine .inr ⟨text, 0 + (Utf8.encode text).length, rfl, hfront, ?_⟩
    simp only [if_neg hsolid, Option.toList_some]

/-! ### What a cut line completes -/

/-- The lines of a final message after the first. -/
lemma cases_of_mem_logLines {log : JudgeLog} {line : String}
    (h : line ∈ rowLines TestEntry.words log.tests ++ rowLines SubtaskEntry.words log.subtasks) :
    (∃ n : Nat, line = toString n) ∨ (∃ entry ∈ log.tests, line = spaced entry.words) ∨
      ∃ entry ∈ log.subtasks, line = spaced entry.words := by
  simp only [rowLines, List.mem_append, List.mem_cons, List.mem_map] at h
  rcases h with (rfl | ⟨entry, hentry, rfl⟩) | rfl | ⟨entry, hentry, rfl⟩
  · exact .inl ⟨_, rfl⟩
  · exact .inr (.inl ⟨entry, hentry, rfl⟩)
  · exact .inl ⟨_, rfl⟩
  · exact .inr (.inr ⟨entry, hentry, rfl⟩)

namespace SubtaskEntry

lemma length_fields_of_parse {line : String} {entry : SubtaskEntry}
    (h : parse line = .ok entry) : (fields line).length = 3 := by
  rw [parse] at h
  split at h
  · next hfields => rw [hfields]; rfl
  · cases h

/-- A subtask has one declared part, so the last word of its entry is a single digit. -/
lemma exists_toString_parts {entry : SubtaskEntry}
    (h : PartKind.subtask.declares entry.parts = true) :
    ∃ c, (toString entry.parts).toList = [c] := by
  have hle : entry.parts.toNat ≤ 1 := UInt32.le_iff_toNat_le.mp (PartKind.le_allBits h)
  have hcs : (toString entry.parts).toList = Nat.toDigits 10 entry.parts.toNat := Nat.toList_repr
  exact ⟨_, hcs.trans (Nat.toDigits_of_lt_base (by omega))⟩

/-- Cut off, an entry has lost its last field. -/
lemma length_fields_le_two {entry : SubtaskEntry}
    (hparts : PartKind.subtask.declares entry.parts = true) {text : String}
    (hfront : text.toList <+: (spaced entry.words).toList) (hcut : text ≠ spaced entry.words) :
    (fields text).length ≤ 2 := by
  obtain ⟨c, hc⟩ := exists_toString_parts hparts
  have hspaced : spaced entry.words =
      toString entry.subtask ++ " " ++ (toString entry.score ++ " " ++ "") ++
        toString entry.parts := by
    simp [words, spaced, String.intercalate_cons_cons, String.append_assoc]
  have hrest : fields (toString entry.subtask ++ " " ++ (toString entry.score ++ " " ++ "")) =
      [toString entry.subtask, toString entry.score] := by
    rw [Text.fields_append_space (isSolid_toString_word _).isToken,
      Text.fields_append_space (isSolid_toString_word _).isToken]
    rfl
  have hwhole : text.toList ≠ (spaced entry.words).toList :=
    fun h => hcut (String.toList_injective h)
  rw [hspaced, String.toList_append, hc] at hfront hwhole
  have hbefore := (List.prefix_concat_iff.mp hfront).resolve_left hwhole
  have hle := Text.length_fields_le_of_infix hbefore.isInfix
  rwa [hrest] at hle

end SubtaskEntry

namespace Block

/-- Neither a request nor a live score is read from a line without an R. -/
lemma start_ne_some {line : String} (h : 'R' ∉ line.toList) {response : Response} {next : Block} :
    start line ≠ .ok (some response, next) := by
  have hword : ∀ word ∈ fields line, 'R' ∉ word.toList :=
    fun word hmem hr => h (Text.mem_toList_of_mem_fields hmem hr)
  intro hstart
  rw [start] at hstart
  split at hstart
  · next hfields => exact hword "RUN" (by simp [hfields]) (by decide)
  · next hfields => exact hword "LIVE-SCORE" (by simp [hfields]) (by decide)
  · obtain ⟨_, _, h⟩ := Except.bind_eq_ok_iff.mp hstart
    obtain ⟨_, _, h⟩ := Except.bind_eq_ok_iff.mp h
    cases h
  · cases hstart

/-- A number of subtask entries that completes a message is zero. -/
lemma eq_zero_of_feed_subtaskCount {header : Header} {listed : List TestEntry} {line : String}
    {response : Response} {next : Block}
    (h : (subtaskCount header listed).feed line = .ok (some response, next)) :
    Text.unsigned? UInt64.size (trim line) = some 0 := by
  obtain ⟨count, hcount, h⟩ := Except.bind_eq_ok_iff.mp h
  rw [numberField] at hcount
  split at hcount
  · next n hn =>
    cases hcount
    rw [hn]
    have hafter := Except.ok.inj h
    rw [afterSubtasks] at hafter
    split_ifs at hafter with hzero
    · rw [hzero]
    · cases hafter
  · cases hcount

/-- A subtask entry that completes a message has three fields, and no other is to come. -/
lemma eq_zero_of_feed_subtasks {header : Header} {listed : List TestEntry} {left : Nat}
    {read : List SubtaskEntry} {line : String} {response : Response} {next : Block}
    (h : (subtasks header listed left read).feed line = .ok (some response, next)) :
    left - 1 = 0 ∧ (fields line).length = 3 := by
  obtain ⟨entry, hentry, h⟩ := Except.bind_eq_ok_iff.mp h
  constructor
  · have hafter := Except.ok.inj h
    rw [afterSubtasks] at hafter
    split_ifs at hafter with hzero
    · exact hzero
    · cases hafter
  · exact SubtaskEntry.length_fields_of_parse hentry

end Block

namespace Transcript

/-- A line that completes the only message is the last one. -/
lemma eq_nil_of_feed {block next : Block} {line : String} {behind : List String}
    {r response : Response} (hread : ofLines block (told (line :: behind)) = ⟨[r], none⟩)
    (hfeed : block.feed line = .ok (some response, next)) : behind = [] := by
  have hrest := ofLines_told_cons hfeed behind []
  rw [List.append_nil, List.append_nil, hread] at hrest
  have hresponses : [r] = response :: (ofLines next (told behind)).responses :=
    congrArg Transcript.responses hrest
  by_contra hne
  refine responses_ne_nil (congrArg Transcript.fault hrest).symm (.inr ?_)
    (List.cons.inj hresponses).2.symm
  exact List.map_eq_nil_iff.not.mpr hne

end Transcript

lemma space_mem_spaced (first second : String) (words : List String) :
    ' ' ∈ (spaced (first :: second :: words)).toList := by
  simp [spaced, String.intercalate_cons_cons]

section

variable {score : UInt32} {full : Bool} {log : JudgeLog} {block next : Block}
variable {line text : String} {behind : List String} {r response : Response}

/-- What a message has for the number of its subtask entries is a written number. -/
lemma exists_toString_of_feed_subtaskCount {header : Header} {listed : List TestEntry}
    {read : Option Response × Block}
    (hline : line ∈ rowLines TestEntry.words log.tests ++ rowLines SubtaskEntry.words log.subtasks)
    (hkept : IsLine line) (hfeed : (Block.subtaskCount header listed).feed line = .ok read) :
    ∃ n : Nat, line = toString n := by
  obtain ⟨count, hcount, -⟩ := Except.bind_eq_ok_iff.mp hfeed
  rw [numberField, hkept.trimmed] at hcount
  split at hcount
  · next hnumber =>
    have hspace : ' ' ∉ line.toList := by
      intro hmem
      exact absurd (Text.isDigit_of_mem_of_unsigned? hnumber hmem) (by decide)
    rcases cases_of_mem_logLines hline with hn | ⟨entry, -, rfl⟩ | ⟨entry, -, rfl⟩
    · exact hn
    · exact absurd (space_mem_spaced _ _ _) hspace
    · exact absurd (space_mem_spaced _ _ _) hspace
  · cases hcount

/-- The beginning of the number of subtask entries does not complete the message. -/
lemma feed_subtaskCount_ne_some {header : Header} {listed : List TestEntry}
    (hread : Transcript.ofLines (.subtaskCount header listed) (told (line :: behind)) =
      ⟨[r], none⟩)
    (hline : line ∈ rowLines TestEntry.words log.tests ++ rowLines SubtaskEntry.words log.subtasks)
    (hkept : IsLine line) (hne : text ≠ "") (hfront : text.toList <+: line.toList)
    (hcut : behind = [] → text ≠ line) :
    (Block.subtaskCount header listed).feed (trim text) ≠ .ok (some response, next) := by
  intro hfeed
  obtain ⟨read, hok⟩ := Transcript.exists_feed_eq_ok (congrArg Transcript.fault hread)
  obtain ⟨n, hn⟩ := exists_toString_of_feed_subtaskCount hline hkept hok
  have hsolid : IsSolid text := by
    refine ⟨hne, fun c hc => (Text.isSolid_toString n).2 c ?_⟩
    rw [← hn]
    exact hfront.subset hc
  rw [Text.trim_solid hsolid] at hfeed
  have hcount := Block.eq_zero_of_feed_subtaskCount hfeed
  rw [Text.trim_solid hsolid] at hcount
  have hzero : n = 0 := Text.eq_zero_of_isPrefix hne (hn ▸ hfront) hcount
  have hwhole : text = line := by
    have hlength : line.toList.length = 1 := by
      rw [hn, hzero]
      rfl
    have hpos := List.length_pos_iff.mpr (String.toList_eq_nil_iff.not.mpr hne)
    exact String.toList_injective (hfront.eq_of_length_le (by omega))
  rw [hwhole] at hfeed
  exact hcut (Transcript.eq_nil_of_feed hread hfeed) hwhole

/-- The beginning of the last subtask entry does not complete the message. -/
lemma feed_subtasks_ne_some {header : Header} {listed : List TestEntry} {left : Nat}
    {read : List SubtaskEntry}
    (hread : Transcript.ofLines (.subtasks header listed left read) (told (line :: behind)) =
      ⟨[r], none⟩)
    (hline : line ∈ rowLines TestEntry.words log.tests ++ rowLines SubtaskEntry.words log.subtasks)
    (hcodes : ∀ entry ∈ log.tests, IsToken entry.statusCode)
    (hparts : ∀ entry ∈ log.subtasks, PartKind.subtask.declares entry.parts = true)
    (hfront : text.toList <+: line.toList) (hcut : behind = [] → text ≠ line) :
    (Block.subtasks header listed left read).feed (trim text) ≠ .ok (some response, next) := by
  intro hfeed
  obtain ⟨hleft, hthree⟩ := Block.eq_zero_of_feed_subtasks hfeed
  obtain ⟨answer, hok⟩ := Transcript.exists_feed_eq_ok (congrArg Transcript.fault hread)
  obtain ⟨entry, hentry, hok⟩ := Except.bind_eq_ok_iff.mp hok
  have hlast : behind = [] := by
    have hwhole : (Block.subtasks header listed left read).feed line = .ok
        (some (.finish header.score header.full { tests := listed, subtasks := read ++ [entry] }),
          .idle) := by
      rw [Block.feed, hentry, hleft]
      rfl
    exact Transcript.eq_nil_of_feed hread hwhole
  have hfields : (fields line).length = 3 := SubtaskEntry.length_fields_of_parse hentry
  rcases cases_of_mem_logLines hline with ⟨n, rfl⟩ | ⟨entry, hmem, rfl⟩ | ⟨entry, hmem, rfl⟩
  · rw [Text.fields_token (Text.isSolid_toString n).isToken] at hfields
    cases hfields
  · rw [TestEntry.fields_words (hcodes entry hmem)] at hfields
    cases hfields
  · have hle := SubtaskEntry.length_fields_le_two (hparts entry hmem) hfront (hcut hlast)
    have htrim := Text.length_fields_le_of_infix (Text.toList_trim_isInfix text)
    omega

/-- The first line of a final message is no request and no live score, cut off or not. -/
lemma R_notMem_header (score : UInt32) (full : Bool) :
    'R' ∉ (spaced ["DONE", toString score, renderFlag full]).toList := by
  have hscore : 'R' ∉ (toString score).toList := by
    intro hmem
    exact absurd (Text.isDigit_of_mem_toString (n := score.toNat) hmem) (by decide)
  have hfull : 'R' ∉ (renderFlag full).toList := by cases full <;> decide
  simp [spaced, String.intercalate_cons_cons, hscore, hfull]

/-- The beginning of a line does not complete the message. -/
lemma feed_cut_ne_some {score : UInt32} {full : Bool} {before : List String}
    (hwf : log.WellFormed) (hcodes : ∀ entry ∈ log.tests, IsToken entry.statusCode)
    (hsplit : (Response.finish score full log).lines = before ++ line :: behind)
    (hidle : before = [] ↔ block = .idle)
    (hread : Transcript.ofLines block (told (line :: behind)) = ⟨[r], none⟩)
    (hkept : IsLine line) (hne : text ≠ "") (hfront : text.toList <+: line.toList)
    (hcut : behind = [] → text ≠ line) :
    block.feed (trim text) ≠ .ok (some response, next) := by
  cases before with
  | nil =>
    obtain rfl := hidle.mp rfl
    obtain ⟨rfl, -⟩ := List.cons.inj hsplit
    rw [Block.feed]
    apply Block.start_ne_some
    intro hmem
    exact R_notMem_header score full
      (hfront.subset ((Text.toList_trim_isInfix text).subset hmem))
  | cons header before =>
    have hline : line ∈
        rowLines TestEntry.words log.tests ++ rowLines SubtaskEntry.words log.subtasks := by
      rw [(List.cons.inj hsplit).2]
      simp
    cases block with
    | idle => exact absurd (hidle.mpr rfl) (List.cons_ne_nil _ _)
    | testCount header =>
      intro hfeed
      obtain ⟨_, _, hfeed⟩ := Except.bind_eq_ok_iff.mp hfeed
      cases hfeed
    | tests header left read =>
      intro hfeed
      obtain ⟨_, _, hfeed⟩ := Except.bind_eq_ok_iff.mp hfeed
      cases hfeed
    | subtaskCount header listed =>
      exact feed_subtaskCount_ne_some hread hline hkept hne hfront hcut
    | subtasks header listed left read =>
      exact feed_subtasks_ne_some hread hline hcodes hwf.subtasks_declared hfront hcut

end

/-! ### Torn messages -/

/-- A line that is cut off leaves the stream at fault, and so does no line at all. -/
lemma Transcript.ofLines_cut {block : Block} {line : String} {cut : List UInt8}
    (hline : IsLine line) (hcut : cut <+: Utf8.encode line) (hopen : cut = [] → block ≠ .idle)
    (hfeed : ∀ text, cut = Utf8.encode text → text.toList <+: line.toList → text ≠ "" →
      ∀ response next, block.feed (trim text) ≠ .ok (some response, next)) :
    ∃ fault, ofLines block (Line.all cut) = ⟨[], some fault⟩ := by
  by_cases hempty : cut = []
  · obtain ⟨fault, hfault⟩ := Block.exists_endFault (hopen hempty)
    refine ⟨fault, ?_⟩
    rw [hempty, ← hfault]
    rfl
  rcases Line.all_cut hline hcut hempty with ⟨size, hall⟩ | ⟨text, size, rfl, hfront, hall⟩
  · exact ⟨_, by rw [hall]; rfl⟩
  have hne : text ≠ "" := by
    rintro rfl
    exact hempty rfl
  rw [hall]
  cases hread : block.feedLine ⟨some (trim text), size⟩ with
  | error fault => exact ⟨fault, by rw [ofLines, hread]⟩
  | ok read =>
    obtain ⟨completed, next⟩ := read
    cases completed with
    | none =>
      obtain ⟨fault, hfault⟩ := Block.exists_endFault (Block.ne_idle_of_feed hread)
      refine ⟨fault, ?_⟩
      rw [ofLines_cons_ok hread, ← hfault]
      rfl
    | some response => exact absurd hread (hfeed text rfl hfront hne response next)

/-- **Torn messages.** A final message whose bytes are cut off anywhere before its last line feed,
be it in the middle of a number or of a character, is at fault and yields no message. -/
theorem decode_torn {score : UInt32} {full : Bool} {log : JudgeLog} (hwf : log.WellFormed)
    (hcodes : ∀ entry ∈ log.tests, IsToken entry.statusCode) {p : List UInt8}
    (hp : p <+: Utf8.encode (Response.finish score full log).render) (hne : p ≠ [])
    (hshort : p.length + 1 < (Utf8.encode (Response.finish score full log).render).length) :
    ∃ fault, Transcript.decode p = ⟨[], some fault⟩ := by
  have htokens : ∀ code ∈ (Response.finish score full log).statusCodes, IsToken code := by
    simpa [Response.statusCodes] using hcodes
  have hlines : ∀ line ∈ (Response.finish score full log).lines, IsLine line :=
    fun _ => Response.isLine_of_mem_lines htokens
  have hwhole := Transcript.ofLines_lines (r := .finish score full log) hwf htokens []
  rw [Response.render_eq_unlines] at hp hshort
  obtain ⟨before, line, behind, cut, hsplit, rfl, hcut⟩ := exists_cut hp (by omega)
  rw [hsplit] at hlines hwhole hshort
  rw [List.append_nil] at hwhole
  -- the whole lines before the cut are read as in the whole message
  obtain ⟨block, hidle, hblock, hread⟩ :=
    Transcript.exists_block_of_lines hwhole (List.cons_ne_nil line behind)
  have hdecode : Transcript.decode (Utf8.encode (unlines before) ++ cut) =
      Transcript.ofLines block (Line.all cut) := by
    rw [← hblock]
    apply Transcript.ofLines_congr
    rw [Line.all_encode_unlines fun line hmem => hlines line (List.mem_append_left _ hmem)]
    simp [told]
  rw [hdecode]
  have hkept := hlines line (by simp)
  apply Transcript.ofLines_cut hkept hcut
  · rintro rfl hblock
    obtain rfl := hidle.mpr hblock
    exact hne rfl
  · rintro text rfl hfront hsolid response next
    apply feed_cut_ne_some hwf hcodes hsplit hidle hread hkept hsolid hfront
    rintro rfl rfl
    rw [unlines_append, unlines_cons, unlines_nil, Utf8.encode_append, String.append_empty,
      Utf8.encode_append_lf] at hshort
    simp [Nat.add_assoc] at hshort

/-- A message that is cut off between the two bytes of a character. -/
theorem decode_torn_insideCharacter :
    let log : JudgeLog := { tests := [⟨1, "né", .accepted, 1, none⟩], subtasks := [⟨1, 40, 1⟩] }
    let bytes := Utf8.encode (Response.finish 40 false log).render
    log.WellFormed ∧ (∀ entry ∈ log.tests, IsToken entry.statusCode) ∧
      bytes.take 25 <+: bytes ∧ bytes.take 25 ≠ [] ∧ (bytes.take 25).length + 1 < bytes.length ∧
      Utf8.decode? (bytes.take 25) = none ∧
      ∃ fault, Transcript.decode (bytes.take 25) = ⟨[], some fault⟩ := by
  intro log bytes
  have hwf : log.WellFormed := ⟨by decide, by decide, by decide, by decide⟩
  have hcodes : ∀ entry ∈ log.tests, IsToken entry.statusCode := by decide
  have hne : bytes.take 25 ≠ [] := by decide +kernel
  have hshort : (bytes.take 25).length + 1 < bytes.length := by decide +kernel
  have htake : bytes.take 25 <+: bytes := List.take_prefix 25 bytes
  exact ⟨hwf, hcodes, htake, hne, hshort, by decide +kernel,
    decode_torn hwf hcodes htake hne hshort⟩

end Jury.Control
