import Jury.Proofs.Control.RoundTrip

/-!
# Normal forms of streams

The decoder accepts far more than is ever written: blank lines, blanks around lines and numbers,
signs, leading zeros. What it can return is less: declared parts only, tokens for status codes, no
names and no scores, and no more entries than a count can announce. So whatever was read can be
written, and is read back as it is; writing it is a normal form of the stream
(`decode_normalForm`).
-/

namespace Jury.Control

open Jury.Text (IsToken)

/-! ### Messages that can be read -/

/-- A test entry that loses nothing when it travels. -/
structure TestEntry.IsPlain (entry : TestEntry) : Prop where
  declared : PartKind.test.declares entry.parts = true
  unscored : entry.travelled = entry

/-- A message that loses nothing when it travels. -/
structure Response.IsPlain (r : Response) : Prop where
  wellFormed : r.WellFormed
  travelled_eq : r.travelled = r

/-- A row of entries of which `left` are still to come, announced by a count. -/
structure IsRow {α : Type} (P : α → Prop) (left : Nat) (read : List α) : Prop where
  counted : read.length + left < UInt64.size
  all : ∀ entry ∈ read, P entry

section

variable {α : Type} {P : α → Prop}

/-- A count announces a row of which nothing was read. -/
lemma IsRow.of_count {what item : String} {count : Nat}
    (h : numberField UInt64.size what item = .ok count) : IsRow P count [] where
  counted := by
    rw [numberField] at h
    split at h
    · next n hread =>
      cases h
      simpa using (Option.filter_eq_some_iff.mp hread).2
    · cases h
  all := by simp

/-- One of the entries to come is read. -/
lemma IsRow.concat {left : Nat} {read : List α} (h : IsRow P left read) (hleft : left ≠ 0)
    {entry : α} (hentry : P entry) : IsRow P (left - 1) (read ++ [entry]) where
  counted := by
    have := h.counted
    rw [List.length_append, List.length_singleton]
    omega
  all := by
    simp only [List.mem_append, List.mem_singleton]
    rintro e (he | rfl)
    · exact h.all e he
    · exact hentry

end

lemma partsField_declares {kind : PartKind} {fault : UInt32 → ProtocolFault} {what item : String}
    {parts : UInt32} (h : partsField kind fault what item = .ok parts) :
    kind.declares parts = true := by
  obtain ⟨parts', -, h⟩ := Except.bind_eq_ok_iff.mp h
  split at h
  · next hdeclares =>
    cases h
    exact hdeclares
  · cases h

lemma TestEntry.isPlain_of_parse {line : String} {entry : TestEntry}
    (h : TestEntry.parse line = .ok entry) : entry.IsPlain := by
  rw [parse] at h
  split at h
  · obtain ⟨_, _, h⟩ := Except.bind_eq_ok_iff.mp h
    obtain ⟨_, _, h⟩ := Except.bind_eq_ok_iff.mp h
    obtain ⟨parts, hparts, h⟩ := Except.bind_eq_ok_iff.mp h
    cases h
    exact ⟨partsField_declares hparts, rfl⟩
  · cases h

lemma SubtaskEntry.declares_of_parse {line : String} {entry : SubtaskEntry}
    (h : SubtaskEntry.parse line = .ok entry) :
    PartKind.subtask.declares entry.parts = true := by
  rw [parse] at h
  split at h
  · obtain ⟨_, _, h⟩ := Except.bind_eq_ok_iff.mp h
    obtain ⟨_, _, h⟩ := Except.bind_eq_ok_iff.mp h
    obtain ⟨parts, hparts, h⟩ := Except.bind_eq_ok_iff.mp h
    cases h
    exact partsField_declares hparts
  · cases h

/-! ### Blocks that can be read -/

namespace Block

/-- Whether what is known of an unfinished message can come from reading one. -/
def IsPlain : Block → Prop
  | tests _ left read => left ≠ 0 ∧ IsRow TestEntry.IsPlain left read
  | subtaskCount _ listed => IsRow TestEntry.IsPlain 0 listed
  | subtasks _ listed left read =>
    IsRow TestEntry.IsPlain 0 listed ∧ left ≠ 0 ∧
      IsRow (fun entry : SubtaskEntry => PartKind.subtask.declares entry.parts = true) left read
  | _ => True

lemma isPlain_afterTests {left : Nat} {read : List TestEntry}
    (h : IsRow TestEntry.IsPlain left read) (header : Header) :
    (afterTests header left read).IsPlain := by
  rw [afterTests]
  split_ifs with hleft
  · subst hleft
    exact h
  · exact ⟨hleft, h⟩

/-- When no entry is to come, the message is complete. -/
lemma isPlain_of_afterSubtasks {header : Header} {listed : List TestEntry} {left : Nat}
    {read : List SubtaskEntry} {response : Option Response} {next : Block}
    (hlisted : IsRow TestEntry.IsPlain 0 listed)
    (hread : IsRow (fun entry : SubtaskEntry => PartKind.subtask.declares entry.parts = true)
      left read)
    (h : afterSubtasks header listed left read = (response, next)) :
    next.IsPlain ∧ ∀ r ∈ response, r.IsPlain := by
  rw [afterSubtasks] at h
  split_ifs at h with hleft
  · cases h
    refine ⟨trivial, fun r hr => ?_⟩
    cases hr
    have hunscored : listed.map TestEntry.travelled = listed :=
      (List.map_congr_left fun entry hentry => (hlisted.all entry hentry).unscored).trans
        (List.map_id' listed)
    constructor
    · exact ⟨fun entry hentry => (hlisted.all entry hentry).declared, hread.all,
        hlisted.counted, Nat.lt_of_le_of_lt (Nat.le_add_right _ _) hread.counted⟩
    · rw [Response.travelled, hunscored]
  · cases h
    exact ⟨⟨hlisted, hleft, hread⟩, by simp⟩

lemma isPlain_of_start {line : String} {response : Option Response} {next : Block}
    (h : start line = .ok (response, next)) : next.IsPlain ∧ ∀ r ∈ response, r.IsPlain := by
  have hplain : ∀ r : Response, r.WellFormed → r.travelled = r →
      IsPlain idle ∧ ∀ r' ∈ some r, r'.IsPlain := by
    intro r hwf htravelled
    refine ⟨trivial, fun r' hr' => ?_⟩
    cases hr'
    exact ⟨hwf, htravelled⟩
  rw [start] at h
  split at h
  · obtain ⟨_, _, h⟩ := Except.bind_eq_ok_iff.mp h
    obtain ⟨_, _, h⟩ := Except.bind_eq_ok_iff.mp h
    cases h
    exact hplain _ trivial rfl
  · obtain ⟨_, _, h⟩ := Except.bind_eq_ok_iff.mp h
    cases h
    exact hplain _ trivial rfl
  · obtain ⟨_, _, h⟩ := Except.bind_eq_ok_iff.mp h
    obtain ⟨_, _, h⟩ := Except.bind_eq_ok_iff.mp h
    cases h
    exact ⟨trivial, by simp⟩
  · cases h

/-- One more line keeps a block plain, and completes plain messages only. -/
lemma isPlain_of_feed {block next : Block} {line : String} {response : Option Response}
    (hblock : block.IsPlain) (h : block.feed line = .ok (response, next)) :
    next.IsPlain ∧ ∀ r ∈ response, r.IsPlain := by
  cases block with
  | idle => exact isPlain_of_start h
  | testCount header =>
    obtain ⟨count, hcount, h⟩ := Except.bind_eq_ok_iff.mp h
    cases h
    exact ⟨isPlain_afterTests (.of_count hcount) header, by simp⟩
  | tests header left read =>
    obtain ⟨entry, hentry, h⟩ := Except.bind_eq_ok_iff.mp h
    cases h
    have hrow := hblock.2.concat hblock.1 (TestEntry.isPlain_of_parse hentry)
    exact ⟨isPlain_afterTests hrow header, by simp⟩
  | subtaskCount header listed =>
    obtain ⟨count, hcount, h⟩ := Except.bind_eq_ok_iff.mp h
    exact isPlain_of_afterSubtasks hblock (.of_count hcount) (Except.ok.inj h)
  | subtasks header listed left read =>
    obtain ⟨entry, hentry, h⟩ := Except.bind_eq_ok_iff.mp h
    obtain ⟨hlisted, hleft, hread⟩ := hblock
    have hrow := hread.concat hleft (SubtaskEntry.declares_of_parse hentry)
    exact isPlain_of_afterSubtasks hlisted hrow (Except.ok.inj h)

end Block

/-! ### Normal forms -/

namespace Transcript

/-- Whatever is read loses nothing when it travels again. -/
lemma isPlain_of_mem_decode {bytes : List UInt8} {r : Response}
    (hr : r ∈ (decode bytes).responses) : r.IsPlain :=
  have hidle : Block.IsPlain .idle := trivial
  forall_mem_responses Block.isPlain_of_feed hidle (Line.all bytes) r hr

lemma isToken_of_mem_decode {bytes : List UInt8} {r : Response}
    (hr : r ∈ (decode bytes).responses) : ∀ code ∈ r.statusCodes, IsToken code :=
  fun _ => isToken_of_mem_responses (by simp [Block.statusCodes]) hr

/-- Messages that were read are read back as they are, in whatever order they are written. -/
lemma decode_join_render_of_mem {rs : List Response}
    (h : ∀ r ∈ rs, ∃ bytes, r ∈ (decode bytes).responses) :
    decode (Utf8.encode (String.join (rs.map Response.render))) = ⟨rs, none⟩ := by
  have hplain : ∀ r ∈ rs, r.IsPlain ∧ ∀ code ∈ r.statusCodes, IsToken code := by
    intro r hr
    obtain ⟨bytes, hmem⟩ := h r hr
    exact ⟨isPlain_of_mem_decode hmem, isToken_of_mem_decode hmem⟩
  have htravelled : rs.map Response.travelled = rs :=
    (List.map_congr_left fun r hr => (hplain r hr).1.travelled_eq).trans (List.map_id' rs)
  rw [decode_join_render (fun r hr => (hplain r hr).1.wellFormed) fun r hr => (hplain r hr).2,
    htravelled]

/-- The messages of a stream as they are written. -/
def normalForm (bytes : List UInt8) : List UInt8 :=
  Utf8.encode (String.join ((decode bytes).responses.map Response.render))

/-- **Writing undoes reading.** Whatever message is read anywhere in a stream is read back as it is
from its own text, and nothing else is. So the messages of a stream, written one after the other,
are its normal form: it is read cleanly as the same messages, it is its own normal form, and two
streams share it exactly when the same messages are read from them. -/
theorem decode_normalForm (bytes : List UInt8) :
    (∀ r ∈ (decode bytes).responses, decode (Utf8.encode r.render) = ⟨[r], none⟩) ∧
      decode (normalForm bytes) = ⟨(decode bytes).responses, none⟩ ∧
      ((decode bytes).fault = none → decode (normalForm bytes) = decode bytes) ∧
      normalForm (normalForm bytes) = normalForm bytes ∧
      ∀ other, normalForm other = normalForm bytes ↔
        (decode other).responses = (decode bytes).responses := by
  have hread : ∀ bytes, decode (normalForm bytes) = ⟨(decode bytes).responses, none⟩ :=
    fun bytes => decode_join_render_of_mem fun r hr => ⟨bytes, hr⟩
  refine ⟨fun r hr => ?_, hread bytes, fun hclean => ?_, ?_, fun other => ⟨fun heq => ?_, ?_⟩⟩
  · have hmem : ∀ r' ∈ [r], ∃ bytes, r' ∈ (decode bytes).responses := by simpa using ⟨bytes, hr⟩
    simpa using decode_join_render_of_mem hmem
  · rw [hread, ← hclean]
  · rw [normalForm, hread, ← normalForm]
  · have hsame := congrArg (fun form => (decode form).responses) heq
    simpa only [hread] using hsame
  · exact fun hsame => by rw [normalForm, hsame, ← normalForm]

/-- Blank lines, blanks that trim but do not split, signs and leading zeros are not kept; a status
code with a no-break space in it is, although no judge log with it is valid. -/
theorem decode_normalForm_padded :
    let bytes := Utf8.encode
      "\n  RUN +01 1 \x0d\n\u2003\nDONE 007 0\n+1\u00a0\n1\tAccepted A\u00a0B 05\n00\nLIVE-SCORE\x0c+3\u3000"
    let r : Response := .finish 7 false { tests := [⟨1, "A\u00a0B", .accepted, 5, none⟩] }
    (decode bytes).fault = none ∧ r ∈ (decode bytes).responses ∧
      normalForm bytes = Utf8.encode
        "RUN 1 1\nDONE 7 0\n1\n1 Accepted A\u00a0B 5\n0\nLIVE-SCORE 3\n" ∧
      decode (normalForm bytes) = decode bytes ∧ decode (Utf8.encode r.render) = ⟨[r], none⟩ := by
  intro bytes r
  have hclean : (decode bytes).fault = none := by decide +kernel
  have hmem : r ∈ (decode bytes).responses := by decide +kernel
  obtain ⟨hsingle, -, hsame, -⟩ := decode_normalForm bytes
  exact ⟨hclean, hmem, by decide +kernel, hsame hclean, hsingle r hmem⟩

end Transcript

end Jury.Control
