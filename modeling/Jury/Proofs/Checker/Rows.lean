import Jury.Proofs.Checker.Lockstep
import Jury.Proofs.Checker.Verdict
import Jury.Proofs.Dialogue

/-!
# A checker session is three rows of tokens

On streams that can be read, a checker session answers as three rows of tokens do, one for each
stream: a request about one stream leaves the other rows as they are, a token or a value takes the
first token of its row, and a demand for the end takes none. What is at fault is laid to whoever
owns the stream. A checker that stops at the first request that is rejected ends with one verdict
line, which says what that rejection said (`answers_eq_rows`).
-/

namespace Jury.Checker

/-! ### Rows of tokens -/

/-- What a session comes to: the tokens that are left of each stream, and what was commented. -/
structure Rows where
  left : PerStream (List String)
  comments : List String := []

/-- The stream that a request takes a token from. -/
def Request.source? : Request → Option Stream
  | next stream => some stream
  | scan stream _ => some stream
  | _ => none

namespace Rows

/-- The rows of three byte strings: their maximal runs of bytes other than separators, decoded. -/
def ofBytes (bytes : PerStream (List UInt8)) : Rows :=
  let tokens := fun input => (Text.runs Text.isSeparatorByte input).map Utf8.decodeLossy
  { left := ⟨tokens bytes.test, tokens bytes.correct, tokens bytes.solution⟩ }

/-- Takes the first token of a row, if there is one. -/
def take (rows : Rows) (stream : Stream) : Rows :=
  { rows with left := rows.left.set stream (rows.left.get stream).tail }

def comment (rows : Rows) (text : String) : Rows :=
  { rows with comments := rows.comments ++ [text] }

/-- Who answers for a fault of a stream: the contestant for their own answer, and the problem
package for the other two. -/
def blame (stream : Stream) : Outcome :=
  if stream = .solution then .presentationError else .checkerLogicError

def reject (rows : Rows) (stream : Stream) (text : String) : Except Stop Answer × Rows :=
  (.error (.rejected (blame stream)), rows.comment (stream.severity ++ ": " ++ text))

/-- What is answered from the rows, and the rows after it. -/
def answer (request : Request) (rows : Rows) : Except Stop Answer × Rows :=
  match request with
  | .next stream => (.ok (.token (rows.left.get stream).head?), rows.take stream)
  | .scan stream type =>
    match (rows.left.get stream).head? with
    | none =>
      (rows.take stream).reject stream ("unexpected EOF when reading " ++ stream.description)
    | some token =>
      match type.parse? token with
      | some value => (.ok (.value value), rows.take stream)
      | none =>
        (rows.take stream).reject stream
          ("malformed token `" ++ token ++ "` in " ++ stream.description)
  | .checkEnd stream =>
    if rows.left.get stream = [] then (.ok .done, rows)
    else rows.reject stream (stream.description ++ " has data yet")
  | .comment text => (.ok .done, rows.comment text)

/-- Whether a request finds fault with a stream: a value is wanted, and the row is empty or begins
with a token that is no such value; or the end is demanded, and the row is not empty. -/
def Faults (rows : Rows) (stream : Stream) : Request → Prop
  | .scan other type =>
    other = stream ∧ ∀ token ∈ (rows.left.get stream).head?, type.parse? token = none
  | .checkEnd other => other = stream ∧ rows.left.get stream ≠ []
  | _ => False

section

variable (rows : Rows) (request : Request) (stream : Stream)

lemma get_take (other : Stream) :
    (rows.take other).left.get stream =
      if other = stream then (rows.left.get stream).tail else rows.left.get stream := by
  split_ifs with h
  · subst h
    exact PerStream.get_set_self _ _ _
  · exact PerStream.get_set_of_ne _ _ (Ne.symm h)

/-- A request takes the first token of the row that it takes from, and of no other. -/
lemma get_answer :
    (rows.answer request).2.left.get stream =
      if request.source? = some stream then (rows.left.get stream).tail
      else rows.left.get stream := by
  cases request with
  | next other => simp [answer, get_take, Request.source?]
  | scan other type =>
    have hleft : (rows.answer (.scan other type)).2.left = (rows.take other).left := by
      simp only [answer]
      split
      · rfl
      · split <;> rfl
    simp [hleft, get_take, Request.source?]
  | checkEnd other =>
    have hleft : (rows.answer (.checkEnd other)).2.left = rows.left := by
      simp only [answer]
      split_ifs <;> rfl
    simp [hleft, Request.source?]
  | comment text => rfl

/-- A fault rejects the request, with one comment. -/
lemma answer_of_faults (h : rows.Faults stream request) :
    (rows.answer request).1 = .error (.rejected (blame stream)) ∧
      ∃ text, (rows.answer request).2.comments = rows.comments ++ [text] := by
  cases request with
  | next other => exact h.elim
  | comment text => exact h.elim
  | scan other type =>
    obtain ⟨rfl, hvalue⟩ := h
    cases hhead : (rows.left.get other).head? with
    | none =>
      simp only [answer, hhead]
      exact ⟨rfl, _, rfl⟩
    | some token =>
      simp only [answer, hhead, hvalue token hhead]
      exact ⟨rfl, _, rfl⟩
  | checkEnd other =>
    obtain ⟨rfl, hne⟩ := h
    simp only [answer, if_neg hne]
    exact ⟨rfl, _, rfl⟩

/-- Without a fault the request is granted, and nothing but a comment is commented. -/
lemma answer_of_not_faults (h : ∀ stream, ¬rows.Faults stream request) :
    (∃ granted, (rows.answer request).1 = .ok granted) ∧
      ((∀ text, request ≠ .comment text) →
        (rows.answer request).2.comments = rows.comments) := by
  cases request with
  | next other => exact ⟨⟨_, rfl⟩, fun _ => rfl⟩
  | comment text => exact ⟨⟨_, rfl⟩, fun hne => absurd rfl (hne text)⟩
  | scan other type =>
    have hvalue : ¬∀ token ∈ (rows.left.get other).head?, type.parse? token = none :=
      fun hnone => h other ⟨rfl, hnone⟩
    simp only [not_forall, Option.mem_def] at hvalue
    obtain ⟨token, hhead, hvalue⟩ := hvalue
    obtain ⟨value, hvalue⟩ := Option.ne_none_iff_exists'.mp hvalue
    simp only [answer, hhead, hvalue]
    exact ⟨⟨_, rfl⟩, fun _ => rfl⟩
  | checkEnd other =>
    have hnil : rows.left.get other = [] := by
      by_contra hne
      exact h other ⟨rfl, hne⟩
    rw [answer, if_pos hnil]
    exact ⟨⟨_, rfl⟩, fun _ => rfl⟩

end

end Rows

/-! ### Sessions that come to rows -/

/-- Whether a session comes to certain rows, having commented on the channel of `first`. -/
structure Session.Shows (first s : Session) (rows : Rows) : Prop where
  separate : s.IsSeparate
  sound : ∀ stream, (s.reader stream).IsSound
  tokens : ∀ stream, (s.reader stream).tokens = rows.left.get stream
  comments : s.comments = (rows.comments.foldl Session.comment first).comments
  verdict : s.verdict = first.verdict

namespace Session

variable {first s : Session} {rows : Rows}

/-- A stream is replaced by what is left of it. -/
lemma Shows.setReader (h : first.Shows s rows) {stream : Stream} {r : TokenReader}
    (hr : r.IsSound) {rows' : Rows} (hcomments : rows'.comments = rows.comments)
    (htokens : r.tokens = rows'.left.get stream)
    (hothers : ∀ other, other ≠ stream → rows'.left.get other = rows.left.get other) :
    first.Shows (s.setReader stream r) rows' where
  separate := h.separate
  sound other := by
    by_cases hne : other = stream
    · rwa [hne, reader_setReader_self]
    · rw [reader_setReader_of_ne h.separate hne]
      exact h.sound other
  tokens other := by
    by_cases hne : other = stream
    · rwa [hne, reader_setReader_self]
    · rw [reader_setReader_of_ne h.separate hne, hothers other hne]
      exact h.tokens other
  comments := hcomments ▸ h.comments
  verdict := h.verdict

lemma Shows.comment (h : first.Shows s rows) (text : String) :
    first.Shows (s.comment text) (rows.comment text) where
  separate := h.separate
  sound := h.sound
  tokens := h.tokens
  comments := by
    rw [Rows.comment, List.foldl_append, List.foldl_cons, List.foldl_nil, Session.comment,
      Session.comment, h.comments]
  verdict := h.verdict

lemma Shows.nextToken (h : first.Shows s rows) (stream : Stream) :
    ∃ s', s.nextToken stream = (.ok (rows.left.get stream).head?, s') ∧
      first.Shows s' (rows.take stream) := by
  obtain ⟨r, hr, htokens, hnext⟩ := nextToken_eq (h.sound stream)
  rw [h.tokens] at htokens hnext
  refine ⟨_, hnext, h.setReader hr rfl ?_ fun other hne => ?_⟩
  · rw [htokens, Rows.get_take, if_pos rfl]
  · rw [Rows.get_take, if_neg (Ne.symm hne)]

lemma Shows.checkEnd (h : first.Shows s rows) (stream : Stream) :
    ∃ s', first.Shows s' rows ∧ s.checkEnd stream =
      if rows.left.get stream = [] then (.ok (), s')
      else
        (.error (s'.reject stream (stream.description ++ " has data yet")).1,
          (s'.reject stream (stream.description ++ " has data yet")).2) := by
  obtain ⟨hanswer, hwords, hsound⟩ := (s.reader stream).isAtEnd_eq (h.sound stream)
  have htokens : (s.reader stream).isAtEnd.2.tokens = rows.left.get stream := by
    rw [TokenReader.tokens, hwords, ← TokenReader.tokens, h.tokens]
  refine ⟨_, h.setReader hsound rfl htokens fun _ _ => rfl, ?_⟩
  have hempty : (s.reader stream).words.isEmpty = true ↔ rows.left.get stream = [] := by
    rw [List.isEmpty_iff, ← h.tokens, TokenReader.tokens, List.map_eq_nil_iff]
  rw [Session.checkEnd]
  generalize (s.reader stream).isAtEnd = outcome at hanswer
  obtain ⟨result, r⟩ := outcome
  obtain rfl : result = _ := hanswer
  cases hwords : (s.reader stream).words.isEmpty with
  | true => rw [if_pos (hempty.mp hwords)]
  | false => rw [if_neg (hempty.not.mp (by simp [hwords]))]

lemma Shows.reject (h : first.Shows s rows) (stream : Stream) (text : String) :
    (s.reject stream text).1 = .rejected (Rows.blame stream) ∧
      first.Shows (s.reject stream text).2 (rows.reject stream text).2 :=
  ⟨by cases stream <;> rfl, h.comment _⟩

end Session

/-- A session and the rows that it comes to answer alike. -/
lemma simulates_answer (first : Session) :
    Dialogue.Simulates Session.answer Rows.answer first.Shows := by
  intro s rows h request
  cases request with
  | next stream =>
    obtain ⟨s', hnext, hs'⟩ := h.nextToken stream
    simp only [Session.answer, hnext]
    exact ⟨rfl, hs'⟩
  | comment text => exact ⟨rfl, h.comment text⟩
  | scan stream type =>
    obtain ⟨s', hnext, hs'⟩ := h.nextToken stream
    simp only [Session.answer, Session.scan, hnext, Rows.answer]
    cases (rows.left.get stream).head? with
    | none =>
      obtain ⟨hstop, hreject⟩ := hs'.reject stream _
      exact ⟨congrArg Except.error hstop, hreject⟩
    | some token =>
      dsimp only
      cases type.parse? token with
      | some value => exact ⟨rfl, hs'⟩
      | none =>
        obtain ⟨hstop, hreject⟩ := hs'.reject stream _
        exact ⟨congrArg Except.error hstop, hreject⟩
  | checkEnd stream =>
    obtain ⟨s', hs', hcheck⟩ := h.checkEnd stream
    simp only [Session.answer, hcheck, Rows.answer]
    split_ifs with hrow
    · exact ⟨rfl, hs'⟩
    · obtain ⟨hstop, hreject⟩ := hs'.reject stream _
      exact ⟨congrArg Except.error hstop, hreject⟩

/-- A session over streams that can be read, of which nothing was read yet, comes to the rows of
their bytes. -/
lemma shows_ofBytes {bytes : PerStream (List UInt8)} {sources : PerStream (List Delivery)}
    (hcut : ∀ stream, (sources.get stream).flatMap Delivery.content = bytes.get stream)
    (hsound : ∀ stream cause, .failed cause ∉ sources.get stream) (comments verdict : Channel) :
    let s : Session := { sources, comments, verdict }
    s.Shows s (Rows.ofBytes bytes) := by
  intro s
  have hreader : ∀ stream, s.reader stream = { source := sources.get stream } := by
    intro stream
    cases stream <;> rfl
  refine ⟨?_, fun stream cause => ?_, fun stream => ?_, rfl, rfl⟩
  · intro stream stream' h
    cases stream <;> cases stream' <;> first | rfl | cases h
  · rw [hreader]
    exact hsound stream cause
  · rw [hreader, TokenReader.tokens, TokenReader.words, TokenReader.remaining, List.nil_append,
      hcut]
    cases stream <;> rfl

/-! ### The verdict -/

/-- Comments leave what will go wrong on their channel as it is. -/
lemma health_foldl_comment (texts : List String) (s : Session) :
    (texts.foldl Session.comment s).comments.health = s.comments.health.after texts.length := by
  induction texts generalizing s with
  | nil => rfl
  | cons text texts ih =>
    rw [List.foldl_cons, ih, Session.comment, Channel.health_write, List.length_cons]
    simp [Health.after, Nat.add_assoc, Nat.add_comm 1]

/-- On a sound channel every comment is a line of its own. -/
lemma text_foldl_comment (texts : List String) {s : Session}
    (hsound : s.comments.health.IsSound) :
    (texts.foldl Session.comment s).comments.text =
      s.comments.text ++ String.join (texts.map (truncateComment · ++ "\n")) := by
  induction texts generalizing s with
  | nil => simp
  | cons text texts ih =>
    have hwrite := Channel.write_of_isSound (truncateComment text ++ "\n") hsound
    have hnext : (s.comment text).comments.health.IsSound := by
      rw [Session.comment, hwrite]
      exact hsound
    rw [List.foldl_cons, ih hnext, Session.comment, hwrite, List.map_cons, String.join_cons,
      String.append_assoc]

/-- Whether a logic ends with a verdict, and at once with the verdict of the first request that is
rejected. -/
def Logic.Propagates : Logic → Prop
  | .done result => ∃ outcome, result = .ok outcome ∨ result = .error (.rejected outcome)
  | .ask _ next =>
    (∀ outcome, next (.error (.rejected outcome)) = .done (.error (.rejected outcome))) ∧
      ∀ granted, Logic.Propagates (next (.ok granted))

/-- Requests that are made one after the other until one is rejected propagate the rejection. -/
lemma propagates_ofRequests (outcome : Outcome) (requests : List Request) :
    (Logic.ofRequests outcome requests).Propagates := by
  induction requests with
  | nil => exact ⟨outcome, .inl rfl⟩
  | cons request requests ih => exact ⟨fun _ => rfl, fun _ => ih⟩

/-- The outcome of an exchange that is rejected. -/
def rejection? : Request × Except Stop Answer → Option Outcome
  | (_, .error (.rejected outcome)) => some outcome
  | _ => none

lemma Rows.answer_cases (rows : Rows) (request : Request) :
    (∃ granted, (rows.answer request).1 = .ok granted) ∨
      ∃ outcome, (rows.answer request).1 = .error (.rejected outcome) := by
  by_cases hfault : ∃ stream, rows.Faults stream request
  · obtain ⟨stream, hfault⟩ := hfault
    exact .inr ⟨_, (rows.answer_of_faults request stream hfault).1⟩
  · exact .inl (rows.answer_of_not_faults request (not_exists.mp hfault)).1

/-- The verdict of a logic that propagates rejections is that of the first rejected request, or
else the one that the logic itself comes to. -/
lemma Rows.reached_of_propagates {logic : Logic} (h : logic.Propagates) (rows : Rows) :
    ∃ outcome, reached (logic.run Rows.answer rows).1 = .ok outcome ∧
      match (logic.exchanges Rows.answer rows).findSome? rejection? with
      | some first => outcome = first
      | none => (logic.run Rows.answer rows).1 = .ok outcome ∨
          (logic.run Rows.answer rows).1 = .error (.rejected outcome) := by
  induction logic generalizing rows with
  | done result =>
    obtain ⟨outcome, rfl | rfl⟩ := h
    · exact ⟨outcome, rfl, .inl rfl⟩
    · exact ⟨outcome, rfl, .inr rfl⟩
  | ask request next ih =>
    obtain ⟨hrejected, hgranted⟩ := h
    rw [Dialogue.exchanges, Dialogue.run]
    generalize hanswer : rows.answer request = answer
    obtain ⟨result, rows'⟩ := answer
    rcases rows.answer_cases request with ⟨granted, hresult⟩ | ⟨outcome, hresult⟩
    · obtain rfl : result = _ := (congrArg Prod.fst hanswer).symm.trans hresult
      exact ih (.ok granted) (hgranted granted) rows'
    · obtain rfl : result = _ := (congrArg Prod.fst hanswer).symm.trans hresult
      refine ⟨outcome, ?_, rfl⟩
      dsimp only
      rw [hrejected]
      rfl

/-- **A checker session is three rows of tokens.** However three byte strings are cut into
deliveries, and wherever reading them is interrupted, every program that makes requests of the
session, be it a fixed list of them, is answered as by the rows of their tokens, and what is
commented is what the rows say, whatever befalls it. Of the rows, a request takes the first token
of the one it reads from and leaves the others; it is rejected exactly when it finds fault with a
stream, which whoever owns the stream answers for, and then one comment is made. On working
channels a logic that propagates rejections ends with one line, the verdict of the first rejected
request or else its own, and that line is read back as this verdict. -/
theorem answers_eq_rows (bytes : PerStream (List UInt8)) (sources : PerStream (List Delivery))
    (hcut : ∀ stream, (sources.get stream).flatMap Delivery.content = bytes.get stream)
    (hsound : ∀ stream cause, .failed cause ∉ sources.get stream) (comments verdict : Channel) :
    let s : Session := { sources, comments, verdict }
    (∀ {α : Type} (program : Dialogue Request (Except Stop Answer) α),
      let commented := (program.run Rows.answer (Rows.ofBytes bytes)).2.comments
      program.exchanges Session.answer s = program.exchanges Rows.answer (Rows.ofBytes bytes) ∧
        (program.run Session.answer s).2.comments =
          (commented.foldl Session.comment s).comments ∧
        (comments.health.IsSound → (program.run Session.answer s).2.comments.text =
          comments.text ++ String.join (commented.map (truncateComment · ++ "\n")))) ∧
    (∀ (rows : Rows) (request : Request),
      (∀ stream, (rows.answer request).2.left.get stream =
        if request.source? = some stream then (rows.left.get stream).tail
        else rows.left.get stream) ∧
      (∀ stream, rows.Faults stream request →
        (rows.answer request).1 = .error (.rejected (Rows.blame stream)) ∧
          ∃ text, (rows.answer request).2.comments = rows.comments ++ [text]) ∧
      ((∀ stream, ¬rows.Faults stream request) →
        (∃ granted, (rows.answer request).1 = .ok granted) ∧
          ((∀ text, request ≠ .comment text) →
            (rows.answer request).2.comments = rows.comments))) ∧
    ∀ logic : Logic, logic.Propagates → comments.health.IsSound → verdict.health.IsSound →
      ∃ outcome, (s.evaluate logic).1 = .ok outcome ∧
        (s.evaluate logic).2.verdict.text =
          verdict.text ++ ("outcome=" ++ outcome.name ++ "\n") ∧
        Verdict.parse ("outcome=" ++ outcome.name ++ "\n") = .ok outcome ∧
        match (logic.exchanges Session.answer s).findSome? rejection? with
        | some first => outcome = first
        | none => (logic.run Session.answer s).1 = .ok outcome ∨
            (logic.run Session.answer s).1 = .error (.rejected outcome) := by
  intro s
  have hshows : s.Shows s (Rows.ofBytes bytes) := shows_ofBytes hcut hsound comments verdict
  refine ⟨fun program => ?_, fun rows request => ⟨rows.get_answer request, ?_, ?_⟩, ?_⟩
  · obtain ⟨hexchanges, -, hlast⟩ := program.run_simulates (simulates_answer s) hshows
    refine ⟨hexchanges, hlast.comments, fun hworks => ?_⟩
    rw [hlast.comments]
    exact text_foldl_comment _ hworks
  · exact fun stream => rows.answer_of_faults request stream
  · exact rows.answer_of_not_faults request
  · intro logic hlogic hcomments hverdict
    obtain ⟨hexchanges, hvalue, hlast⟩ := logic.run_simulates (simulates_answer s) hshows
    obtain ⟨outcome, hreached, hfirst⟩ := (Rows.ofBytes bytes).reached_of_propagates hlogic
    rw [← hexchanges, ← hvalue] at hfirst
    rw [← hvalue] at hreached
    have hchannel : (logic.run Session.answer s).2.comments.health.IsSound := by
      rw [hlast.comments, health_foldl_comment]
      exact hcomments
    have hsame : (logic.run Session.answer s).2.verdict = verdict := hlast.verdict
    obtain ⟨hok, htext⟩ := Session.conclude_of_isSound hchannel (hsame ▸ hverdict) outcome
    have hrender : Verdict.render outcome = "outcome=" ++ outcome.name ++ "\n" := rfl
    rw [hsame, hrender] at htext
    rw [Session.evaluate_eq, Session.finish_of_reached hreached, hok]
    exact ⟨outcome, rfl, htext, hrender ▸ Verdict.parse_render outcome, hfirst⟩

/-- The second value of the provided answer is no number: the contestant answers for it, and the
data left in the correct answer are not looked at. -/
theorem answers_eq_rows_malformed :
    let bytes : PerStream (List UInt8) := ⟨[0x33], [0x37, 0x0A], [0x31, 0x32, 0x20, 0x7A]⟩
    let sources : PerStream (List Delivery) :=
      ⟨[.bytes 0x33 []], [.interrupted, .bytes 0x37 [0x0A]],
        [.bytes 0x31 [], .interrupted, .bytes 0x32 [0x20], .bytes 0x7A []]⟩
    let s : Session := { sources }
    let logic := Logic.ofRequests .ok [.scan .test .i32, .scan .solution .u8, .comment "halfway",
      .scan .solution .u8, .checkEnd .correct]
    (∀ stream, (sources.get stream).flatMap Delivery.content = bytes.get stream) ∧
      (∀ stream cause, .failed cause ∉ sources.get stream) ∧ logic.Propagates ∧
      (s.evaluate logic).2.verdict.text = "outcome=PresentationError\n" ∧
      (logic.run Session.answer s).2.comments.text =
        "halfway\nerror: malformed token `z` in provided answer\n" := by
  intro bytes sources s logic
  have hcut : ∀ stream, (sources.get stream).flatMap Delivery.content = bytes.get stream := by
    intro stream
    cases stream <;> rfl
  have hsound : ∀ stream cause, .failed cause ∉ sources.get stream := by
    intro stream cause hmem
    cases stream <;> simp [sources, PerStream.get] at hmem
  have hlogic : logic.Propagates := propagates_ofRequests _ _
  obtain ⟨hprogram, -, hevaluate⟩ := answers_eq_rows bytes sources hcut hsound {} {}
  obtain ⟨hexchanges, -, htext⟩ := hprogram logic
  obtain ⟨outcome, -, hverdict, -, hfirst⟩ :=
    hevaluate logic hlogic Health.isSound_sound Health.isSound_sound
  have hrejected : (logic.exchanges Rows.answer (Rows.ofBytes bytes)).findSome? rejection? =
      some .presentationError := by
    decide +kernel
  rw [hexchanges, hrejected] at hfirst
  subst hfirst
  refine ⟨hcut, hsound, hlogic, hverdict, ?_⟩
  refine (htext Health.isSound_sound).trans ?_
  decide +kernel

end Jury.Checker
