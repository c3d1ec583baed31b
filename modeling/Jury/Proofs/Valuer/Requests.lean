import Jury.Proofs.Channel
import Jury.Valuer.Session
import Mathlib.Tactic.Common

/-!
# Requests

A session whose control channel never fails answers each request in one of two ways: it refuses it
and stays as it is, or it grants it, and then exactly the request's message is added to what was
sent. `Effect` lists the cases. On a channel that may fail one more thing can happen, that a write
or the flush of the message goes wrong and only a beginning of it arrives (`Attempt`); either way
the history has what the channel took (`Session.written_send`). The ledger of a session, that is the
messages it sent and the entries it handed out, is read off its history.
-/

namespace Jury

namespace Control

/-- What a policy is told of a finished test. -/
def Notification.entry (result : Notification) : TestEntry :=
  { test := result.test, statusCode := result.statusCode, kind := result.kind }

lemma join_entryPieces {α : Type} (render : α → String) (entries : List α) :
    String.join (entryPieces render entries) = renderEntries render entries := by
  rw [entryPieces, String.join_cons, renderEntries]

/-- The texts that a message is written in make up the message. -/
lemma Response.join_pieces (response : Response) :
    String.join response.pieces = response.render := by
  cases response with
  | test id live => rw [pieces, String.join_cons, String.join_nil, String.append_empty]
  | liveScore score => rw [pieces, String.join_cons, String.join_nil, String.append_empty]
  | finish score full log =>
    rw [pieces, String.join_cons, String.join_append, join_entryPieces, join_entryPieces, render,
      JudgeLog.render]

end Control

namespace Valuer

open Jury.Control

/-! ### The ledger -/

/-- The message that an event sends. -/
def Event.message? : Event → Option Response
  | sent response => some response
  | _ => none

/-- What an event hands to the policy. -/
def Event.entry? : Event → Option TestEntry
  | delivered result => some result.entry
  | _ => none

/-- Whether an event leaves only whole messages on the control channel. -/
def Event.IsWhole : Event → Prop
  | torn _ => False
  | commented pipe _ => pipe ≠ .control
  | _ => True

namespace Session

/-- The messages that were sent, in order. -/
def sent (s : Session) : List Response :=
  s.history.reverse.filterMap Event.message?

/-- The entries that were handed to the policy, in order. -/
def handed (s : Session) : List TestEntry :=
  s.history.reverse.filterMap Event.entry?

lemma sent_of_history {s s' : Session} (event : Event) (h : s'.history = event :: s.history) :
    s'.sent = s.sent ++ event.message?.toList := by
  rw [sent, h, List.reverse_cons, List.filterMap_append]
  cases hm : event.message? <;> simp [sent, hm]

lemma handed_of_history {s s' : Session} (event : Event)
    (h : s'.history = event :: s.history) : s'.handed = s.handed ++ event.entry?.toList := by
  rw [handed, h, List.reverse_cons, List.filterMap_append]
  cases he : event.entry? <;> simp [handed, he]

/-- When no message was torn, the control channel carries the messages and nothing else. -/
lemma written_control {s : Session} (h : ∀ event ∈ s.history, event.IsWhole) :
    s.written .control = String.join (s.sent.map Response.render) := by
  suffices ∀ events : List Event, (∀ event ∈ events, event.IsWhole) →
      writtenText .control events =
        String.join ((events.reverse.filterMap Event.message?).map Response.render) from
    this s.history h
  intro events hevents
  induction events with
  | nil => rfl
  | cons event events ih =>
    have hrest := ih fun e he => hevents e (List.mem_cons_of_mem event he)
    have hwhole := hevents event List.mem_cons_self
    rw [writtenText, hrest, List.reverse_cons, List.filterMap_append, List.map_append,
      String.join_append]
    congr 1
    cases event with
    | sent response => simp [Event.text, Event.message?]
    | torn text => exact hwhole.elim
    | commented pipe text => exact if_neg (Ne.symm hwhole)
    | delivered result => rfl

/-! ### Sending and commenting -/

/-- The session after a message got through. -/
def afterSend (s : Session) (response : Response) : Session :=
  { s with
    health.control := s.health.control.after (response.pieces.length + 1)
    history := .sent response :: s.history }

lemma send_of_delivers {s : Session} {response : Response}
    (h : s.health.control.Delivers response.pieces.length) :
    s.send response = (.ok (), s.afterSend response) := by
  rw [send, Channel.deliver_of_delivers (c := { health := s.health.control }) h]
  rfl

/-- The session after a message did not get through but for this text. -/
def afterTear (s : Session) (text : String) (count : Nat) : Session :=
  { s with
    health.control := s.health.control.after count
    history := .torn text :: s.history }

lemma send_of_not_delivers {s : Session} {response : Response}
    (h : ¬s.health.control.Delivers response.pieces.length) :
    ∃ cause text count, text.toList <+: response.render.toList ∧
      s.send response = (.error (.io cause), s.afterTear text count) := by
  obtain ⟨cause, text, count, htext, hdeliver⟩ :=
    Channel.deliver_of_not_delivers (c := { health := s.health.control }) h
  rw [Response.join_pieces] at htext
  refine ⟨cause, text, count, htext, ?_⟩
  rw [send, hdeliver, String.empty_append]
  rfl

/-- Whether or not a message gets through, the history has what the channel took of it. -/
theorem written_send (s : Session) (response : Response) :
    (s.send response).2.written .control = s.written .control ++
      (Channel.deliver { health := s.health.control } response.pieces).2.text := by
  by_cases h : s.health.control.Delivers response.pieces.length
  · rw [send_of_delivers h, Channel.deliver_of_delivers (c := { health := s.health.control }) h,
      Response.join_pieces]
    exact congrArg (s.written .control ++ ·) String.empty_append.symm
  · obtain ⟨cause, text, count, -, hdeliver⟩ :=
      Channel.deliver_of_not_delivers (c := { health := s.health.control }) h
    rw [send, hdeliver]
    rfl

/-- A comment is written on a comment channel and changes nothing else. -/
lemma comment_eq (s : Session) (audience : Audience) (text : String) :
    ∃ (health : PerPipe Health) (written : String), health.control = s.health.control ∧
      s.comment audience.pipe text =
        { s with health, history := .commented audience.pipe written :: s.history } := by
  simp only [comment, use, record]
  cases (s.health.get audience.pipe).next .write with
  | mk breakage health =>
    cases breakage <;> exact ⟨_, _, by cases audience <;> rfl, rfl⟩

lemma sent_comment (s : Session) (audience : Audience) (text : String) :
    (s.comment audience.pipe text).sent = s.sent := by
  obtain ⟨health, written, -, heq⟩ := s.comment_eq audience text
  rw [heq, ← List.append_nil s.sent]
  exact sent_of_history (.commented audience.pipe written) rfl

/-- Flushing the comment channels changes nothing but their health. -/
lemma flushComments_eq (s : Session) :
    ∃ health : PerPipe Health, health.control = s.health.control ∧
      s.flushComments = { s with health } := by
  refine ⟨s.flushComments.health, ?_, ?_⟩ <;> rfl

end Session

/-! ### The effect of a request -/

/-- The message that a request puts on the control channel when it is granted. -/
def Request.message? : Request → Option Response
  | select test live => some (.test test live)
  | reportLive score => some (.liveScore score)
  | finish score full log => some (.finish score full log)
  | comment _ _ => none
  | setLog _ => none

/-- What a request puts on the control channel when it is granted. -/
def Request.text (request : Request) : String :=
  (request.message?.map Response.render).getD ""

/-- What a request does to a session whose control channel works. -/
inductive Effect (s : Session) : Request → Except Fault Unit → Session → Prop
  | refused (request : Request) (fault : Fault) : Effect s request (.error fault) s
  | selected (test : UInt32) (live : Bool) (hopen : s.isOpen = true)
      (hfirst : 1 ≤ test) (hlast : test ≤ s.tests) (hnew : test ∉ s.pending) :
      Effect s (.select test live) (.ok ())
        { s.afterSend (.test test live) with pending := test :: s.pending }
  | scored (score : UInt32) (hopen : s.isOpen = true) :
      Effect s (.reportLive score) (.ok ()) (s.afterSend (.liveScore score))
  | finished (score : UInt32) (full : Bool) (log : JudgeLog) (hopen : s.isOpen = true)
      (hlog : log.validate = .ok ()) :
      Effect s (.finish score full log) (.ok ())
        { s.afterSend (.finish score full log) with stage := .finished }
  | commented (audience : Audience) (text : String) (health : PerPipe Health) (written : String)
      (hcontrol : health.control = s.health.control) :
      Effect s (.comment audience text) (.ok ())
        { s with health, history := .commented audience.pipe written :: s.history }
  | kept (log : JudgeLog) : Effect s (.setLog log) (.ok ()) { s with log }

/-- What a request does to a session on any channels: what it does on a working control channel,
if it got the message through that it was to send, or else only a beginning of that message. -/
inductive Attempt (s : Session) (request : Request) : Except Fault Unit → Session → Prop
  | settled {result : Except Fault Unit} {s' : Session} (heffect : Effect s request result s')
      (hdelivers : ∀ response, result = .ok () → request.message? = some response →
        s.health.control.Delivers response.pieces.length) :
      Attempt s request result s'
  | torn {response : Response} (hmessage : request.message? = some response) (cause : IoFault)
      {text : String} (htext : text.toList <+: response.render.toList) (count : Nat)
      (hopen : s.isOpen = true) (h : ¬s.health.control.Delivers response.pieces.length) :
      Attempt s request (.error (.io cause)) (s.afterTear text count)

namespace Session

lemma select_of_delivers {s : Session} {test : UInt32} {live : Bool}
    (h : s.health.control.Delivers (Response.test test live).pieces.length)
    (hopen : s.isOpen = true) (hfirst : 1 ≤ test) (hlast : test ≤ s.tests)
    (hnew : test ∉ s.pending) :
    s.select test live =
      (.ok (), { s.afterSend (.test test live) with pending := test :: s.pending }) := by
  have hrange : ¬(test < 1 ∨ s.tests < test) := by
    rintro (hlt | hlt)
    · exact absurd hfirst (UInt32.not_le.mpr hlt)
    · exact absurd hlast (UInt32.not_le.mpr hlt)
  simp only [select, hopen, hrange, List.contains_eq_mem, hnew, send_of_delivers h, afterSend,
    decide_false, Bool.not_true, Bool.false_eq_true, if_false]

lemma finish_of_delivers {s : Session} {score : UInt32} {full : Bool} {log : JudgeLog}
    (h : s.health.control.Delivers (Response.finish score full log).pieces.length)
    (hopen : s.isOpen = true) (hlog : log.validate = .ok ()) :
    s.finish score full log =
      (.ok (), { s.afterSend (.finish score full log) with stage := .finished }) := by
  simp [finish, hopen, hlog, send_of_delivers h]

lemma finish_of_closed {s : Session} (score : UInt32) (full : Bool) (log : JudgeLog)
    (hclosed : s.isOpen ≠ true) :
    s.finish score full log = (.error (.contract (.finishIn s.stage)), s) := by
  simp [finish, hclosed]

lemma finish_of_invalid {s : Session} (score : UInt32) (full : Bool) {log : JudgeLog}
    {fault : Fault} (hopen : s.isOpen = true) (hlog : log.validate = .error fault) :
    s.finish score full log = (.error fault, s) := by
  simp [finish, hopen, hlog]

lemma finish_of_refused {s : Session} (score : UInt32) (full : Bool) {log : JudgeLog}
    (h : ¬(s.isOpen = true ∧ log.validate = .ok ())) :
    ∃ fault, s.finish score full log = (.error fault, s) := by
  by_cases hopen : s.isOpen = true
  · cases hlog : log.validate with
    | error fault => exact ⟨fault, finish_of_invalid score full hopen hlog⟩
    | ok => exact absurd ⟨hopen, hlog⟩ h
  · exact ⟨_, finish_of_closed score full log hopen⟩

/-- Ending the session is granted exactly if it may be sent messages, the judge log is valid, and
the final message gets through. -/
lemma finish_eq_ok_iff {s : Session} {score : UInt32} {full : Bool} {log : JudgeLog} :
    (s.finish score full log).1 = .ok () ↔
      s.isOpen = true ∧ log.validate = .ok () ∧
        s.health.control.Delivers (Response.finish score full log).pieces.length := by
  constructor
  · intro hgranted
    obtain ⟨hopen, hlog⟩ : s.isOpen = true ∧ log.validate = .ok () := by
      by_contra hnot
      obtain ⟨fault, hrefused⟩ := finish_of_refused score full hnot
      rw [hrefused] at hgranted
      cases hgranted
    refine ⟨hopen, hlog, not_not.mp fun hnot => ?_⟩
    obtain ⟨cause, text, count, -, hsend⟩ := send_of_not_delivers hnot
    simp [finish, hopen, hlog, hsend] at hgranted
  · rintro ⟨hopen, hlog, hdelivers⟩
    rw [finish_of_delivers hdelivers hopen hlog]

lemma attempt_of_refused {s : Session} (request : Request) (fault : Fault) :
    Attempt s request (.error fault) s :=
  .settled (.refused request fault) nofun

/-- A request that comes down to its message is granted when the message gets through, and else the
message is torn. -/
lemma attempt_of_send {s s' : Session} {request : Request} {result : Except Fault Unit}
    {response : Response} (hmessage : request.message? = some response) (hopen : s.isOpen = true)
    (hgranted : s.health.control.Delivers response.pieces.length → Effect s request result s')
    (htorn : ∀ fault torn, s.send response = (.error fault, torn) →
      (result, s') = (.error fault, torn)) :
    Attempt s request result s' := by
  by_cases hdelivers : s.health.control.Delivers response.pieces.length
  · refine .settled (hgranted hdelivers) fun response' _ hmessage' => ?_
    rwa [← Option.some.inj (hmessage.symm.trans hmessage')]
  · obtain ⟨cause, text, count, htext, hsend⟩ := send_of_not_delivers hdelivers
    obtain ⟨rfl, rfl⟩ := Prod.mk.inj (htorn _ _ hsend)
    exact .torn hmessage cause htext count hopen hdelivers

/-- Every request comes to one of the attempts. -/
lemma attempt_perform (s : Session) (request : Request) :
    Attempt s request (s.perform request).1 (s.perform request).2 := by
  cases request with
  | select test live =>
    by_cases hopen : s.isOpen = true
    · by_cases hrange : test < 1 ∨ s.tests < test
      · simp only [perform, select, hopen, hrange, Bool.not_true, Bool.false_eq_true, if_false,
          if_true]
        exact attempt_of_refused _ _
      · by_cases hpending : test ∈ s.pending
        · simp only [perform, select, hopen, hrange, List.contains_iff_mem.mpr hpending,
            Bool.not_true, Bool.false_eq_true, if_false, if_true]
          exact attempt_of_refused _ _
        · refine attempt_of_send rfl hopen (fun hdelivers => ?_) fun fault torn hsend => ?_
          · rw [not_or, UInt32.not_lt, UInt32.not_lt] at hrange
            rw [perform, select_of_delivers hdelivers hopen hrange.1 hrange.2 hpending]
            exact .selected test live hopen hrange.1 hrange.2 hpending
          · simp only [perform, select, hopen, hrange, List.contains_eq_mem, hpending, hsend,
              decide_false, Bool.not_true, Bool.false_eq_true, if_false]
    · simp only [perform, select, hopen, Bool.not_false, if_true]
      exact attempt_of_refused _ _
  | reportLive score =>
    by_cases hopen : s.isOpen = true
    · refine attempt_of_send rfl hopen (fun hdelivers => ?_) fun fault torn hsend => ?_
      · simp only [perform, reportLive, hopen, send_of_delivers hdelivers, Bool.not_true,
          Bool.false_eq_true, if_false]
        exact .scored score hopen
      · simp only [perform, reportLive, hopen, hsend, Bool.not_true, Bool.false_eq_true, if_false]
    · simp only [perform, reportLive, hopen, Bool.not_false, if_true]
      exact attempt_of_refused _ _
  | finish score full log =>
    by_cases hready : s.isOpen = true ∧ log.validate = .ok ()
    · obtain ⟨hopen, hlog⟩ := hready
      refine attempt_of_send rfl hopen (fun hdelivers => ?_) fun fault torn hsend => ?_
      · rw [perform, finish_of_delivers hdelivers hopen hlog]
        exact .finished score full log hopen hlog
      · simp only [perform, finish, hopen, hlog, hsend, Bool.not_true, Bool.false_eq_true,
          if_false]
    · obtain ⟨fault, hrefused⟩ := finish_of_refused score full hready
      rw [perform, hrefused]
      exact attempt_of_refused _ fault
  | comment audience text =>
    obtain ⟨health, written, hcontrol, heq⟩ := s.comment_eq audience text
    simp only [perform, heq]
    exact .settled (.commented audience text health written hcontrol)
      fun _ _ hmessage => nomatch hmessage
  | setLog log => exact .settled (.kept log) fun _ _ hmessage => nomatch hmessage

end Session

lemma attempt_of_perform {s s' : Session} {request : Request} {result : Except Fault Unit}
    (h : s.perform request = (result, s')) : Attempt s request result s' := by
  have hattempt := s.attempt_perform request
  rwa [h] at hattempt

end Valuer

end Jury
