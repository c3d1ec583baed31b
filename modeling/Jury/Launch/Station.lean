import Jury.Checker.Session
import Jury.Launch.Environment
import Jury.Valuer.Session

/-!
# Sessions at descriptors

How a session is set up over the descriptors that a program was given, and what the descriptors
hold after it.
-/

namespace Jury.Launch

/-- The deliveries that reading a descriptor brings, 8 KiB at a time, and the failure behind them
if there is one. -/
def OpenFile.deliveries (f : OpenFile) : List Checker.Delivery :=
  Checker.Delivery.ofBytes 8191 f.rest ++ f.readFault.toList.map .failed

/-- The health of a channel that writes to a descriptor. A descriptor has nothing to flush. -/
def OpenFile.health (f : OpenFile) : Health :=
  match f.writeFault with
  | some cause => .refusing cause
  | none => .sound

namespace Descriptors

/-- The deliveries of a descriptor; none if it is closed. -/
def deliveries (d : Descriptors) (number : Int) : List Checker.Delivery :=
  ((d.get? number).map OpenFile.deliveries).getD []

def health (d : Descriptors) (number : Int) : Health :=
  ((d.get? number).map OpenFile.health).getD .sound

end Descriptors

namespace CheckerDescriptors

def ofStream (d : CheckerDescriptors) : Checker.Stream → Int
  | .test => d.test
  | .correct => d.correct
  | .solution => d.solution

/-- The stream whose source a stream reads: the first one with the same descriptor. -/
def origin (d : CheckerDescriptors) (stream : Checker.Stream) : Checker.Stream :=
  if d.ofStream stream = d.test then .test
  else if d.ofStream stream = d.correct then .correct
  else stream

/-- The session of a checker that was given these descriptors. -/
def session (d : CheckerDescriptors) (files : Descriptors) : Checker.Session :=
  { sources := ⟨files.deliveries d.test, files.deliveries d.correct, files.deliveries d.solution⟩
    origin := ⟨d.origin .test, d.origin .correct, d.origin .solution⟩
    comments := { health := files.health d.comments }
    verdict := { health := files.health d.verdict } }

/-- Moves a stream's descriptor on over what a session took from it. -/
def settleStream (d : CheckerDescriptors) (s : Checker.Session) (stream : Checker.Stream)
    (files : Descriptors) : Descriptors :=
  if d.origin stream = stream then
    files.modify (d.ofStream stream) fun f =>
      f.skip (f.rest.length - Checker.Delivery.sizes (s.sources.get stream))
  else files

/-- The descriptors after a session: the streams' are moved on, and the channels' hold what was
written, the verdict after the comments. -/
def settle (d : CheckerDescriptors) (s : Checker.Session) (files : Descriptors) : Descriptors :=
  let files := d.settleStream s .test files
  let files := d.settleStream s .correct files
  let files := d.settleStream s .solution files
  let files := files.write d.comments (Utf8.encode s.comments.text)
  files.write d.verdict (Utf8.encode s.verdict.text)

end CheckerDescriptors

namespace ValuerDescriptors

/-- The descriptor of a channel: the control channel is the standard output. -/
def ofPipe (d : ValuerDescriptors) : Valuer.Pipe → Int
  | .control => 1
  | .publicComments => d.publicComments
  | .privateComments => d.privateComments

/-- The session of a valuer that was given these descriptors. -/
def session (d : ValuerDescriptors) (files : Descriptors) : Valuer.Session :=
  { health :=
      ⟨files.health 1, files.health d.publicComments, files.health d.privateComments⟩ }

/-- The descriptors after events, given last event first: each wrote its text where it stands. -/
def settle (d : ValuerDescriptors) (files : Descriptors) : List Valuer.Event → Descriptors
  | [] => files
  | event :: events =>
    [Valuer.Pipe.control, .publicComments, .privateComments].foldl
      (fun files pipe => files.write (d.ofPipe pipe) (Utf8.encode (event.text pipe)))
      (d.settle files events)

end ValuerDescriptors

end Jury.Launch
