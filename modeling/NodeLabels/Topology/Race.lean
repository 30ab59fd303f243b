import NodeLabels.Topology.Cadence
/-!
# The topology job and whoever stops it

The job beside a second party that sets the stop flag or leaves it alone for good, at any moment:
before the start, while a call of a cycle has not been answered, or in a pause. The job goes from
one call to the next at a stroke. A pause is looked at once when it begins, which is before any time
has passed, and then whenever there may be news; where its time has come and the flag shows
something new, either may be taken.
-/

namespace NodeLabels.Topology

/-- Where the job is. -/
inductive Race.Place
  | unstarted
  /-- In a cycle, at a call that has not been answered. -/
  | working (call : Call) (resume : port.Reply call → Dialogue port Unit)
  /-- In a pause, which was looked at before or just began. -/
  | waiting (pause : Pause) (seen : Bool)
  | ended (result : Except Halt Unit)

/-- The job and the stop flag, with all that was reported. -/
structure Race where
  place : Race.Place := .unstarted
  flag : StopFlag
  events : List Event := []

namespace Race

/-- The job before its start. -/
def before (value : Bool) : Race := { flag := { value } }

/-- The number of cycles that were begun. -/
def cycles (r : Race) : Nat := r.events.count cycleEvent

/-- Runs on to the next call, with what is reported on the way. -/
def arrive : Dialogue port Unit → List Event × Place
  | .done () => ([], .ended (.ok ()))
  | .halt why => ([], .ended (.error why))
  | .report e d => (e :: (arrive d).1, (arrive d).2)
  | .call (.pause interval) resume =>
    ([], .waiting { left := Clockwork.milliseconds interval, resume } false)
  | .call c resume => ([], .working c resume)

def goOn (r : Race) (d : Dialogue port Unit) : Race :=
  { r with place := (arrive d).2, events := r.events ++ (arrive d).1 }

inductive Act
  | start
  /-- A call is answered. -/
  | answer
  /-- A look at a pause in which nothing has happened. -/
  | look
  /-- The time of a pause has come. -/
  | due
  /-- Something new about the flag is seen. -/
  | notice (sign : Wake)
  | elapse (ms : Nat)
  | send (stop : Bool)
  | drop
deriving DecidableEq

/-- What can happen next. -/
inductive Step (patience : Nat) (interval : Span) : Race → Act → Race → Prop
  | start {r : Race} (h : r.place = .unstarted) :
      Step patience interval r .start (r.goOn (watch patience interval))
  | answer {r : Race} {c : Call} {resume : port.Reply c → Dialogue port Unit}
      (h : r.place = .working c resume) (reply : port.Reply c) :
      Step patience interval r .answer (r.goOn (resume reply))
  | look {r : Race} {pause : Pause} {seen : Bool} (h : r.place = .waiting pause seen)
      (hleft : 0 < pause.left) (hflag : r.flag.look? = none) :
      Step patience interval r .look { r with place := .waiting pause true }
  | due {r : Race} {pause : Pause} {seen : Bool} (h : r.place = .waiting pause seen)
      (hleft : pause.left = 0) : Step patience interval r .due (r.goOn (pause.resume .due))
  | notice {r : Race} {pause : Pause} {seen : Bool} {sign : Wake} {flag : StopFlag}
      (h : r.place = .waiting pause seen) (hflag : r.flag.look? = some (sign, flag)) :
      Step patience interval r (.notice sign) ({ r with flag }.goOn (pause.resume sign))
  | elapse {r : Race} {pause : Pause} (h : r.place = .waiting pause true) (ms : Nat) :
      Step patience interval r (.elapse ms)
        { r with place := .waiting { pause with left := pause.left - ms } true }
  | send {r : Race} (h : r.flag.orphaned = false) (stop : Bool) :
      Step patience interval r (.send stop) { r with flag := r.flag.set stop }
  | drop (r : Race) : Step patience interval r .drop { r with flag := r.flag.orphan }

/-- A state that is reached by allowed acts. -/
inductive Reaches (patience : Nat) (interval : Span) (allowed : Act → Prop) (r : Race) : Race → Prop
  | refl : Reaches patience interval allowed r r
  | step {s t : Race} {a : Act} (hs : Reaches patience interval allowed r s) (ha : allowed a)
      (h : Step patience interval s a t) : Reaches patience interval allowed r t

end Race

end NodeLabels.Topology
