import NodeLabels.Topology.Cycle
/-!
# The cadence of the topology job

The job on a clock of its own, which moves only when it is told to. Between two happenings the job
runs as far as it can, that is to its next pause, and a pause ends when its time has come or when
the stop flag is set or left alone for good.
-/

namespace NodeLabels.Topology

/-- The stop flag as its reader sees it. -/
structure StopFlag where
  value : Bool := false
  /-- Whether it was set since the reader last looked. -/
  unseen : Bool := false
  /-- Whether nobody can set it any more. -/
  orphaned : Bool := false
deriving DecidableEq, Repr

namespace StopFlag

def set (f : StopFlag) (value : Bool) : StopFlag := { f with value, unseen := true }

def orphan (f : StopFlag) : StopFlag := { f with orphaned := true }

/-- What a look at the flag shows, if there is anything new. A value that was set comes first. -/
def look? (f : StopFlag) : Option (Wake × StopFlag) :=
  if f.unseen then some (.changed f.value, { f with unseen := false })
  else if f.orphaned then some (.abandoned, f)
  else none

end StopFlag

/-- A pause that lasts `left` more milliseconds, and what comes after it. -/
structure Pause where
  left : Nat
  resume : Wake → Dialogue port Unit

inductive Stage
  | waiting (pause : Pause)
  | ended (result : Except Halt Unit)

/-- The job between two happenings. -/
structure Clockwork (σ : Type) where
  world : σ
  events : List Event := []
  flag : StopFlag
  stage : Stage

namespace Clockwork

variable {σ : Type}

/-- A span in milliseconds, a part of one counted as a whole. -/
def milliseconds (s : Span) : Nat := (s.toNanos + 999999) / 1000000

/-- Runs on to the next pause. -/
def proceed (reply : (c : Call) → σ → port.Reply c × σ) (flag : StopFlag) :
    Dialogue port Unit → σ → List Event → Clockwork σ
  | .done (), world, events => { world, events, flag, stage := .ended (.ok ()) }
  | .halt why, world, events => { world, events, flag, stage := .ended (.error why) }
  | .report e d, world, events => proceed reply flag d world (events ++ [e])
  | .call (.pause interval) resume, world, events =>
    { world, events, flag, stage := .waiting { left := milliseconds interval, resume } }
  | .call .instanceName k, world, events =>
    proceed reply flag (k (reply .instanceName world).1) (reply .instanceName world).2 events
  | .call .physicalHost k, world, events =>
    proceed reply flag (k (reply .physicalHost world).1) (reply .physicalHost world).2 events
  | .call (.patch node labels) k, world, events =>
    proceed reply flag (k (reply (.patch node labels) world).1) (reply (.patch node labels) world).2
      events
  | .call (.count outcome) k, world, events =>
    proceed reply flag (k (reply (.count outcome) world).1) (reply (.count outcome) world).2 events
  | .call .stampSuccess k, world, events =>
    proceed reply flag (k (reply .stampSuccess world).1) (reply .stampSuccess world).2 events

def isRunning (c : Clockwork σ) : Bool :=
  match c.stage with
  | .waiting _ => true
  | .ended _ => false

def wake (reply : (c : Call) → σ → port.Reply c × σ) (c : Clockwork σ) (w : Wake) : Clockwork σ :=
  match c.stage with
  | .waiting pause => proceed reply c.flag (pause.resume w) c.world c.events
  | .ended _ => c

/-- Lets a job that waits look at the flag. -/
def settle (reply : (c : Call) → σ → port.Reply c × σ) (c : Clockwork σ) : Clockwork σ :=
  match c.flag.look? with
  | none => c
  | some (w, flag) => wake reply { c with flag } w

/-- Moves the clock, in pieces where it passes the end of a pause. A pause of no length is never
passed. -/
def advance (reply : (c : Call) → σ → port.Reply c × σ) (c : Clockwork σ) (ms : Nat) :
    Clockwork σ :=
  match c.stage with
  | .ended _ => c
  | .waiting pause =>
    if 0 < pause.left ∧ pause.left ≤ ms then advance reply (wake reply c .due) (ms - pause.left)
    else { c with stage := .waiting { pause with left := pause.left - ms } }
termination_by ms
decreasing_by omega

end Clockwork

/-- What can happen to the job from outside. -/
inductive Happening
  | advance (ms : Nat)
  | send (stop : Bool)
  /-- Nobody is left to set the flag. -/
  | drop
deriving DecidableEq, Repr

namespace Clockwork

variable {σ : Type}

def step (reply : (c : Call) → σ → port.Reply c × σ) (c : Clockwork σ) : Happening → Clockwork σ
  | .advance ms => advance reply c ms
  | .send stop => settle reply { c with flag := c.flag.set stop }
  | .drop => settle reply { c with flag := c.flag.orphan }

/-- Starts the job, which runs until it first waits. The flag holds `initial` from the outset and
was set to `sent` before the start. -/
def start (reply : (c : Call) → σ → port.Reply c × σ) (patience : Nat) (interval : Span)
    (initial : Bool) (sent : Option Bool) (world : σ) : Clockwork σ :=
  let flag : StopFlag := { value := initial }
  let flag := match sent with
    | some stop => flag.set stop
    | none => flag
  settle reply (proceed reply flag (watch patience interval) world [])

/-- More cycles than a script can bring about: two for the start, one for each happening, and one
for each time that the interval fits into the time that passes. -/
def patienceFor (interval : Span) (script : List Happening) : Nat :=
  script.foldl (fun n h => n + 1 + match h with
    | .advance ms => ms / max 1 (milliseconds interval) + 1
    | _ => 0) 3

/-- The job after the start and after each happening. -/
def trace (reply : (c : Call) → σ → port.Reply c × σ) (interval : Span) (initial : Bool)
    (sent : Option Bool) (world : σ) (script : List Happening) : List (Clockwork σ) :=
  let first := start reply (patienceFor interval script) interval initial sent world
  (script.foldl (fun (done, c) h => let c := step reply c h; (c :: done, c))
    ([first], first)).1.reverse

end Clockwork

end NodeLabels.Topology
