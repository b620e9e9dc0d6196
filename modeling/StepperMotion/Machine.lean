import StepperMotion.Axis.Tick
import StepperMotion.Axis.Verdict
import StepperMotion.Mailbox

/-!
# Machines

The axes of a machine, and what they share: the figures of the configuration, the main power, and
the queue of reports from the timers.

Serving a timer match must not wait. A match that finds its axis held by somebody is passed over,
for the timer raises the next one. A report that finds the queue full is counted as lost if it is
about progress; a terminal one is parked on its axis, and the signal tells the supervisor to come
and get it. The signal is raised or not; raising it twice is the same as raising it once.
-/

namespace StepperMotion

structure Machine where
  config : MotionConfig
  /-- The axes; the handle of an axis is its place. -/
  axes : List Axis
  /-- The reports that nobody has looked at. -/
  notes : Mailbox Notification
  /-- A terminal report was parked. -/
  parkedSignal : Bool := false
  powered : Bool
deriving DecidableEq, Repr

namespace Machine

/-! ## Building a machine -/

/-- The first name that is already among `seen` or the names before it. -/
def firstRepeated (seen : List String) : List String → Option String
  | [] => none
  | name :: rest => if name ∈ seen then some name else firstRepeated (name :: seen) rest

/-- A machine at rest, with a queue for `capacity` reports. No two axes may have the same name. -/
def build (config : MotionConfig) (axes : List (AxisConfig × Board)) (capacity : Nat)
    (powered : Bool) : Except MotionError Machine :=
  match firstRepeated [] (axes.map fun a => a.1.name) with
  | some name => .error (.config s!"duplicate axis name {name}")
  | none => .ok {
      config := config
      axes := axes.mapIdx fun h a => Axis.create h a.1 a.2 config
      notes := { capacity := capacity }
      powered := powered }

/-- The line that the power switch leaves in the log. -/
def powerLine (on : Bool) : LogLine := ⟨.debug, if on then "main power on" else "main power off"⟩

/-! ## Axes -/

/-- The handle of the axis with a name. -/
def handle? (m : Machine) (name : String) : Option Nat :=
  m.axes.findIdx? fun a => a.name == name

/-- The refusal for a handle that no axis has. -/
def unknownHandle (h : Nat) : MotionError := .unknownAxis s!"#{h}"

def setAxis (m : Machine) (h : Nat) (a : Axis) : Machine := { m with axes := m.axes.set h a }

def modifyAxis (m : Machine) (h : Nat) (f : Axis → Axis) : Machine :=
  { m with axes := m.axes.modify h f }

def modifyBoard (m : Machine) (h : Nat) (f : Board → Board) : Machine :=
  m.modifyAxis h fun a => { a with board := f a.board }

def read {α : Type} (m : Machine) (h : Nat) (f : Axis → α) : Except MotionError α :=
  match m.axes[h]? with
  | none => .error (unknownHandle h)
  | some a => .ok (f a)

/-- The status of an axis; taking it reads the encoder. -/
def status (m : Machine) (h : Nat) : Machine × Except MotionError Status :=
  (m.modifyAxis h Axis.sense, m.read h fun a => a.status.2)

def statuses (m : Machine) : Machine × List Status :=
  ({ m with axes := m.axes.map Axis.sense }, m.axes.map fun a => a.status.2)

/-! ## Timer matches -/

/-- Passes a report of axis `h` on to the supervisor. -/
def post (m : Machine) (h : Nat) (note : Notification) : Machine :=
  match m.notes.offer note with
  | .ok notes => { m with notes := notes }
  | .error _ =>
    if note.kind.isTerminal then { m.modifyAxis h (·.park note) with parkedSignal := true }
    else m.modifyAxis h Axis.countDropped

/-- Serves a timer match of axis `h`, unless the axis is `held` or its timer is not running, and
says whether it did. -/
def serveMatch (m : Machine) (h nowMs : Nat) (held : Bool) : Machine × Except Fault Bool :=
  match m.axes[h]? with
  | none => (m, .ok false)
  | some a =>
    if held || !a.isRunning then (m, .ok false)
    else
      match a.tick nowMs with
      | (a, .error f) => (m.setAxis h a, .error f)
      | (a, .ok none) => (m.setAxis h a, .ok true)
      | (a, .ok (some note)) => ((m.setAxis h a).post h note, .ok true)

end Machine

end StepperMotion
