import StepperMotion.Station.Dispatch
import StepperMotion.Station.Supervise
import StepperMotion.Telemetry.StatusDocument

/-!
# Starting, asking and stopping

What the owner of a station can do besides giving commands: start it with a configuration that makes
sense, ask for the state of the axes, set the display figure of an axis, switch the main power, and
stop all axes.

A bare station has a machine but nobody who works on it: whoever holds it takes the reports out of
the queue, and gives commands to dispatchers that are hired for one command.
-/

namespace StepperMotion

namespace Station

/-- A machine on which nobody works, with queues for so many reports and events. -/
def bare (config : MotionConfig) (axes : List (AxisConfig × Board)) (powered : Bool)
    (noteCapacity eventCapacity : Nat) : Except MotionError Station :=
  (Machine.build config axes noteCapacity powered).map fun m =>
    { machine := m, events := .ofCapacity eventCapacity }

/-- A dispatcher for axis `h` that has not begun to work. -/
def newDispatcher (config : MotionConfig) (h : Nat) (a : Axis) : Dispatcher where
  handle := h
  name := a.name
  inbox := { capacity := config.commandCapacity }

def start (config : MotionConfig) (axes : List (AxisConfig × Board)) (powered : Bool) :
    Except Failure Station := do
  config.validate
  match bare config axes powered config.notificationCapacity config.eventCapacity with
  | .error e => .error (.refused e)
  | .ok s =>
    let count := s.machine.axes.length
    return {
      s with
      dispatchers := s.machine.axes.mapIdx (newDispatcher config)
      supervisor := .starting }.say .info s!"Motion controller started with {count} axes"

/-- Hires a dispatcher for one command to axis `h`. It is at work already and takes nothing else. -/
def hire (s : Station) (h : Nat) (c : Command) : Station × Except MotionError Nat :=
  match s.machine.axes[h]? with
  | none => (s, .error (Machine.unknownHandle h))
  | some a =>
    let d : Dispatcher :=
      { handle := h
        name := a.name
        inbox := { capacity := 1, items := [⟨c, some s.nextTicket⟩] }
        phase := .idle }
    ({ s with dispatchers := [d], nextTicket := s.nextTicket + 1 }, .ok s.nextTicket)

/-- The fault that ended the work of a dispatcher. -/
def fault? (s : Station) : Option Fault :=
  s.dispatchers.findSome? fun d =>
    match d.phase with
    | .failed f => some f
    | _ => none

/-- Lets the dispatchers go. -/
def dismiss (s : Station) : Station := { s with dispatchers := [] }

/-! ## Asking -/

/-- The handle of the axis with a name. -/
def find (s : Station) (axis : String) : Except MotionError Nat :=
  match s.machine.handle? axis with
  | none => .error (.unknownAxis axis)
  | some h => .ok h

def status (s : Station) (axis : String) : Station × Except MotionError Status :=
  match s.find axis with
  | .error e => (s, .error e)
  | .ok h =>
    let (m, r) := s.machine.status h
    ({ s with machine := m }, r)

def statuses (s : Station) : Station × List Status :=
  let (m, r) := s.machine.statuses
  ({ s with machine := m }, r)

def telemetry (s : Station) : Station × Json :=
  let (s, r) := s.statuses
  (s, telemetryDocument r)

/-! ## Changing -/

def setOffset (s : Station) (axis : String) (offset : Int) : Station × Except MotionError Unit :=
  match s.find axis with
  | .error e => (s, .error e)
  | .ok h => s.operate h fun a => ⟨a.setOffset offset, [], ()⟩

/-- Switches the main power on behalf of the owner. -/
def setMainPower (s : Station) (on : Bool) : Station :=
  (s.say .info (if on then "Main power on" else "Main power off")).switchPower on

def stopAxis (s : Station) (h : Nat) : Station := (s.operate h Axis.stop).1

end Station

end StepperMotion
