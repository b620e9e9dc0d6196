import StepperMotion.Station.Control

/-!
# Runs

Everything that can happen to a station at one stroke. A run is a list of such actions in any order:
the parties take turns as they like, time passes as it likes, timers raise matches as they like,
and the owner gives commands, asks, and stops the station. An action that is not possible in a state
changes nothing.
-/

namespace StepperMotion

/-- One thing that happens to a station. -/
inductive Action where
  | pass (ms : Nat)
  /-- The timer of an axis raises a match, perhaps while the axis is held. -/
  | timerMatch (h : Nat) (held : Bool)
  | place (h : Nat) (position : Int)
  | freeze (h : Nat) (frozen : Bool)
  | limitTimer (h : Nat) (hz : Nat)
  | submit (axis : String) (c : Command)
  /-- A command is given, and somebody waits for the answer. -/
  | request (axis : String) (c : Command)
  | status (axis : String)
  | statuses
  | setOffset (axis : String) (offset : Int)
  | setMainPower (on : Bool)
  | dispatch (i : Nat)
  | supervise (signalFirst : Bool)
  /-- A move goes on after its rest. -/
  | reverse (id : Nat)
  | stopAxis (h : Nat)
  /-- No more commands will come. -/
  | hangUp
  | cancelDispatcher (i : Nat)
  | cancelSupervisor
deriving DecidableEq, Repr

namespace Station

/-- The station after an action. -/
def act (s : Station) : Action → Station
  | .pass ms => s.pass ms
  | .timerMatch h held => (s.serveMatch h held).1
  | .place h position => s.disturb h (·.place position)
  | .freeze h frozen => s.disturb h (·.freeze frozen)
  | .limitTimer h hz => s.disturb h (·.limitTimer hz)
  | .submit axis c => (s.submit axis c).1
  | .request axis c => (s.request axis c).1
  | .status axis => (s.status axis).1
  | .statuses => s.statuses.1
  | .setOffset axis offset => (s.setOffset axis offset).1
  | .setMainPower on => s.setMainPower on
  | .dispatch i => s.dispatch i
  | .supervise signalFirst => s.supervise signalFirst
  | .reverse id => s.reverse id
  | .stopAxis h => s.stopAxis h
  | .hangUp => s.hangUp
  | .cancelDispatcher i => s.cancelDispatcher i
  | .cancelSupervisor => s.cancelSupervisor

/-- The station after a run. -/
def run (s : Station) (actions : List Action) : Station := actions.foldl act s

end Station

end StepperMotion
