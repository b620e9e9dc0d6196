import StepperMotion.Axis.Move
import StepperMotion.Machine
import StepperMotion.Telemetry.Event

/-!
# Stations

A machine together with the parties that work on it. Every axis has a dispatcher, which takes the
commands from the inbox of the axis one after the other. One supervisor takes the reports of the
timer matches, and sees to it that an axis that has passed its setpoint turns back after a rest.

The parties do not wait for each other. What each of them does to an axis it does at one stroke,
while it holds the axis, and between two strokes anything may happen. So a party is a state that
says what its next stroke is, and the strokes of all parties may follow each other in any order.
-/

namespace StepperMotion

/-- A command on its way to an axis. -/
structure Envelope where
  command : Command
  /-- The number under which somebody waits for the answer. -/
  ticket : Option Nat
deriving DecidableEq, Repr

namespace Dispatcher

/-- What a dispatcher does next. -/
inductive Phase where
  | starting
  /-- It takes a command from the inbox. -/
  | idle
  /-- It checks a command and prepares the axis for it. -/
  | received (e : Envelope)
  /-- It carries out a command. -/
  | ready (e : Envelope)
  /-- It carries out a command when the axis has rested until a time. -/
  | waiting (e : Envelope) (untilMs : Nat)
  /-- Nothing any more. -/
  | ended
  /-- Nothing any more, because a computation failed. -/
  | failed (f : Fault)
deriving DecidableEq, Repr

namespace Phase

/-- The dispatcher will do something yet. -/
def isLive : Phase → Bool
  | ended | failed _ => false
  | _ => true

/-- The dispatcher can be called off. -/
def isAtRest : Phase → Bool
  | starting | idle | waiting .. => true
  | _ => false

def envelope? : Phase → Option Envelope
  | received e | ready e | waiting e _ => some e
  | _ => none

end Phase

end Dispatcher

/-- Who carries out the commands for one axis. -/
structure Dispatcher where
  handle : Nat
  name : String
  /-- The commands that were accepted and not yet taken. -/
  inbox : Mailbox Envelope
  /-- No more commands will come. -/
  hungUp : Bool := false
  phase : Dispatcher.Phase := .starting
deriving DecidableEq, Repr

/-- What the supervisor does next. -/
inductive Supervisor where
  | starting
  /-- It judges the report in its hands. If there is none, it looks after the parked reports of
  the axes that it has yet to visit, and if there are none, it takes a report from the queue or
  heeds the signal. -/
  | working (inHand : Option Notification) (toVisit : List Nat)
  /-- Nothing any more. -/
  | off
deriving DecidableEq, Repr

/-- The supervisor can be called off. -/
def Supervisor.isAtRest : Supervisor → Bool
  | starting | working none [] => true
  | _ => false

/-- A closed-loop move that has passed its setpoint and rests before it goes on. -/
structure Reversal where
  id : Nat
  note : Notification
  /-- When the move goes on. -/
  dueMs : Nat
deriving DecidableEq, Repr

/-- The answer to a command. -/
structure Reply where
  /-- The number under which somebody waits for it. -/
  ticket : Nat
  result : Except MotionError Outcome

/-- A machine and the parties that work on it. -/
structure Station where
  machine : Machine
  /-- Milliseconds since the machine was built. -/
  nowMs : Nat := 0
  dispatchers : List Dispatcher := []
  supervisor : Supervisor := .off
  /-- The moves that rest before they go on. -/
  reversals : List Reversal := []
  /-- The number of the next such move. -/
  nextReversal : Nat := 0
  /-- The number of the next command whose answer somebody waits for. -/
  nextTicket : Nat := 0
  /-- The answers that were given. -/
  replies : List Reply := []
  /-- The events that nobody has read. -/
  events : EventStream
  log : List LogLine := []

namespace Station

def say (s : Station) (severity : Severity) (text : String) : Station :=
  { s with log := s.log ++ [⟨severity, text⟩] }

/-- Takes the lines out of the log. -/
def takeLog (s : Station) : Station × List LogLine := ({ s with log := [] }, s.log)

def publish (s : Station) (axis : String) (kind : EventKind) (posAct : Int) : Station :=
  { s with events := s.events.publish ⟨axis, kind, posAct⟩ }

/-- Reads the events: how many were missed, and those that are left. -/
def readEvents (s : Station) : Station × Nat × List Event :=
  let (events, missed, unread) := s.events.read
  ({ s with events := events }, missed, unread)

def pass (s : Station) (ms : Nat) : Station := { s with nowMs := s.nowMs + ms }

def switchPower (s : Station) (on : Bool) : Station :=
  { s with machine := { s.machine with powered := on }, log := s.log ++ [Machine.powerLine on] }

/-- Holds axis `h` for the time of one transition. -/
def operate {α : Type} (s : Station) (h : Nat) (f : Axis → Transition α) :
    Station × Except MotionError α :=
  match s.machine.axes[h]? with
  | none => (s, .error (Machine.unknownHandle h))
  | some a =>
    let t := f a
    ({ s with machine := s.machine.setAxis h t.axis, log := s.log ++ t.log }, .ok t.answer)

/-- Serves a timer match of axis `h`, unless the axis is `held`. -/
def serveMatch (s : Station) (h : Nat) (held : Bool) : Station × Except Fault Bool :=
  let (m, r) := s.machine.serveMatch h s.nowMs held
  ({ s with machine := m }, r)

/-- Changes the board of an axis from outside. -/
def disturb (s : Station) (h : Nat) (f : Board → Board) : Station :=
  { s with machine := s.machine.modifyBoard h f }

/-- Carries out a command at once, without a dispatcher. -/
def override (s : Station) (h : Nat) (c : Command) :
    Station × Except MotionError (Except Failure Outcome) :=
  s.operate h fun a => a.apply c s.nowMs

def setDispatcher (s : Station) (i : Nat) (d : Dispatcher) : Station :=
  { s with dispatchers := s.dispatchers.set i d }

end Station

end StepperMotion
