import StepperMotion.Board
import StepperMotion.Command
import StepperMotion.Config
import StepperMotion.Log
import StepperMotion.Notification
import StepperMotion.Ramp

/-!
# Axes

One motor and everything that is known about its current move. An axis is changed by three
parties that do not wait for each other: commands set up a move and start the timer, every timer
match advances the move by one half-step, and the supervisor looks at the reports of the matches.

What keeps them apart is the epoch. It is increased whenever a move is set up, stopped, resumed or
halted for a change of direction, and whatever was said about an axis in an older epoch no longer
counts.
-/

namespace StepperMotion

structure Axis where
  /-- The place of the axis in its machine. -/
  handle : Nat
  /-- The name commands are addressed to. -/
  name : String
  board : Board
  config : MotionConfig
  mode : Mode
  dir : Direction
  /-- The direction at the last timer match. -/
  lastDir : Direction
  /-- The setpoint of the latest closed-loop command. -/
  posCmd : Int
  /-- The position when it was last read. -/
  posAct : Int
  /-- Half way between start and setpoint of the latest closed-loop move. -/
  posMiddle : Int
  /-- The start of the latest closed-loop move. -/
  posStart : Int
  ramp : Ramp
  /-- The half-steps to make in a move by steps. -/
  halfStepsRequested : Nat
  halfStepsCompleted : Nat
  halfStepsToMiddle : Nat
  /-- The half-steps made since the last report. -/
  halfPulses : Nat
  /-- The axis was stopped because the motor did not follow. -/
  stalled : Bool
  /-- The signs of a stall in a row. -/
  stalledCount : Nat
  /-- The position of the last report that counted. -/
  lastPos : Int
  /-- The latest move has reached its end. -/
  alreadyThere : Bool
  /-- A figure kept for whoever displays positions. -/
  offset : Int
  controller : Option Proportional
  /-- Grows whenever earlier reports lose their meaning, and wraps around. -/
  epoch : UInt32
  /-- The epoch in which the axis was halted for a change of direction. -/
  quiescedEpoch : Option UInt32
  /-- A terminal report for which the queue had no room. -/
  parked : Option Notification
  /-- The reports of progress that were lost. -/
  dropped : Nat
deriving DecidableEq, Repr

/-- What an operation on an axis comes to. -/
structure Transition (α : Type) where
  axis : Axis
  log : List LogLine
  answer : α
deriving Repr

/-- The same transition with lines of the log in front. -/
def Transition.logged {α : Type} (t : Transition α) (lines : List LogLine) : Transition α :=
  { t with log := lines ++ t.log }

/-- A copy of what is known of an axis at one time. -/
structure Status where
  name : String
  mode : Mode
  direction : Direction
  posCmd : Int
  posAct : Int
  stalled : Bool
  /-- The latest move has reached its end. -/
  alreadyThere : Bool
  offset : Int
  currentFreq : Nat
  halfStepsCompleted : Nat
  halfStepsRequested : Nat
  /-- The reports of progress that were lost. -/
  droppedNotifications : Nat
deriving DecidableEq, Repr

namespace Status

def isMoving (s : Status) : Bool := s.mode.isMoving

def isFaulted (s : Status) : Bool := s.stalled

/-- The axis waits for a command and has not failed. -/
def isReady (s : Status) : Bool := !s.isMoving && !s.stalled

end Status

namespace Axis

/-- An axis at rest on a board that has just been powered up. -/
def create (handle : Nat) (own : AxisConfig) (board : Board) (config : MotionConfig) : Axis :=
  let board := (board.initTimer.setStep false).setDir Direction.clockwise.level
  { handle := handle
    name := own.name
    board := board
    config := config
    mode := .stopped
    dir := .clockwise
    lastDir := .clockwise
    posCmd := board.position
    posAct := board.position
    posMiddle := board.position
    posStart := board.position
    ramp := .flat 0 0
    halfStepsRequested := 0
    halfStepsCompleted := 0
    halfStepsToMiddle := 0
    halfPulses := 0
    stalled := false
    stalledCount := 0
    lastPos := board.position
    alreadyThere := false
    offset := own.offset
    controller := own.controller.map .ofSettings
    epoch := 0
    quiescedEpoch := none
    parked := none
    dropped := 0 }

/-! ## Reading -/

def isRunning (a : Axis) : Bool := a.board.timer.running

/-- The axis after a look at its encoder. -/
def sense (a : Axis) : Axis := { a with posAct := a.board.position }

/-- How far the setpoint is from the position. -/
def positionError (a : Axis) : Int := Position.sub a.posCmd a.posAct

/-- The axis is at its setpoint. -/
def withinThreshold (a : Axis) : Bool :=
  decide (Position.abs a.positionError < a.config.posThreshold)

/-- The status of the axis; taking it reads the encoder. -/
def status (a : Axis) : Axis × Status :=
  let a := a.sense
  (a, { name := a.name
        mode := a.mode
        direction := a.dir
        posCmd := a.posCmd
        posAct := a.posAct
        stalled := a.stalled
        alreadyThere := a.alreadyThere
        offset := a.offset
        currentFreq := a.ramp.current
        halfStepsCompleted := a.halfStepsCompleted
        halfStepsRequested := a.halfStepsRequested
        droppedNotifications := a.dropped })

/-- A report about the axis. -/
def report (a : Axis) (kind : NotificationKind) : Notification :=
  ⟨a.handle, a.epoch, a.posAct, kind⟩

/-! ## Small changes -/

/-- Makes everything said about the axis so far outdated. -/
def nextEpoch (a : Axis) : Axis := { a with epoch := a.epoch + 1 }

def stopTimer (a : Axis) : Axis := { a with board := a.board.stopTimer }

/-- Stops the timer and ends the move. -/
def halt (a : Axis) : Axis := { a.stopTimer with mode := .stopped }

/-- Forgets that the axis has failed or arrived. -/
def clearFaults (a : Axis) : Axis :=
  { a with stalled := false, stalledCount := 0, alreadyThere := false }

/-- Ends the move because the motor does not follow. -/
def tripStall (a : Axis) : Axis := { a.halt with stalled := true }

def setOffset (a : Axis) (offset : Int) : Axis := { a with offset := offset }

/-- Counts a report of progress that was lost. -/
def countDropped (a : Axis) : Axis := { a with dropped := Count.add a.dropped 1 }

/-- Keeps a terminal report until the supervisor asks for it. -/
def park (a : Axis) (note : Notification) : Axis := { a with parked := some note }

/-- Hands over the report that was kept. -/
def takeParked (a : Axis) : Axis × Option Notification := ({ a with parked := none }, a.parked)

end Axis

end StepperMotion
