import StepperMotion.Axis.Basic

/-!
# Serving a timer match

Every match of the timer is one half-step of the move, unless the move is over. It is over when a
move by steps has made its half-steps, when a closed-loop move is at its setpoint, or when a
closed-loop move has passed its setpoint and would have to turn back: then the timer is stopped
and that is reported. Otherwise the ramp is advanced if a period has passed, and the step line is
toggled. After every `reportInterval` half-steps the progress is reported.
-/

namespace StepperMotion

namespace Axis

/-- Starts counting half-steps for the next report anew if the direction has changed. -/
def noteDirection (a : Axis) : Axis :=
  if a.dir = a.lastDir then a else { a with halfPulses := 0, lastDir := a.dir }

def arrived (a : Axis) : Bool :=
  match a.mode with
  | .steps => decide (a.halfStepsRequested ≤ a.halfStepsCompleted)
  | .closedLoop => a.withinThreshold
  | .freeRunning | .stopped => false

/-- The setpoint lies behind the axis. -/
def overshot (a : Axis) : Bool :=
  a.mode == .closedLoop && Direction.ofError a.positionError != a.dir

def progress (a : Axis) : Ramp.Progress :=
  match a.mode with
  | .closedLoop =>
    { travelled := Position.distance a.posAct a.posStart
      remaining := Position.distance a.posCmd a.posAct
      pastMiddle := match a.dir with
        | .clockwise => decide (a.posAct < a.posMiddle)
        | .counterClockwise => decide (a.posMiddle < a.posAct) }
  | _ =>
    { travelled := a.halfStepsCompleted
      remaining := a.halfStepsRequested - a.halfStepsCompleted
      pastMiddle := decide (a.halfStepsToMiddle < a.halfStepsCompleted) }

/-- A closed-loop move is close to its setpoint. -/
def approaching (a : Axis) : Bool :=
  a.mode == .closedLoop &&
    decide (Position.abs a.positionError < a.config.approachThreshold)

/-- The ramp of the axis one period on. -/
def nextRamp (a : Axis) (nowMs : Nat) : Ramp :=
  let r := if a.approaching then a.ramp.cap a.config.approachFreq a.progress.travelled else a.ramp
  r.update a.progress nowMs

/-- Advances the ramp if a period has passed, and says whether the timer takes the frequency. -/
def advanceRamp (a : Axis) (nowMs : Nat) : Axis × Bool :=
  if a.ramp.due nowMs then
    let r := a.nextRamp nowMs
    match a.board.setFrequency r.current with
    | (b, .ok ()) => ({ a with ramp := r, board := b }, true)
    | (b, .error _) => ({ a with ramp := r, board := b }, false)
  else (a, true)

def halfStep (a : Axis) : Axis × Except Fault (Option Notification) :=
  let a := { a with
    board := a.board.toggleStep
    halfStepsCompleted := Count.add a.halfStepsCompleted 1 }
  match Count.checkedAdd a.halfPulses 1 with
  | .error f => (a, .error f)
  | .ok n =>
    if a.config.reportInterval ≤ n then
      ({ a with halfPulses := 0 }, .ok (some (a.report .progress)))
    else ({ a with halfPulses := n }, .ok none)

/-- Advances a move that has not come to its end. -/
def advance (a : Axis) (nowMs : Nat) : Axis × Except Fault (Option Notification) :=
  match a.advanceRamp nowMs with
  | (a, true) => a.halfStep
  | (a, false) => (a.halt, .ok (some (a.report .timerFault)))

/-- The axis as a timer match finds it. -/
def observe (a : Axis) : Axis :=
  let a := a.sense.noteDirection
  { a with alreadyThere := a.arrived }

def tick (a : Axis) (nowMs : Nat) : Axis × Except Fault (Option Notification) :=
  if a.mode.isMoving then
    let a := a.observe
    if a.alreadyThere then (a.halt, .ok (some (a.report .completed)))
    else if a.overshot then (a.stopTimer, .ok (some (a.report .overshoot)))
    else a.advance nowMs
  else (a, .ok none)

end Axis

end StepperMotion
