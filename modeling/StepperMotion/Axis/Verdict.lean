import StepperMotion.Axis.Basic

/-!
# Judging a report

The supervisor looks at every report while it holds the axis. A report from an older epoch is
stale and changes nothing. A report of progress that shows hardly any movement is a sign of a
stall; enough signs in a row, and the axis is stopped and the main power has to be cut.
-/

namespace StepperMotion

/-- What a report means. -/
inductive Verdict where
  /-- It is about a move that was replaced or stopped. -/
  | stale
  | quiet
  /-- The motor does not follow; the axis has been stopped. -/
  | stalled
  | reached
  /-- The axis has to turn back. -/
  | overshoot
  | timerFault
deriving DecidableEq, Repr

def Verdict.name : Verdict → String
  | stale => "Stale"
  | quiet => "Quiet"
  | stalled => "Stalled"
  | reached => "Reached"
  | overshoot => "Overshoot"
  | timerFault => "TimerFault"

namespace Axis

/-- How far the axis has moved since the last report that counted. -/
def movedTo (a : Axis) (pos : Int) : Int := Position.abs (Position.sub pos a.lastPos)

/-- The axis with a report of progress at `pos` counted: one more sign of a stall, or the end of
them. -/
def countProgress (a : Axis) (pos : Int) : Axis :=
  { a with stalledCount :=
      if a.movedTo pos < a.config.stallThreshold then Count.add a.stalledCount 1 else 0 }

/-- Looks for a stall in a report of progress. -/
def watchProgress (a : Axis) (pos : Int) : Axis × Verdict :=
  if a.config.stallDetection && a.mode.isMoving then
    let a := a.countProgress pos
    if a.config.stallMaxCount ≤ a.stalledCount then (a.tripStall, .stalled) else (a, .quiet)
  else (a, .quiet)

/-- Judges a report. After the verdict `stalled` the main power has to be cut. -/
def inspect (a : Axis) (note : Notification) : Axis × Verdict :=
  if note.epoch = a.epoch then
    let (a, v) := match note.kind with
      | .progress => a.watchProgress note.posAct
      | .completed => (a, .reached)
      | .overshoot => (a, .overshoot)
      | .timerFault => (a, .timerFault)
    ({ a with lastPos := note.posAct }, v)
  else (a, .stale)

end Axis

end StepperMotion
