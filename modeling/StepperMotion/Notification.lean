/-!
# Reports from the timer

What a timer match can have to report. Serving a match must not wait for anybody, so it leaves a
small record for the supervisor and goes on. A report carries the epoch of its axis: a move that
was replaced or stopped in the meantime is recognised by it.
-/

namespace StepperMotion

inductive NotificationKind where
  /-- A number of half-steps went out since the last report. -/
  | progress
  /-- The move is at its end, and the timer has been stopped. -/
  | completed
  /-- The setpoint was passed, and the timer has been stopped so that the axis can turn back. -/
  | overshoot
  /-- The timer refused a frequency, and the axis has been stopped. -/
  | timerFault
deriving DecidableEq, Repr

namespace NotificationKind

/-- The timer has been stopped, and nothing else will follow from this move. -/
def isTerminal (k : NotificationKind) : Bool := k != progress

def name : NotificationKind → String
  | progress => "Progress"
  | completed => "Completed"
  | overshoot => "Overshoot"
  | timerFault => "TimerFault"

end NotificationKind

/-- A report from serving a timer match. -/
structure Notification where
  handle : Nat
  /-- The epoch of the axis at the time. -/
  epoch : UInt32
  posAct : Int
  kind : NotificationKind
deriving DecidableEq, Repr

end StepperMotion
