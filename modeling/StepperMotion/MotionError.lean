/-!
# Refusals

Why a command, a look-up or a configuration is refused. Three of the causes lie in the command
itself and are found before the axis is touched. An `invariant` is a frequency that the limits or
the timer reject once a move has been set up. The others concern the way to the axis.
-/

namespace StepperMotion

/-- A reason for a refusal. -/
inductive MotionError where
  /-- The axis has no such speed level. -/
  | speedOutOfRange (axis : String) (speedLevel : Nat)
  /-- The start frequency is to be a fraction with the denominator zero. -/
  | zeroAmplitudeDivisor (axis : String)
  /-- The half-steps of the move cannot be counted. -/
  | stepCountOutOfRange (axis : String) (stepCount : Nat)
  /-- A frequency was rejected that should have been possible. -/
  | invariant (axis : String) (detail : String)
  | unknownAxis (axis : String)
  /-- The command queue of the axis has no room. -/
  | queueFull (axis : String)
  /-- Nobody serves the command queue of the axis. -/
  | dispatcherClosed (axis : String)
  /-- The configuration makes no sense. -/
  | config (detail : String)
deriving DecidableEq, Repr

namespace MotionError

/-- The command itself was at fault. -/
def isInvalidInput : MotionError → Bool
  | speedOutOfRange .. | zeroAmplitudeDivisor .. | stepCountOutOfRange .. => true
  | _ => false

def isInvariant : MotionError → Bool
  | invariant .. => true
  | _ => false

def message : MotionError → String
  | speedOutOfRange axis level => s!"{axis}: chosen speed out of bounds {level}"
  | zeroAmplitudeDivisor axis => s!"{axis}: amplitude divisor must be non-zero"
  | stepCountOutOfRange axis count => s!"{axis}: step count out of range {count}"
  | invariant axis detail => s!"{axis}: invariant violated: {detail}"
  | unknownAxis axis => s!"Axis not found: {axis}"
  | queueFull axis => s!"{axis}: command queue full"
  | dispatcherClosed axis => s!"{axis}: command dispatcher is not running"
  | config detail => s!"Invalid configuration: {detail}"

end MotionError

end StepperMotion
