import StepperMotion.Direction

/-!
# Commands and their outcomes

What an axis can be told to do, and what comes of it when it is not refused. A speed level is an
index into the frequency table of the configuration.
-/

namespace StepperMotion

/-- A request to one axis. -/
inductive Command where
  /-- Turn at the frequency of a speed level until told otherwise. -/
  | freeRun (direction : Direction) (speedLevel : Nat)
  | closedLoop (setpoint : Int)
  /-- Make `stepCount` steps. The frequency climbs from the `divisor`-th part of that of the speed
  level, and changes at most once in `periodMs` milliseconds. -/
  | steps (direction : Direction) (speedLevel stepCount periodMs divisor : Nat)
  | stop
deriving DecidableEq, Repr

namespace Command

def direction? : Command → Option Direction
  | freeRun d _ | steps d _ _ _ _ => some d
  | closedLoop _ | stop => none

def speedLevel? : Command → Option Nat
  | freeRun _ n | steps _ n _ _ _ => some n
  | closedLoop _ | stop => none

def describe : Command → String
  | freeRun d n => s!"FreeRun \x7b direction: {d.name}, speed_level: {n} \x7d"
  | closedLoop p => s!"ClosedLoop \x7b setpoint: {p} \x7d"
  | steps d n count period divisor =>
    s!"Steps \x7b direction: {d.name}, speed_level: {n}, step_count: {count}, " ++
      s!"tick_period_ms: {period}, amplitude_divisor: {divisor} \x7d"
  | stop => "Stop"

end Command

/-- What came of a command that was not refused. -/
inductive Outcome where
  | started (frequency : Nat)
  /-- The axis is at the setpoint. -/
  | alreadyThere
  | stopped
  /-- The axis was not moving. -/
  | alreadyStopped
deriving DecidableEq, Repr

def Outcome.describe : Outcome → String
  | started f => s!"Started \x7b frequency: {f} \x7d"
  | alreadyThere => "AlreadyThere"
  | stopped => "Stopped"
  | alreadyStopped => "AlreadyStopped"

end StepperMotion
