import StepperMotion.Word

/-!
# Directions and modes

Which way an axis turns and what kind of move it is in. Turning clockwise lowers the position, so
clockwise is the way to go when the position error is negative; the direction line is high for it.
-/

namespace StepperMotion

inductive Direction where
  /-- Towards lower positions. -/
  | clockwise
  /-- Towards higher positions. -/
  | counterClockwise
deriving DecidableEq, Repr

namespace Direction

/-- The direction that reduces a position error. -/
def ofError (error : Int) : Direction := if error < 0 then clockwise else counterClockwise

def level : Direction → Bool
  | clockwise => true
  | counterClockwise => false

def abbreviation : Direction → String
  | clockwise => "CW"
  | counterClockwise => "CCW"

def name : Direction → String
  | clockwise => "Clockwise"
  | counterClockwise => "CounterClockwise"

def named : List (String × Direction) :=
  [clockwise, counterClockwise].map fun d => (d.name, d)

end Direction

/-- What an axis is doing. -/
inductive Mode where
  | stopped
  /-- Turning at one frequency until it is told otherwise. -/
  | freeRunning
  | closedLoop
  | steps
deriving DecidableEq, Repr

namespace Mode

def isMoving (m : Mode) : Bool := m != stopped

def name : Mode → String
  | stopped => "Stopped"
  | freeRunning => "FreeRunning"
  | closedLoop => "ClosedLoop"
  | steps => "Steps"

def named : List (String × Mode) :=
  [stopped, freeRunning, closedLoop, steps].map fun m => (m.name, m)

end Mode

end StepperMotion
