import StepperMotion.MotionError
import StepperMotion.Proportional

/-!
# Configuration

The figures all axes of a machine share, with the values the boards are delivered with, and what
is particular to one axis. `MotionConfig.validate` says whether the figures fit together: the
frequency limits in order, a table with one entry per speed level, every entry of it within the
limits, and nothing zero that must not be.

The delay for a change of direction may be any number of milliseconds, and nothing here rejects a long
one. But the delay is given to a timer service that waits for `longestWaitMs` at most, so that an axis
rests for `MotionConfig.restMs`. The limit is a constant of this service and no figure of the machine.

The table is in kilohertz. A frequency that is too large for a counter is a fault, both when it is
looked up and when the table is checked, so that `validate` has three outcomes.
-/

namespace StepperMotion

/-- The longest wait of the timer service that all waits are given to: thirty years of 365 days, its
constant for a time in the far future. It was measured too: a wait of one millisecond more ends after
this time, and so does one of `2 ^ 64 - 1` milliseconds. -/
def longestWaitMs : Nat := 30 * 365 * 24 * 60 * 60 * 1000

/-- The figures that all axes share. -/
structure MotionConfig where
  /-- The highest frequency of a free run and of a move by steps. -/
  maxFreq : Nat := 125000
  /-- The lowest frequency the timers are armed with. -/
  minFreq : Nat := 100
  /-- The highest frequency of a closed-loop move. -/
  compumotorMaxFreq : Nat := 300000
  maxSpeedLevel : Nat := 8
  /-- The frequency of each speed level, in kilohertz. -/
  speedTableKhz : List Nat := [0, 5, 15, 25, 50, 75, 75, 100, 125]
  /-- How long an axis rests before it turns the other way. -/
  directionChangeDelayMs : Nat := 500
  /-- Half-steps between two reports of progress. -/
  reportInterval : Nat := 2500
  /-- An axis is at its setpoint when it is less than this far away. -/
  posThreshold : Int := 6
  /-- The approach begins less than this far away from the setpoint. -/
  approachThreshold : Int := 100
  /-- The ceiling of the frequency during the approach. -/
  approachFreq : Nat := 31250
  /-- A report that shows a move of less than this is a sign of a stall. -/
  stallThreshold : Int := 3
  /-- As many signs in a row are a stall. -/
  stallMaxCount : Nat := 40
  stallDetection : Bool := true
  /-- How many times climbing is steeper than braking. -/
  slopeRatio : Nat := 3
  /-- The frequency a closed-loop move climbs to. -/
  closedLoopMaxFreq : Nat := 125000
  /-- Hertz per unit of output of the proportional controller. -/
  closedLoopFreqMultiplier : Nat := 1250
  /-- A closed-loop move starts at this part of the frequency it climbs to. -/
  closedLoopDivisor : Nat := 50
  /-- Milliseconds between two changes of the frequency of a closed-loop move. -/
  closedLoopPeriodMs : Nat := 50
  /-- The room in the command queue of an axis. -/
  commandCapacity : Nat := 5
  /-- The room in the queue of reports. -/
  notificationCapacity : Nat := 32
  /-- The events a slow listener may fall behind. -/
  eventCapacity : Nat := 64
deriving DecidableEq, Repr

/-- Why an operation of the engine has no answer: it was refused, or a computation failed. -/
inductive Failure where
  | refused (e : MotionError)
  | fault (f : Fault)
deriving DecidableEq, Repr

namespace MotionConfig

/-- How long an axis rests in fact: the delay for a change of direction, up to the longest wait of the
timer service. -/
def restMs (c : MotionConfig) : Nat := min c.directionChangeDelayMs longestWaitMs

/-- The frequency of a speed level. Level zero and the levels beyond the highest one have none. -/
def freeRunFreq (c : MotionConfig) (level : Nat) : Except Fault (Option Nat) :=
  if level = 0 ∨ c.maxSpeedLevel < level then .ok none
  else match c.speedTableKhz[level]? with
    | none => .ok none
    | some khz => (Count.checkedMul khz 1000).map some

/-- An entry of the speed table is outside the frequency limits. -/
def outOfRange (c : MotionConfig) (khz : Nat) : Except Fault Bool := do
  let hz ← Count.checkedMul khz 1000
  return decide (hz < c.minFreq ∨ c.maxFreq < hz)

/-- The first entry that is outside the frequency limits. -/
def firstOutOfRange (c : MotionConfig) : List Nat → Except Fault (Option Nat)
  | [] => .ok none
  | khz :: rest => do
    if ← c.outOfRange khz then return some khz else c.firstOutOfRange rest

def reject {α : Type} (detail : String) : Except Failure α := .error (.refused (.config detail))

/-- A computation whose fault ends the operation. -/
def orFault {α : Type} : Except Fault α → Except Failure α
  | .ok a => .ok a
  | .error f => .error (.fault f)

/-- The frequency limits are in order. -/
def checkLimits (c : MotionConfig) : Except Failure Unit := do
  if c.minFreq = 0 ∨ c.maxFreq < c.minFreq then
    reject s!"min_freq {c.minFreq} must be in (0, max_freq {c.maxFreq}]"
  if c.compumotorMaxFreq < c.maxFreq then
    reject "max_freq exceeds compumotor_max_freq"
  if c.closedLoopMaxFreq < c.minFreq ∨ c.compumotorMaxFreq < c.closedLoopMaxFreq then
    reject "closed_loop_max_freq out of range"

/-- There is one entry per speed level, and all but that of level zero are within the limits. -/
def checkTable (c : MotionConfig) : Except Failure Unit := do
  let entries := c.speedTableKhz.length
  if entries ≠ c.maxSpeedLevel + 1 then
    let needed ← orFault (Count.checkedAdd c.maxSpeedLevel 1)
    reject s!"free_run_freqs_khz needs {needed} entries, got {entries}"
  if let some khz ← orFault (c.firstOutOfRange c.speedTableKhz.tail) then
    reject s!"free run frequency {khz} kHz out of range"

/-- The approach is possible, and nothing is zero that must not be. -/
def checkRest (c : MotionConfig) : Except Failure Unit := do
  if c.approachFreq < c.minFreq ∨ c.closedLoopMaxFreq < c.approachFreq then
    reject "approach_freq out of range"
  if c.slopeRatio = 0 ∨ c.reportInterval = 0 then
    reject "slope_ratio and supervisor_rate must be non-zero"
  if c.closedLoopDivisor = 0 then
    reject "closed_loop_amplitude_divisor must be non-zero"
  if c.commandCapacity = 0 ∨ c.notificationCapacity = 0 ∨ c.eventCapacity = 0 then
    reject "queue capacities must be non-zero"

/-- Refuses a configuration whose figures do not fit together; the first misfit is reported. -/
def validate (c : MotionConfig) : Except Failure Unit := do
  c.checkLimits
  c.checkTable
  c.checkRest

end MotionConfig

/-- What is particular to one axis. -/
structure AxisConfig where
  name : String
  /-- A figure kept for whoever displays positions. -/
  offset : Int := 0
  controller : Option Proportional.Settings := none
deriving DecidableEq, Repr

end StepperMotion
