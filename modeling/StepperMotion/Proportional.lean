import StepperMotion.Numeric.Single

/-!
# The proportional controller

A closed-loop move takes its first frequency from a controller whose output is the position error
times a gain, kept between two limits. So that a motor is not thrown to full speed from rest, the
first outputs after a restart are scaled down, the n-th to n tenths; so that it moves at all, no
output is smaller in magnitude than a floor, not even that of a zero error.

The arithmetic is single precision, as `Single` has it. The controller remembers how often it ran
and the last sample, and nothing else of its past.
-/

namespace StepperMotion

/-- How the process answers to the output of its controller. -/
inductive Acting where
  /-- A positive error asks for a positive output. -/
  | direct
  /-- A positive error asks for a negative output. -/
  | reverse
deriving DecidableEq, Repr

def Acting.name : Acting → String
  | direct => "Direct"
  | reverse => "Reverse"

def Acting.named : List (String × Acting) := [direct, reverse].map fun a => (a.name, a)

namespace Proportional

structure Limits where
  /-- The lowest output before scaling. -/
  lowest : Int
  /-- The highest output before scaling. -/
  highest : Int
  /-- The least magnitude of an output. -/
  floor : Int
deriving DecidableEq, Repr

/-- What a controller is built from. -/
structure Settings where
  /-- The gain; a negative one counts as none. -/
  gain : Int := 100
  acting : Acting := .direct
  samplePeriodMs : Nat := 50
  limits : Limits := ⟨-100, 100, 10⟩
deriving DecidableEq, Repr

end Proportional

structure Proportional where
  gain : Int
  /-- The gain in single precision, negated for a process that acts in reverse. -/
  signedGain : Single
  acting : Acting
  samplePeriodMs : Nat
  limits : Proportional.Limits
  lastInput : Int := 0
  lastError : Int := 0
  lastSetpoint : Int := 0
  /-- The output of the last sample, before scaling. -/
  lastOutput : Int := 0
  /-- Samples since the last restart. -/
  runs : Nat := 0
deriving DecidableEq, Repr

namespace Proportional

/-- The number of the first sample whose output is not scaled down. -/
abbrev startupRuns : Nat := 10

/-- Sets the gain; a negative one is ignored. -/
def setGain (c : Proportional) (gain : Int) : Proportional :=
  if gain < 0 then c
  else
    let g := Single.ofInt gain
    { c with
      gain := gain
      signedGain := match c.acting with
        | .direct => g
        | .reverse => g.neg }

/-- Sets how the process acts; a change negates the signed gain. -/
def setActing (c : Proportional) (acting : Acting) : Proportional :=
  { c with
    signedGain := if acting = c.acting then c.signedGain else c.signedGain.neg
    acting := acting }

def setLimits (c : Proportional) (limits : Limits) : Proportional :=
  { c with limits := limits }

/-- Sets the sample period; zero is ignored. -/
def setSamplePeriod (c : Proportional) (ms : Nat) : Proportional :=
  if ms = 0 then c else { c with samplePeriodMs := ms }

/-- A controller at rest. -/
def ofSettings (s : Settings) : Proportional :=
  ({ gain := 0
     signedGain := .zero
     acting := s.acting
     samplePeriodMs := s.samplePeriodMs
     limits := s.limits } : Proportional).setGain s.gain

/-- Forgets the samples, so that the next outputs are scaled down again. -/
def restart (c : Proportional) (input : Int) : Proportional :=
  { c with lastInput := input, lastError := 0, lastSetpoint := input, runs := 0 }

/-- The part of the output that the n-th sample after a restart lets through. -/
def attenuation (n : Nat) : Single :=
  if n < startupRuns then (Single.ofInt n).mul .tenth else .one

/-- The gain times the error, as a position. -/
def response (c : Proportional) (error : Int) : Int :=
  (c.signedGain.mul (Single.ofInt error)).toPosition

/-- Keeps an output away from zero: below `-floor` after a negative one, above `floor` otherwise. -/
def raise (floor output scaled : Int) : Except Fault Int :=
  if output < 0 then (Position.checkedNeg floor).map (min scaled) else .ok (max scaled floor)

/-- Takes one sample. The sample is remembered as soon as the output is known to lie between the
limits, so a fault of the floor still leaves it behind. -/
def run (c : Proportional) (setpoint input : Int) : Proportional × Except Fault Int :=
  let error := Position.sub setpoint input
  match Position.clampBetween c.limits.lowest c.limits.highest (c.response error) with
  | .error f => (c, .error f)
  | .ok output =>
    let c := { c with
      lastInput := input
      lastOutput := output
      lastError := error
      lastSetpoint := setpoint
      runs := Count.add c.runs 1 }
    let scaled := ((Single.ofInt output).mul (attenuation c.runs)).toPosition
    (c, raise c.limits.floor output scaled)

end Proportional

end StepperMotion
