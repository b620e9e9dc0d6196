import StepperMotion.Word

/-!
# Frequency ramps

A move starts at a frequency the motor can follow from rest, climbs to the one that was asked for,
and brakes in time to arrive slowly. Climbing is `slopeRatio` times as steep as braking, so
braking starts once the distance left is `slopeRatio` times the distance of the climb.

A ramp is advanced at most once per period. Distances are half-steps for a move by steps and
positions for a closed-loop move; the ramp itself does not care which.
-/

namespace StepperMotion

structure Ramp where
  /-- The frequency to reach, the ceiling of the ramp. -/
  requested : Nat
  /-- The frequency the timer is to run at. -/
  current : Nat
  /-- The frequency the ramp started from. -/
  delta : Nat
  /-- How much one period of climbing adds; zero makes the ramp flat. -/
  increment : Nat
  /-- How much one period of braking takes away, and the lowest frequency it leads to. -/
  decrement : Nat
  /-- How many times climbing is steeper than braking. -/
  slopeRatio : Nat
  /-- Milliseconds between two changes of the frequency. -/
  periodMs : Nat
  /-- When the frequency was last changed. -/
  changedMs : Nat
  /-- The climb is over. -/
  cruising : Bool
  /-- How far the climb went. -/
  climbed : Nat
deriving DecidableEq, Repr

namespace Ramp

structure Progress where
  travelled : Nat
  remaining : Nat
  /-- More than half of the way is done. -/
  pastMiddle : Bool
deriving DecidableEq, Repr

/-- One frequency throughout. -/
def flat (freq nowMs : Nat) : Ramp where
  requested := freq
  current := freq
  delta := 0
  increment := 0
  decrement := freq
  slopeRatio := 1
  periodMs := 0
  changedMs := nowMs
  cruising := true
  climbed := 0

/-- A climb from the `divisor`-th part of `requested` to `requested`. It does not start below
`minFreq`, where the timer cannot be armed, nor above `requested`. -/
def trapezoid (requested divisor slopeRatio periodMs minFreq nowMs : Nat) : Ramp :=
  let delta := min (max (requested / max divisor 1) minFreq) requested
  { requested := requested
    current := delta
    delta := delta
    increment := Count.mul delta slopeRatio
    decrement := delta
    slopeRatio := slopeRatio
    periodMs := periodMs
    changedMs := nowMs
    cruising := false
    climbed := 0 }

/-- Starts from the frequency of the ramp that is nearest to `freq`. -/
def seed (r : Ramp) (freq : Nat) : Except Fault Ramp :=
  (Count.clampBetween r.decrement r.requested freq).map fun f => { r with current := f }

/-- The ramp never changes its frequency. -/
def isFlat (r : Ramp) : Bool := r.increment == 0

/-- More than a period has passed since the last change. -/
def due (r : Ramp) (nowMs : Nat) : Bool :=
  !r.isFlat && decide (r.periodMs < nowMs - r.changedMs)

/-- Lowers the ceiling to `freq`, though not below the decrement, and ends the climb. A ceiling
that is as low already is left alone. -/
def cap (r : Ramp) (freq travelled : Nat) : Ramp :=
  if r.requested ≤ freq then r
  else
    let ceiling := max freq r.decrement
    { r with
      requested := ceiling
      current := min r.current ceiling
      cruising := true
      climbed := if r.cruising then r.climbed else travelled }

/-- One period of climbing, before the middle of the way. -/
def climb (r : Ramp) (p : Progress) : Ramp :=
  if r.cruising || p.pastMiddle then r
  else
    let f := Count.add r.current r.increment
    if r.requested ≤ f then
      { r with current := r.requested, cruising := true, climbed := p.travelled }
    else { r with current := f }

/-- It is time to brake: after a whole climb when the rest of the way is short enough, after a
climb that was cut short as soon as the middle is past. -/
def brakes (r : Ramp) (p : Progress) : Bool :=
  if r.cruising then decide (p.remaining ≤ Count.mul r.climbed r.slopeRatio) else p.pastMiddle

/-- One period of braking, down to the decrement at the lowest. -/
def brake (r : Ramp) : Ramp :=
  { r with current := max (r.current - r.decrement) r.decrement }

/-- Advances the ramp by one period. -/
def update (r : Ramp) (p : Progress) (nowMs : Nat) : Ramp :=
  let r := ({ r with changedMs := nowMs } : Ramp).climb p
  if r.brakes p then r.brake else r

end Ramp

end StepperMotion
