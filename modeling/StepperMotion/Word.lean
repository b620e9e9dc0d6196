/-!
# Counters and positions of 32 bits

Frequencies, half-step counters and distances are natural numbers up to `Count.limit`; positions
are integers between `Position.lowest` and `Position.highest`. The board and the axis compute on
them in four ways, and each has its own operation here: an excess is cut off at the bound
(`Count.add`, `Position.sub`), it wraps around (`Position.wrap`), or it is a `Fault`
(`Count.checkedAdd`, `Count.checkedMul`, `Position.checkedNeg`, `Position.clampBetween`).

A `Fault` is not an answer of the motion engine. It ends the computation it happens in, and
whoever asked for that computation gets none.
-/

namespace StepperMotion

/-- Why a computation has no result in its range. -/
inductive Fault where
  | addOverflow
  | mulOverflow
  /-- The opposite of the lowest position was asked for. -/
  | negOverflow
  /-- A value was to be kept between bounds that are in the wrong order. -/
  | crossedBounds (lo hi : Int)
deriving DecidableEq, Repr

namespace Fault

def message : Fault → String
  | addOverflow => "attempt to add with overflow"
  | mulOverflow => "attempt to multiply with overflow"
  | negOverflow => "attempt to negate with overflow"
  | crossedBounds lo hi => s!"min > max. min = {lo}, max = {hi}"

end Fault

/-! ## Counters -/

namespace Count

abbrev limit : Nat := 4294967295

/-- The sum, cut off at the limit. -/
def add (a b : Nat) : Nat := min (a + b) limit

/-- The product, cut off at the limit. -/
def mul (a b : Nat) : Nat := min (a * b) limit

/-- The sum, if it is a counter value. -/
def checkedAdd (a b : Nat) : Except Fault Nat :=
  if a + b ≤ limit then .ok (a + b) else .error .addOverflow

/-- The product, if it is a counter value. -/
def checkedMul (a b : Nat) : Except Fault Nat :=
  if a * b ≤ limit then .ok (a * b) else .error .mulOverflow

/-- The member of the range from `lo` to `hi` that is nearest to `n`. -/
def clampBetween (lo hi n : Nat) : Except Fault Nat :=
  if lo ≤ hi then .ok (max lo (min n hi)) else .error (.crossedBounds lo hi)

end Count

/-! ## Positions -/

namespace Position

abbrev lowest : Int := -2147483648

abbrev highest : Int := 2147483647

/-- The position nearest to an integer. -/
def clamp (x : Int) : Int := max lowest (min x highest)

/-- The difference, cut off at the bounds. -/
def sub (a b : Int) : Int := clamp (a - b)

/-- The distance from zero; that of the lowest position is cut off at the highest one. -/
def abs (a : Int) : Int := min (a.natAbs : Int) highest

/-- The position that an encoder of 32 bits shows for an integer. -/
def wrap (x : Int) : Int := x.bmod 4294967296

/-- The exact distance between two positions. -/
def distance (a b : Int) : Nat := min (a - b).natAbs Count.limit

/-- The opposite position, if there is one. -/
def checkedNeg (a : Int) : Except Fault Int :=
  if a = lowest then .error .negOverflow else .ok (-a)

/-- The member of the range from `lo` to `hi` that is nearest to `x`. -/
def clampBetween (lo hi x : Int) : Except Fault Int :=
  if lo ≤ hi then .ok (max lo (min x hi)) else .error (.crossedBounds lo hi)

end Position

end StepperMotion
