import StepperMotion.Word
import StepperMotion.Numeric.Rounding

/-!
# Numbers in single precision

A `Single` is a sign and a magnitude, and the magnitude is a natural number of at most 24
significant bits over a power of two. Zero carries a sign too. Only what a gain times an error
needs is here: integers, products, opposites, and the way back to a position. All of it stays
well inside the range of exponents that the format has, so no exponent is stored: the scale of a
product is the sum of the scales.
-/

namespace StepperMotion

/-- The number `± magnitude / 2 ^ scale`. -/
structure Single where
  negative : Bool
  magnitude : Nat
  /-- How many of the bits stand after the binary point. -/
  scale : Nat
deriving DecidableEq, Repr

namespace Single

abbrev precision : Nat := 24

/-- The number nearest to an integer; a zero is the positive one. -/
def ofInt (x : Int) : Single := ⟨x < 0, roundToBits precision x.natAbs, 0⟩

def zero : Single := ⟨false, 0, 0⟩

/-- The number nearest to one tenth. -/
def tenth : Single := ⟨false, 13421773, 27⟩

def one : Single := ⟨false, 1, 0⟩

/-- The opposite number; the opposite of a zero is the other zero. -/
def neg (x : Single) : Single := { x with negative := !x.negative }

/-- The number nearest to the product. -/
def mul (x y : Single) : Single :=
  ⟨x.negative != y.negative, roundToBits precision (x.magnitude * y.magnitude), x.scale + y.scale⟩

/-- The integer part, with the fraction dropped whatever the sign. -/
def truncate (x : Single) : Int :=
  let whole := x.magnitude / Nat.pow 2 x.scale
  if x.negative then -whole else whole

/-- The integer part as a position, cut off at the bounds. -/
def toPosition (x : Single) : Int := Position.clamp x.truncate

/-- The 32 bits of the format: the sign, eight bits of exponent, and the significant bits but for
the leading one. -/
def toBits (x : Single) : Nat :=
  let sign := if x.negative then Nat.pow 2 31 else 0
  if x.magnitude = 0 then sign
  else
    let e := x.magnitude.log2
    let leading := Nat.pow 2 23
    let significand := x.magnitude * leading / Nat.pow 2 e
    sign + (e + 127 - x.scale) * leading + (significand - leading)

end Single

end StepperMotion
