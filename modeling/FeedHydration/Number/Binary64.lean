/-!
Finite double-precision numbers without machine floats. A magnitude is the exponent and fraction
fields read as one natural number, which orders doubles by value; the value itself is `units` times
2^-1074. Every operation is the exact quotient of two naturals, rounded once by `roundRatio`.
-/

namespace FeedHydration

namespace Binary64

/-- The magnitude field of infinity; all finite magnitudes lie below. -/
def infinity : Nat := 2047 * Nat.pow 2 52

/-- Exponent of the power of two that multiplies the significand, counted from 2^-1074. -/
def shift (magnitude : Nat) : Nat :=
  magnitude / Nat.pow 2 52 - 1

def significand (magnitude : Nat) : Nat :=
  if magnitude < Nat.pow 2 52 then magnitude else magnitude % Nat.pow 2 52 + Nat.pow 2 52

/-- The value of a magnitude in units of 2^-1074. -/
def units (magnitude : Nat) : Nat :=
  significand magnitude * Nat.pow 2 (shift magnitude)

/-- A quotient rounded to the nearest natural number, a half to the even neighbour. -/
def divNearestEven (num den : Nat) : Nat :=
  let quotient := num / den
  match compare (2 * (num % den)) den with
  | .lt => quotient
  | .gt => quotient + 1
  | .eq => quotient + quotient % 2

/-- The magnitude nearest to `num / den`. A significand that rounds up to 2^53 carries into the
exponent field by itself. The result is at least `infinity` when the quotient is too large. -/
def roundRatio (num den : Nat) : Nat :=
  let scaled := num * Nat.pow 2 1074
  let shift := Nat.log2 (scaled / den) - 52
  divNearestEven scaled (den * Nat.pow 2 shift) + shift * Nat.pow 2 52

def ofNat (n : Nat) : Nat :=
  roundRatio n 1

def mul (a b : Nat) : Nat :=
  roundRatio (units a * units b) (Nat.pow 2 2148)

def div (a b : Nat) : Nat :=
  roundRatio (units a) (units b)

/-- The largest power of ten that divides or multiplies in one step. -/
def maxPower : Nat := 308

/-- Division by a power of ten, in steps of `10 ^ maxPower`. -/
def divPower (magnitude exponent : Nat) : Nat :=
  if exponent ≤ maxPower then div magnitude (ofNat (Nat.pow 10 exponent))
  else if magnitude = 0 then 0
  else divPower (div magnitude (ofNat (Nat.pow 10 maxPower))) (exponent - maxPower)
termination_by exponent
decreasing_by unfold maxPower at *; omega

/-- Multiplication by a power of ten; none when the result is infinite. -/
def mulPower? (magnitude exponent : Nat) : Option Nat :=
  if exponent ≤ maxPower then
    let product := mul magnitude (ofNat (Nat.pow 10 exponent))
    if product < infinity then some product else none
  else if magnitude = 0 then some 0 else none

/-- The magnitude of `significand · 10 ^ exponent` as it comes from rounding the significand first
and the scaled value second. -/
def ofDecimal? (significand : Nat) : Int → Option Nat
  | .ofNat exponent => mulPower? (ofNat significand) exponent
  | .negSucc exponent => some (divPower (ofNat significand) (exponent + 1))

end Binary64

/-- A finite double. -/
structure Binary64 where
  negative : Bool
  magnitude : Nat
deriving DecidableEq

end FeedHydration
