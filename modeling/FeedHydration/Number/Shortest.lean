import FeedHydration.Number.Binary64
import FeedHydration.Text.Search

/-!
The shortest decimal of a double. Among the decimals that read back as the number, the one with the
fewest digits is written, and of those the one nearest to the number.
-/

namespace FeedHydration.Binary64

/-- The bounds of the numbers that round to a magnitude, in units of 2^-1076, and whether the
bounds themselves do. -/
structure Interval where
  lower : Nat
  upper : Nat
  closed : Bool

/-- Below a power of two the gap is half as wide as above it. -/
def interval (magnitude : Nat) : Interval :=
  let value := 4 * units magnitude
  let step := 2 * Nat.pow 2 (shift magnitude)
  let below := if significand magnitude = Nat.pow 2 52 ∧ 0 < shift magnitude then step / 2 else step
  ⟨value - below, value + step, significand magnitude % 2 == 0⟩

def Interval.contains (range : Interval) (x : Nat) : Bool :=
  if range.closed then range.lower ≤ x && x ≤ range.upper
  else range.lower < x && x < range.upper

/-- Digits and the power of ten that multiplies them. -/
structure Decimal where
  digits : Nat
  exponent : Int

/-- The decimal of the grid 10^exponent nearest to the magnitude, if one of the two neighbours
reads back. All quantities are scaled to naturals. -/
def onGrid? (magnitude : Nat) (exponent : Int) : Option Decimal :=
  let range := interval magnitude
  let up := Nat.pow 10 exponent.toNat * Nat.pow 2 1076
  let down := Nat.pow 10 (-exponent).toNat
  let value := 4 * units magnitude * down
  let scaled : Interval := ⟨range.lower * down, range.upper * down, range.closed⟩
  let floor := value / up
  let okFloor := scaled.contains (floor * up)
  let okCeil := scaled.contains ((floor + 1) * up)
  let nearer := if 2 * (value % up) < up then floor else floor + 1
  if okFloor && okCeil then some ⟨nearer, exponent⟩
  else if okFloor then some ⟨floor, exponent⟩
  else if okCeil then some ⟨floor + 1, exponent⟩
  else none

/-- The power of ten of the leading digit. -/
def leadingPower (magnitude : Nat) : Int :=
  let value := units magnitude
  if Nat.pow 2 1074 ≤ value then (Nat.toDigits 10 (value / Nat.pow 2 1074)).length - 1
  else
    let digits := (Nat.toDigits 10 (Nat.pow 2 1074 / value)).length
    if value * Nat.pow 10 (digits - 1) = Nat.pow 2 1074 then 1 - digits else - digits

/-- Tries 1, 2, … 17 digits. -/
def shortestFrom (magnitude : Nat) (leading : Int) : Nat → Nat → Decimal
  | count, 0 => ⟨units magnitude, leading - count⟩
  | count, tries + 1 =>
    match onGrid? magnitude (leading - count) with
    | some decimal => decimal
    | none => shortestFrom magnitude leading (count + 1) tries

def shortest (magnitude : Nat) : Decimal :=
  shortestFrom magnitude (leadingPower magnitude) 0 17

def zeros (n : Nat) : List Char :=
  List.replicate n '0'

/-- Positional up to sixteen places before the point and five after it; beyond that the first digit,
the others after a point, and a signed exponent. -/
def Decimal.render (d : Decimal) : List Char :=
  let written := Nat.toDigits 10 d.digits
  let point : Int := written.length + d.exponent
  let digits := Text.trimEnd '0' written
  if digits.length ≤ point ∧ point ≤ 16 then
    digits ++ zeros (point.toNat - digits.length) ++ ['.', '0']
  else if 0 < point ∧ point ≤ 16 then
    digits.take point.toNat ++ '.' :: digits.drop point.toNat
  else if -5 < point ∧ point ≤ 0 then '0' :: '.' :: zeros (-point).toNat ++ digits
  else
    let power := point - 1
    let sign := if power < 0 then '-' else '+'
    let fraction := if digits.length ≤ 1 then [] else '.' :: digits.drop 1
    digits.take 1 ++ fraction ++ 'e' :: sign :: Nat.toDigits 10 power.natAbs

/-- Zero keeps its sign. -/
def render (x : Binary64) : List Char :=
  let sign := if x.negative then ['-'] else []
  if x.magnitude = 0 then sign ++ ['0', '.', '0']
  else sign ++ (shortest x.magnitude).render

end FeedHydration.Binary64
