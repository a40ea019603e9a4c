import ComposeCheck.Decimal.Binary64

/-!
# The shortest decimal of a number

The decimal with the fewest digits that reads back as a given number; of two such decimals the
nearer one, and of two equally near ones the greater.
-/

namespace ComposeCheck

/-- The reals that read back as a number, with the number between them: all three are to be divided
by `den`. The ends belong to it if the mantissa is even. -/
structure Rounding where
  low : Nat
  value : Nat
  high : Nat
  den : Nat
  closed : Bool

namespace Rounding

/-- The reals that round to `mantissa * 2 ^ exponent`. Below a power of two numbers are twice as
dense as above it. -/
def of (mantissa : Nat) (exponent : Int) : Rounding :=
  let scale := numPower 2 exponent
  let below := if mantissa = Binary64.leastNormal ∧ -1074 < exponent then 1 else 2
  { low := (4 * mantissa - below) * scale
    value := 4 * mantissa * scale
    high := (4 * mantissa + 2) * scale
    den := 4 * denPower 2 exponent
    closed := mantissa % 2 = 0 }

/-- Whether `count * 10 ^ grid` lies among the reals. -/
def holds (r : Rounding) (grid : Int) (count : Nat) : Bool :=
  let point := count * (numPower 10 grid * r.den)
  let scale := denPower 10 grid
  if r.closed then r.low * scale ≤ point && point ≤ r.high * scale
  else r.low * scale < point && point < r.high * scale

/-- The multiple of `10 ^ grid` that is nearest to the number, if one lies among the reals. -/
def onGrid? (r : Rounding) (grid : Int) : Option Nat :=
  let unit := numPower 10 grid * r.den
  let value := r.value * denPower 10 grid
  let below := value / unit
  match r.holds grid below, r.holds grid (below + 1) with
  | true, true => if 2 * value < (2 * below + 1) * unit then some below else some (below + 1)
  | true, false => some below
  | false, true => some (below + 1)
  | false, false => none

/-- Zeros between the point and the first digit of `num / den`, which is below one. -/
def leadingZeros : (fuel : Nat) → Nat → Nat → Nat
  | 0, _, _ => 0
  | fuel + 1, num, den => if den ≤ 10 * num then 0 else leadingZeros fuel (10 * num) den + 1

/-- The places before the point; negative if zeros follow it. -/
def places (r : Rounding) : Int :=
  if r.den ≤ r.value then (Nat.toDigits 10 (r.value / r.den)).length
  else -(leadingZeros 400 r.value r.den : Int)

/-- The first grid that is hit, trying `tries` grids from coarse to fine. -/
def search (r : Rounding) : (tries : Nat) → (grid : Int) → Nat × Int
  | 0, grid => (r.value * denPower 10 grid / (numPower 10 grid * r.den), grid)
  | tries + 1, grid =>
    match r.onGrid? grid with
    | some count => (count, grid)
    | none => search r tries (grid - 1)

/-- The shortest decimal, as digits and a power of ten. Seventeen digits are always enough. -/
def shortest (r : Rounding) : Nat × Int := r.search 17 (r.places - 1)

end Rounding

/-- Digits times a power of ten, written with a point and at least one digit after it. -/
def positional (digits : Nat) (exponent : Int) : String :=
  let shown := Nat.toDigits 10 digits
  if 0 ≤ exponent then
    String.ofList (shown ++ List.replicate exponent.toNat '0' ++ ['.', '0'])
  else
    let after := (-exponent).toNat
    let padded := List.replicate (after + 1 - shown.length) '0' ++ shown
    let whole := padded.take (padded.length - after)
    let fraction := ((padded.drop (padded.length - after)).reverse.dropWhile (· == '0')).reverse
    String.ofList (whole ++ '.' :: (if fraction.isEmpty then ['0'] else fraction))

/-- A number with the fewest digits that read back, always with a point and never with a power of
ten. -/
def Binary64.text : Binary64 → String
  | nan => "nan"
  | infinite negative => if negative then "-inf" else "inf"
  | finite negative mantissa exponent =>
    (if negative then "-" else "") ++
      (if mantissa = 0 then "0.0"
      else
        let (digits, power) := (Rounding.of mantissa exponent).shortest
        positional digits power)

end ComposeCheck
