/-!
# The shortest decimal of a binary fraction

A finite floating point value stands for all reals that round to it.  `Binary.shortest` selects,
among the decimals in that interval, one with the fewest digits and the nearest of those, a tie
going to the larger one.  `Decimal.render` writes a value with these digits, always positionally
and always with a fractional part.
-/

namespace CompositeBuild.Decimal

/-- The positive value `mantissa * 2 ^ exponent`. -/
structure Binary where
  mantissa : Nat
  exponent : Int
  /-- The gap to the value below is half the gap to the value above. -/
  narrowBelow : Bool
  deriving Repr

/-- The magnitude of a finite value with the given bits. -/
def Binary.ofBits (bits : UInt64) : Binary :=
  let exponent := ((bits >>> 52) &&& 0x7FF).toNat
  let fraction := (bits &&& 0xFFFFFFFFFFFFF).toNat
  if exponent = 0 then ⟨fraction, -1074, false⟩
  else ⟨Nat.pow 2 52 + fraction, (exponent : Int) - 1075, fraction = 0 && 1 < exponent⟩

/-- The value `digits * 10 ^ exponent`. -/
structure Scaled where
  digits : Nat
  exponent : Int
  deriving Repr, DecidableEq

/-- The same value without zeros at the end of its digits. -/
def Scaled.trimmed (d : Scaled) : Scaled :=
  if _ : d.digits ≠ 0 ∧ d.digits % 10 = 0 then
    Scaled.trimmed { digits := d.digits / 10, exponent := d.exponent + 1 }
  else d
termination_by d.digits
decreasing_by omega

/-- Compare a decimal with the binary fraction `mantissa * 2 ^ exponent`, exactly. -/
def Scaled.compareTo (d : Scaled) (mantissa : Nat) (exponent : Int) : Ordering :=
  compare (d.digits * Nat.pow 10 d.exponent.toNat * Nat.pow 2 (-exponent).toNat)
    (mantissa * Nat.pow 2 exponent.toNat * Nat.pow 10 (-d.exponent).toNat)

/-- Whether a decimal rounds to the value: it lies between the midpoints to both neighbours, a
midpoint itself counting for the even mantissa. -/
def Binary.readsBack (x : Binary) (d : Scaled) : Bool :=
  let low := if x.narrowBelow then 4 * x.mantissa - 1 else 4 * x.mantissa - 2
  let high := 4 * x.mantissa + 2
  let closed := x.mantissa % 2 = 0
  let fromLow := d.compareTo low (x.exponent - 2)
  let fromHigh := d.compareTo high (x.exponent - 2)
  (fromLow = .gt || (closed && fromLow = .eq)) && (fromHigh = .lt || (closed && fromHigh = .eq))

/-- Whether the value is less than a power of ten. -/
def Binary.isBelowPower (x : Binary) (power : Int) : Bool :=
  ({ digits := 1, exponent := power } : Scaled).compareTo x.mantissa x.exponent = .gt

/-- The least power of ten above the value.  The binary logarithm gives a first guess, which is
then corrected by comparing. -/
def Binary.scale (x : Binary) : Int :=
  let guess := ((x.mantissa.log2 : Int) + x.exponent) * 30103 / 100000 + 1
  let guess := if x.isBelowPower guess then guess else guess + 1
  if x.isBelowPower (guess - 1) then guess - 1 else guess

/-- The multiples of `10 ^ grid` on both sides of the value, if one of them rounds to it. -/
def Binary.onGrid? (x : Binary) (grid : Int) : Option Scaled :=
  let numerator := x.mantissa * Nat.pow 2 x.exponent.toNat * Nat.pow 10 (-grid).toNat
  let denominator := Nat.pow 2 (-x.exponent).toNat * Nat.pow 10 grid.toNat
  let below : Scaled := { digits := numerator / denominator, exponent := grid }
  let above : Scaled := { digits := numerator / denominator + 1, exponent := grid }
  match x.readsBack below, x.readsBack above with
  | false, false => none
  | true, false => some below
  | false, true => some above
  | true, true =>
    if 2 * numerator < (below.digits + above.digits) * denominator then some below else some above

/-- The exact value as a decimal. -/
def Binary.exact (x : Binary) : Scaled :=
  { digits := x.mantissa * Nat.pow 2 x.exponent.toNat * Nat.pow 5 (-x.exponent).toNat
    exponent := -((-x.exponent).toNat : Int) }

/-- The decimal with the fewest digits that rounds to the value.  Where rounding up carries over all
digits, the zeros that it leaves are dropped. -/
def Binary.shortest (x : Binary) : Scaled :=
  let grids := (List.range 17).map fun n : Nat => x.scale - ((n : Int) + 1)
  ((grids.findSome? x.onGrid?).getD x.exact).trimmed

/-- A decimal written positionally, with a fractional part. -/
def Scaled.positional (d : Scaled) : List Char :=
  let digits := Nat.toDigits 10 d.digits
  if 0 ≤ d.exponent then digits ++ List.replicate d.exponent.toNat '0' ++ ['.', '0']
  else
    let places := (-d.exponent).toNat
    let padded := List.replicate (places + 1 - digits.length) '0' ++ digits
    padded.take (padded.length - places) ++ '.' :: padded.drop (padded.length - places)

/-- The text of a floating point value. -/
def render (x : Float) : String :=
  if x.isNaN then "NaN"
  else
    let bits := x.toBits
    let sign := if bits >>> 63 = 1 then ['-'] else []
    let digits :=
      if x.isInf then ['i', 'n', 'f']
      else if (bits <<< 1) = 0 then ['0', '.', '0']
      else (Binary.ofBits bits).shortest.positional
    String.ofList (sign ++ digits)

end CompositeBuild.Decimal
