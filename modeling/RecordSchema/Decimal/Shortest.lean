/-!
# Shortest decimal form of a double

A finite double is `m * 2^e` for an integer significand `m`. The reals that round to it form
an interval around it, reaching halfway to each neighbouring double; its ends belong to it
exactly when `m` is even, because a tie rounds to the even significand. The shortest decimal
form of the double is a decimal with the fewest significant digits inside that interval, and
of two such the nearer to the double, a tie going to the even last digit.

The search tries 1, 2, … 17 significant digits. On each decimal grid only the two grid points
around the double can be nearest, and if any grid point lies inside the interval then so does
one of those two; the first grid with a hit gives the fewest digits. All arithmetic is exact
on natural numbers.
-/

namespace RecordSchema.Decimal

/-- A finite nonzero-or-zero double split into its parts: the value is
`(-1)^negative * significand * 2^exponent`. `lowerGapHalved` says that the double below lies
at half the usual distance, which happens at the smallest significand of each binade. -/
structure BinaryForm where
  negative : Bool
  significand : Nat
  exponent : Int
  lowerGapHalved : Bool
  deriving DecidableEq, Repr

/-- Splits a double into sign, significand and binary exponent; infinities and NaN have no
such form. -/
def BinaryForm.ofFloat (x : Float) : Option BinaryForm :=
  let bits : Nat := x.toBits.toNat
  let negative := bits / Nat.pow 2 63 % 2 == 1
  let fraction : Nat := bits % Nat.pow 2 52
  let biased : Nat := bits / Nat.pow 2 52 % 2048
  if biased = 2047 then none
  else if biased = 0 then some ⟨negative, fraction, -1074, false⟩
  else some ⟨negative, Nat.pow 2 52 + fraction, (biased : Int) - 1075, fraction = 0 && 1 < biased⟩

/-- A nonnegative rational as numerator and denominator. -/
structure Ratio where
  num : Nat
  den : Nat

/-- The rational `x * 2^k`. -/
def Ratio.ofScaled (x : Nat) (k : Int) : Ratio :=
  if 0 ≤ k then ⟨x * Nat.pow 2 k.toNat, 1⟩ else ⟨x, Nat.pow 2 (-k).toNat⟩

/-- Compares the decimal `c * 10^t` with a rational. -/
def compareDecimal (c : Nat) (t : Int) (r : Ratio) : Ordering :=
  if 0 ≤ t then compare (c * Nat.pow 10 t.toNat * r.den) r.num
  else compare (c * r.den) (r.num * Nat.pow 10 (-t).toNat)

/-- The largest `a` with `a * 10^t` at most the rational. -/
def floorAt (r : Ratio) (t : Int) : Nat :=
  if 0 ≤ t then r.num / (r.den * Nat.pow 10 t.toNat) else r.num * Nat.pow 10 (-t).toNat / r.den

/-- The number of decimal digits of a positive natural number. -/
def digitCount (n : Nat) : Nat := (Nat.toDigits 10 n).length

/-- The least `j` from `j` on with `num * 10^j` at least `den`, searching `fuel` steps. -/
def firstPowerReaching (num den : Nat) (j : Nat) : Nat → Nat
  | 0 => j
  | fuel + 1 => if den ≤ num * Nat.pow 10 j then j else firstPowerReaching num den (j + 1) fuel

/-- The decimal exponent `E` of a positive rational: `10^E ≤ r < 10^(E+1)`. -/
def decimalExponent (r : Ratio) : Int :=
  if r.den ≤ r.num then (digitCount (r.num / r.den) : Int) - 1
  else -(firstPowerReaching r.num r.den 1 400 : Int)

/-- Removes trailing zero digits, raising the exponent to keep the value. -/
def stripZeros : Nat → Nat × Int → Nat × Int
  | 0, p => p
  | fuel + 1, (d, t) => if d ≠ 0 && d % 10 == 0 then stripZeros fuel (d / 10, t + 1) else (d, t)

/-- The interval of reals that round to a positive double, with the double itself. -/
structure RoundingInterval where
  value : Ratio
  lower : Ratio
  upper : Ratio
  inclusive : Bool

/-- The rounding interval of a double with a positive significand. -/
def BinaryForm.interval (b : BinaryForm) : RoundingInterval :=
  let m4 := 4 * b.significand
  let below := if b.lowerGapHalved then m4 - 1 else m4 - 2
  { value := Ratio.ofScaled m4 (b.exponent - 2)
    lower := Ratio.ofScaled below (b.exponent - 2)
    upper := Ratio.ofScaled (m4 + 2) (b.exponent - 2)
    inclusive := b.significand % 2 == 0 }

/-- Whether the decimal `c * 10^t` lies in the interval. -/
def RoundingInterval.contains (i : RoundingInterval) (c : Nat) (t : Int) : Bool :=
  let lo := compareDecimal c t i.lower
  let hi := compareDecimal c t i.upper
  if i.inclusive then lo != .lt && hi != .gt else lo == .gt && hi == .lt

/-- The decimal with `k` significant digits nearest to the value inside the interval, if the
grid of `k` digits meets the interval. -/
def RoundingInterval.hitAt (i : RoundingInterval) (e : Int) (k : Nat) : Option (Nat × Int) :=
  let t := e - (k : Int) + 1
  let a := floorAt i.value t
  let inA := i.contains a t
  let inB := i.contains (a + 1) t
  if inA && inB then
    -- nearer of the two: compare 2v with (2a + 1) 10^t
    match compareDecimal (2 * a + 1) t ⟨2 * i.value.num, i.value.den⟩ with
    | .gt => some (a, t)
    | .lt => some (a + 1, t)
    | .eq => if a % 2 == 0 then some (a, t) else some (a + 1, t)
  else if inA then some (a, t)
  else if inB then some (a + 1, t)
  else none

/-- The first grid from `k` significant digits on that meets the interval, up to 17. -/
def RoundingInterval.search (i : RoundingInterval) (e : Int) (k : Nat) : Nat → Nat × Int
  | 0 => (floorAt i.value (e - 16), e - 16)
  | fuel + 1 =>
    match i.hitAt e k with
    | some hit => hit
    | none => i.search e (k + 1) fuel

/-- The shortest decimal `d * 10^t` of a double with a positive significand, with `d` free
of trailing zeros. -/
def BinaryForm.shortest (b : BinaryForm) : Nat × Int :=
  let i := b.interval
  stripZeros 20 (i.search (decimalExponent i.value) 1 17)

end RecordSchema.Decimal
