/-!
# The shortest decimal of a binary fraction

A positive number `m * 2 ^ q` that a floating-point format holds stands for an interval
of reals, the ones that round to it. Among the decimals in that interval the shortest
is chosen, and of two equally short ones the nearer. For a given number of digits only
the two grid points beside the number can be meant, because the interval contains the
number: if any grid point lies inside, so does one of these two.

Everything is counted in quarters of the last binary digit, so that the ends of the
interval are whole numbers too.
-/

namespace SpecCatalog.Decimal

/-- A decimal `digits * 10 ^ exponent`. -/
structure Scaled where
  digits : Nat
  exponent : Int
  deriving DecidableEq, Repr

/-- A number and the ends of its interval as fractions over one denominator. -/
structure Interval where
  low : Nat
  value : Nat
  high : Nat
  denominator : Nat
  /-- The ends round to the number as well. -/
  closed : Bool

/-- The interval of `m * 2 ^ q`. `narrow` says that `m` is the least of its binary
order, so the gap below is half the gap above. -/
def Interval.ofBinary (m : Nat) (q : Int) (narrow : Bool) : Interval :=
  let low := if narrow then 4 * m - 1 else 4 * m - 2
  let up := Nat.pow 2 (q - 2).toNat
  let down := Nat.pow 2 (2 - q).toNat
  { low := low * up, value := 4 * m * up, high := (4 * m + 2) * up, denominator := down,
    closed := m % 2 = 0 }

namespace Interval

/-- Whether `n / d` lies in the interval. -/
def holds (i : Interval) (n d : Nat) : Bool :=
  let low := compare (i.low * d) (n * i.denominator)
  let high := compare (n * i.denominator) (i.high * d)
  (low = .lt || (low = .eq && i.closed)) && (high = .lt || (high = .eq && i.closed))

/-- The grid point of exponent `e` to choose, if one is in the interval. -/
def onGrid (i : Interval) (e : Int) : Option Scaled :=
  let unit := Nat.pow 10 e.toNat
  let parts := Nat.pow 10 (-e).toNat
  let below := i.value * parts / (i.denominator * unit)
  let inside (n : Nat) : Bool := i.holds (n * unit) parts
  let pick (n : Nat) : Option Scaled := if n = 0 then none else some ⟨n, e⟩
  match inside below, inside (below + 1) with
  | false, false => none
  | true, false => pick below
  | false, true => pick (below + 1)
  | true, true =>
    let twice := 2 * i.value * parts
    let middle := (2 * below + 1) * unit * i.denominator
    if twice < middle || (twice = middle && below % 2 = 0) then pick below else pick (below + 1)

/-- The exponent of the leading decimal digit of `value / denominator`, looked for
downwards from `start`. -/
def leadingExponent (i : Interval) : Nat → Int → Int
  | 0, e => e
  | fuel + 1, e =>
    if i.denominator * Nat.pow 10 e.toNat ≤ i.value * Nat.pow 10 (-e).toNat then e
    else leadingExponent i fuel (e - 1)

/-- Grids of more and more digits until one has a point in the interval. -/
def shortestFrom (i : Interval) (lead : Int) : Nat → Nat → Scaled
  | 0, _ => ⟨0, 0⟩
  | fuel + 1, more =>
    match i.onGrid (lead - more) with
    | some d => d
    | none => shortestFrom i lead fuel (more + 1)

end Interval

/-- The shortest decimal that rounds to `m * 2 ^ q`. Eighteen digits always reach it:
seventeen tell all double-precision numbers apart, and one more is allowed for a number
that rounds up to a power of ten. -/
def shortest (m : Nat) (q : Int) (narrow : Bool) : Scaled :=
  let i := Interval.ofBinary m q narrow
  i.shortestFrom (i.leadingExponent 650 309) 19 0

/-- The double-precision number without its sign, as `m * 2 ^ q` with the mark of the
least number of its binary order. -/
def ofFloat (x : Float) : Nat × Int × Bool :=
  let bits := x.toBits.toNat
  let fraction : Nat := bits % Nat.pow 2 52
  let exponent : Nat := bits / Nat.pow 2 52 % Nat.pow 2 11
  if exponent = 0 then (fraction, -1074, false)
  else (Nat.pow 2 52 + fraction, Int.ofNat exponent - 1075, fraction = 0 && 1 < exponent)

/-- The sign bit, set for negative zero as well. -/
def isNegative (x : Float) : Bool := Nat.pow 2 63 ≤ x.toBits.toNat

end SpecCatalog.Decimal
