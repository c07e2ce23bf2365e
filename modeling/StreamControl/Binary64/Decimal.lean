import StreamControl.Binary64.Basic

/-!
# Binary64 numbers in decimal

A number is written with the fewest significant digits that read back to
it, and of those decimals the one nearest to it.  A half goes up.  The
digits are laid out positionally whatever the magnitude, without a point
when there is no fraction.

`Binary64.shortest` finds the digits in exact arithmetic: for one, two, …
digits it looks at the two neighbours of the number on that decimal grid
and takes the first grid on which one of them lies in the interval of reals
that round to the number.
-/

set_option autoImplicit false

namespace StreamControl.Binary64

/-- A decimal `digits * 10 ^ exponent`. -/
structure Decimal where
  /-- The significant digits, as an integer. -/
  digits : Nat
  /-- The power of ten. -/
  exponent : Int
  deriving DecidableEq, Repr

/-- The number of decimal digits of an integer. -/
def digitCount (n : Nat) : Nat := (Nat.toDigits 10 n).length

/-- Drops zeros at the end of the digits, at most as many as the fuel. -/
def Decimal.trim : Nat → Decimal → Decimal
  | 0, d => d
  | fuel + 1, d =>
    if d.digits ≠ 0 && d.digits % 10 = 0 then trim fuel ⟨d.digits / 10, d.exponent + 1⟩ else d

/-- The reals that round to one binary number, as multiples of a quarter of
the unit `2 ^ exponent`: from `low` to `high` around `middle`, ends included
when `closed`. -/
structure Interval where
  /-- The lower end. -/
  low : Nat
  /-- The number itself. -/
  middle : Nat
  /-- The upper end. -/
  high : Nat
  /-- Whether the ends themselves round to the number. -/
  closed : Bool

/-- The interval of a positive finite number.  Below a power of two the
neighbours are half as far apart; ends round to an even significand. -/
def interval (x : Binary64) : Interval where
  low := 4 * x.significand - (if x.fraction = 0 && 1 < x.exponentField then 1 else 2)
  middle := 4 * x.significand
  high := 4 * x.significand + 2
  closed := x.significand % 2 = 0

/-- Whether `candidate / scale` lies in the interval. -/
def Interval.holds (i : Interval) (scale candidate : Nat) : Bool :=
  if i.closed then i.low * scale ≤ candidate && candidate ≤ i.high * scale
  else i.low * scale < candidate && candidate < i.high * scale

/-- The best decimal with a given number of digits for the reals
`i * scale / unit`, where `unit` is one step of the decimal grid: of the two
neighbours on the grid that lie in the interval, the nearer. -/
def onGrid (i : Interval) (scale unit : Nat) : Option Nat :=
  let below := i.middle * scale / unit
  let rest := i.middle * scale % unit
  let lower := i.holds scale (below * unit)
  let upper := i.holds scale ((below + 1) * unit)
  if upper && (!lower || unit ≤ 2 * rest) then some (below + 1)
  else if lower then some below
  else none

/-- Every binary64 number has a decimal of at most this many digits that
reads back to it. -/
def enoughDigits : Nat := 17

/-- A power of ten beyond the reciprocal of every positive number. -/
def tenScale : Nat := 400

/-- The shortest decimal that reads back to a positive finite number. -/
def shortest (x : Binary64) : Decimal :=
  let i := x.interval
  -- The number is `middle * up / down`.
  let up := Nat.pow 2 (x.exponent - 2).toNat
  let down := Nat.pow 2 (2 - x.exponent).toNat
  let places : Int := digitCount (i.middle * up * Nat.pow 10 tenScale / down) - tenScale
  let attempt (count : Nat) : Option Decimal :=
    let power := places - count
    (onGrid i (up * Nat.pow 10 (-power).toNat) (down * Nat.pow 10 power.toNat)).map fun c => ⟨c, power⟩
  let found := (List.range enoughDigits).findSome? fun k => attempt (k + 1)
  (found.getD ⟨i.middle * up / down, 0⟩).trim (enoughDigits + 1)

/-- A decimal laid out positionally. -/
def Decimal.positional (d : Decimal) : String :=
  let written := Nat.toDigits 10 d.digits
  match d.exponent with
  | .ofNat zeros => String.ofList (written ++ List.replicate zeros '0')
  | .negSucc k =>
    let places := k + 1
    if places < written.length then
      String.ofList (written.take (written.length - places) ++
        '.' :: written.drop (written.length - places))
    else
      String.ofList ('0' :: '.' :: (List.replicate (places - written.length) '0' ++ written))

/-- The text of a number: `NaN`, `inf`, or its shortest decimal, with a
minus sign when the sign bit is set. -/
def text (x : Binary64) : String :=
  if x.isNaN then "NaN"
  else
    let size :=
      if x.isInfinite then "inf" else if x.isZero then "0" else x.shortest.positional
    if x.isNegative then "-" ++ size else size

end StreamControl.Binary64
