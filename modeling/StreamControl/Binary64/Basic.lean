/-!
# Binary64 numbers

A double-precision number is its 64 bits: a sign, eleven exponent bits and
52 fraction bits.  Everything else is read off those bits in exact
arithmetic.  A finite number is `± significand * 2 ^ exponent`
(`Binary64.significand`, `Binary64.exponent`); `Binary64.ofNat` and
`Binary64.ofInt` give the nearest number to an integer, ties going to the
even significand.

Two equalities are in use.  `=` compares bits.  `Binary64.agrees` compares
numbers: the two zeros agree, and a number that is not a number agrees with
nothing, itself included.
-/

set_option autoImplicit false

namespace StreamControl

/-- A double-precision number, as its bits. -/
structure Binary64 where
  /-- Sign, exponent and fraction, from the high end. -/
  bits : UInt64
  deriving DecidableEq, Repr, Inhabited

namespace Binary64

/-! ## Reading the bits -/

/-- Whether the sign bit is set. -/
def isNegative (x : Binary64) : Bool := Nat.pow 2 63 ≤ x.bits.toNat

/-- The eleven exponent bits. -/
def exponentField (x : Binary64) : Nat := x.bits.toNat / Nat.pow 2 52 % Nat.pow 2 11

/-- The 52 fraction bits. -/
def fraction (x : Binary64) : Nat := x.bits.toNat % Nat.pow 2 52

/-- Whether the bits stand for no number at all. -/
def isNaN (x : Binary64) : Bool := x.exponentField = Nat.pow 2 11 - 1 && x.fraction ≠ 0

/-- Whether the bits stand for plus or minus infinity. -/
def isInfinite (x : Binary64) : Bool := x.exponentField = Nat.pow 2 11 - 1 && x.fraction = 0

/-- Whether the bits stand for plus or minus zero. -/
def isZero (x : Binary64) : Bool := x.exponentField = 0 && x.fraction = 0

/-- The integer factor of a finite number; the leading bit is implied unless
the exponent field is zero. -/
def significand (x : Binary64) : Nat :=
  if x.exponentField = 0 then x.fraction else Nat.pow 2 52 + x.fraction

/-- The power of two of a finite number. -/
def exponent (x : Binary64) : Int := (max x.exponentField 1 : Nat) - 1075

/-- Whether two numbers are equal as numbers. -/
def agrees (x y : Binary64) : Bool :=
  !x.isNaN && !y.isNaN && (x.bits = y.bits || (x.isZero && y.isZero))

/-! ## Integers -/

/-- The bits of the nearest number to a positive integer below `2 ^ 64`.

The integer is shortened to 53 bits; what is cut off rounds to the nearest,
a half to the even side.  A carry out of the significand lands in the
exponent field, which is where it belongs. -/
def magnitudeBits (n : Nat) : Nat :=
  if n = 0 then 0
  else
    let top := Nat.log2 n
    if top ≤ 52 then (top + 1022) * Nat.pow 2 52 + n * Nat.pow 2 (52 - top)
    else
      let unit := Nat.pow 2 (top - 52)
      let kept := n / unit
      let cut := n % unit
      let up := unit < 2 * cut || (2 * cut = unit && kept % 2 = 1)
      (top + 1022) * Nat.pow 2 52 + (if up then kept + 1 else kept)

/-- The nearest number to a natural number below `2 ^ 64`. -/
def ofNat (n : Nat) : Binary64 := ⟨(magnitudeBits n).toUInt64⟩

/-- The nearest number to an integer of absolute value below `2 ^ 64`. -/
def ofInt (n : Int) : Binary64 :=
  if n < 0 then ⟨(Nat.pow 2 63 + magnitudeBits n.natAbs).toUInt64⟩ else ofNat n.natAbs

end Binary64

end StreamControl
