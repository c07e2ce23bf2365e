import StreamControl.Binary64.Decimal
import StreamControl.Text.Quoted

/-!
# Parameter types and values

A parameter is declared with a `ValueType` and holds a `Value`.  The type
says how the value is to be read; it has nothing to do with what flows
through the stream.

Two relations matter later.  `ValueType.accepts` says whether a request of
one type may be served by a parameter declared with another: `any` on either
side is no restriction.  `Value.fits` says whether a value may be stored
under a declared type: no data fits everywhere.
-/

set_option autoImplicit false

namespace StreamControl

/-! ## Types -/

/-- Declared type of a parameter, and the type a request asks for. -/
inductive ValueType where
  /-- No restriction. -/
  | any
  /-- No data is carried. -/
  | none
  /-- A double-precision number. -/
  | double
  /-- An unsigned 64-bit integer. -/
  | uint64
  /-- A signed 64-bit integer. -/
  | int64
  /-- A flag. -/
  | bool
  /-- A text. -/
  | string
  /-- A list of texts, as on a command line. -/
  | argList
  /-- A type of the application's own, told apart by a tag. -/
  | custom (tag : UInt32)
  deriving DecidableEq, Repr, Inhabited

namespace ValueType

/-- Whether a request for `requested` may be served by a parameter declared
with this type. -/
def accepts (declared requested : ValueType) : Bool :=
  requested = .any || declared = .any || declared = requested

theorem accepts_self (type : ValueType) : type.accepts type = true := by
  simp [accepts]

theorem accepts_comm (a b : ValueType) : a.accepts b = b.accepts a := by
  simp only [accepts, eq_comm (a := a) (b := b), Bool.or_comm (decide (b = .any))]

/-- The name of a type in messages. -/
def text : ValueType → String
  | .any => "any"
  | .none => "none"
  | .double => "double"
  | .uint64 => "uint64"
  | .int64 => "int64"
  | .bool => "bool"
  | .string => "string"
  | .argList => "arglist"
  | .custom tag => "custom(" ++ toString tag.toNat ++ ")"

end ValueType

/-! ## Values -/

/-- What a parameter holds, and what a callback is handed. -/
inductive Value where
  /-- No data. -/
  | none
  /-- A double-precision number. -/
  | double (number : Binary64)
  /-- An unsigned 64-bit integer. -/
  | uint64 (number : UInt64)
  /-- A signed 64-bit integer. -/
  | int64 (number : Int64)
  /-- A flag. -/
  | bool (flag : Bool)
  /-- A text. -/
  | string (content : String)
  /-- A list of texts. -/
  | argList (arguments : List String)
  /-- Bytes of a type of the application's own. -/
  | custom (tag : UInt32) (bytes : List UInt8)
  deriving DecidableEq, Inhabited

namespace Value

/-- The type a value naturally carries. -/
def type : Value → ValueType
  | .none => .none
  | .double _ => .double
  | .uint64 _ => .uint64
  | .int64 _ => .int64
  | .bool _ => .bool
  | .string _ => .string
  | .argList _ => .argList
  | .custom tag _ => .custom tag

/-- Whether a value may be stored in a parameter of the declared type.  No
data may be stored in any parameter. -/
def fits (value : Value) (declared : ValueType) : Bool :=
  value = .none || declared.accepts value.type

/-- Whether two values are equal when numbers are compared as numbers. -/
def agrees : Value → Value → Bool
  | .double x, .double y => x.agrees y
  | a, b => a = b

/-! ## Reading a value -/

/-- The value as a double-precision number; integers are widened to the
nearest one. -/
def asDouble? : Value → Option Binary64
  | .double x => some x
  | .uint64 n => some (Binary64.ofNat n.toNat)
  | .int64 n => some (Binary64.ofInt n.toInt)
  | _ => Option.none

/-- The value as a signed integer, when it is an integer within range. -/
def asInt64? : Value → Option Int64
  | .int64 n => some n
  | .uint64 n => if n.toNat < Nat.pow 2 63 then some (Int64.ofNat n.toNat) else Option.none
  | _ => Option.none

/-- The value as an unsigned integer, when it is an integer within range. -/
def asUInt64? : Value → Option UInt64
  | .uint64 n => some n
  | .int64 n => if 0 ≤ n.toInt then some (UInt64.ofNat n.toInt.toNat) else Option.none
  | _ => Option.none

/-- The value as a flag. -/
def asBool? : Value → Option Bool
  | .bool flag => some flag
  | _ => Option.none

/-- The value as a text. -/
def asString? : Value → Option String
  | .string content => some content
  | _ => Option.none

/-- The value as a list of texts. -/
def asArgList? : Value → Option (List String)
  | .argList arguments => some arguments
  | _ => Option.none

/-- A value as shown to a reader. -/
def text : Value → String
  | .none => "none"
  | .double x => x.text
  | .uint64 n => toString n.toNat
  | .int64 n => toString n.toInt
  | .bool flag => if flag then "true" else "false"
  | .string content => Text.quote content
  | .argList arguments => Text.quoteList arguments
  | .custom tag bytes =>
    "custom(" ++ toString tag.toNat ++ ", " ++ toString bytes.length ++ " bytes)"

/-! ## Laws -/

theorem fits_none (declared : ValueType) : Value.none.fits declared = true := by
  simp [fits]

theorem fits_any (value : Value) : value.fits .any = true := by
  simp [fits, ValueType.accepts]

/-- A value carries a type of its own, never `any`. -/
theorem type_ne_any (value : Value) : value.type ≠ .any := by
  cases value <;> simp [type]

/-- What may be stored under a declared type: no data, anything if the type
is `any`, and otherwise values of exactly that type. -/
theorem fits_iff {value : Value} {declared : ValueType} :
    value.fits declared = true ↔ value = .none ∨ declared = .any ∨ value.type = declared := by
  simp only [fits, ValueType.accepts, Bool.or_eq_true, decide_eq_true_eq, type_ne_any, false_or,
    eq_comm (a := declared) (b := value.type)]

end Value

end StreamControl
