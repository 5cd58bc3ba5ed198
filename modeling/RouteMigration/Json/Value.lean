import RouteMigration.Text.Shortest

/-!
# JSON values

## Main Definitions

* `Json` — a value
* `Json.get?` — a field of an object
* `Json.Decimal.toFloat` — the double that a written decimal stands for
-/

namespace RouteMigration

namespace Json

/-- The number `significand * 10 ^ exponent`, or its negation. -/
structure Decimal where
  isNegative : Bool := false
  significand : Nat
  exponent : Int := 0
deriving DecidableEq, Repr, Inhabited

/-- A number as it is kept after reading. -/
inductive Number where
  /-- A number below `2 ^ 64`, written with digits alone. -/
  | natural (n : Nat)
  /-- The negation of a number from one to `2 ^ 63`, written with digits alone. -/
  | negative (n : Nat)
  /-- Every other number. -/
  | decimal (d : Decimal)
deriving DecidableEq, Repr, Inhabited

end Json

/-- A JSON value.  The fields of an object stand in the order they were written in. -/
inductive Json where
  | null
  | bool (b : Bool)
  | number (n : Json.Number)
  | string (s : String)
  | array (items : List Json)
  | object (fields : List (String × Json))
deriving Repr, Inhabited

namespace Json

/-- The double next to `10 ^ n`. -/
def powerOfTen (n : Nat) : Float := Float.ofScientific 1 false n

/-- The double that a decimal stands for.  Its significand and the power of ten are rounded before
they are put together.  The largest power of ten that is a double is `10 ^ 308`; beyond it there is
infinity, and two steps below it there is zero. -/
def Decimal.toFloat (d : Decimal) : Float :=
  let significand := d.significand.toUInt64.toFloat
  let size := d.exponent.natAbs
  let magnitude :=
    if significand == 0 then 0
    else if 0 ≤ d.exponent then
      if size ≤ 308 then significand * powerOfTen size else 1 / 0
    else if size ≤ 308 then significand / powerOfTen size
    else if size ≤ 616 then significand / powerOfTen 308 / powerOfTen (size - 308)
    else 0
  if d.isNegative then -magnitude else magnitude

/-- The value of the last field of that name in an object. -/
def get? (name : String) : Json → Option Json
  | object fields => fields.reverse.lookup name
  | _ => none

/-- The names of the fields of an object. -/
def keys : Json → List String
  | object fields => fields.map (·.1)
  | _ => []

end Json

end RouteMigration
