/-!
# Shortest decimal of a double

The fewest decimal digits that read back as a given double, and how they are written.

A positive double is `m * 2 ^ q`, and the reals that round to it form an interval whose ends belong
to it exactly when `m` is even.  For one, two, … digits the two neighbours of the value on the grid
of decimals with that many digits are tried; the first that lies in the interval is taken, and of
two the nearer.  All comparisons are made on natural numbers.

## Main Definitions

* `Binary` — a positive double as a mantissa and a binary exponent
* `Binary.shortest` — its shortest digits and their decimal exponent
* `floatText` — a finite double as text
-/

namespace RouteMigration.Text

/-- The positive number `mantissa * 2 ^ exponent`. -/
structure Binary where
  mantissa : Nat
  exponent : Int
  /-- The next smaller double is only half as far away as the next larger one. -/
  isPowerEdge : Bool := false
deriving DecidableEq, Repr, Inhabited

namespace Binary

/-- Reads the bits of a double without its sign. -/
def ofBits (bits : Nat) : Binary :=
  let fraction : Nat := bits % 0x10000000000000
  let biased : Nat := bits / 0x10000000000000 % 0x800
  if biased = 0 then ⟨fraction, -1074, false⟩
  else ⟨0x10000000000000 + fraction, Int.ofNat biased - 1075, fraction = 0 && biased > 1⟩

/-- The denominator of the value and the ends of its interval, in quarters of a unit. -/
def denominator (b : Binary) : Nat := 4 * Nat.pow 2 (-b.exponent).toNat

/-- A number of quarter units over the common denominator. -/
def quarters (b : Binary) (n : Nat) : Nat := n * Nat.pow 2 b.exponent.toNat

/-- The numerator of the value. -/
def value (b : Binary) : Nat := b.quarters (4 * b.mantissa)

/-- The numerator of the lower end of the interval. -/
def lower (b : Binary) : Nat :=
  b.quarters (4 * b.mantissa - if b.isPowerEdge then 1 else 2)

/-- The numerator of the upper end of the interval. -/
def upper (b : Binary) : Nat := b.quarters (4 * b.mantissa + 2)

/-- `digits * 10 ^ exponent` and a numerator, brought to one scale. -/
def compared (b : Binary) (digits : Nat) (exponent : Int) (numerator : Nat) : Nat × Nat :=
  (digits * b.denominator * Nat.pow 10 exponent.toNat, numerator * Nat.pow 10 (-exponent).toNat)

/-- `digits * 10 ^ exponent` reads back as the value. -/
def reads (b : Binary) (exponent : Int) (digits : Nat) : Bool :=
  let low := b.compared digits exponent b.lower
  let high := b.compared digits exponent b.upper
  if b.mantissa % 2 = 0 then low.2 ≤ low.1 && high.1 ≤ high.2
  else low.2 < low.1 && high.1 < high.2

/-- Of two neighbours on a grid the nearer, and of two equally near the even one. -/
def nearer (b : Binary) (exponent : Int) (digits : Nat) : Nat :=
  let (below, value) := b.compared digits exponent b.value
  let (above, _) := b.compared (digits + 1) exponent b.value
  if value - below < above - value then digits
  else if above - value < value - below then digits + 1
  else if digits % 2 = 0 then digits else digits + 1

/-- The decimal exponent of the leading digit. -/
def magnitude (b : Binary) : Int :=
  ((Nat.toDigits 10 (b.value * Nat.pow 10 400 / b.denominator)).length : Int) - 401

/-- The value on the grid of decimals with `count` digits, if one of them reads back. -/
def onGrid? (b : Binary) (count : Nat) : Option (Nat × Int) :=
  let exponent := b.magnitude - count + 1
  let (unit, value) := b.compared 1 exponent b.value
  let digits := value / unit
  match b.reads exponent digits, b.reads exponent (digits + 1) with
  | true, true => some (b.nearer exponent digits, exponent)
  | true, false => some (digits, exponent)
  | false, true => some (digits + 1, exponent)
  | false, false => none

/-- The shortest digits that read back, and their decimal exponent. -/
def shortest (b : Binary) : Nat × Int :=
  ((List.range 17).findSome? fun n => b.onGrid? (n + 1)).getD (b.mantissa, b.exponent)

end Binary

/-- Digits without the zeros at their end, which move into the exponent. -/
def trimZeros (digits : List Char) (exponent : Int) : List Char × Int :=
  let zeros := (digits.reverse.takeWhile (· == '0')).length
  (digits.take (digits.length - zeros), exponent + zeros)

/-- Digits and a decimal exponent as text: positional as long as the point stands at most sixteen
digits after the first or five before it, and with a signed exponent otherwise. -/
def decimalText (digits : List Char) (exponent : Int) : String :=
  let point := (digits.length : Int) + exponent
  let zeros (n : Int) := List.replicate n.toNat '0'
  let written :=
    if 0 ≤ exponent && point ≤ 16 then digits ++ zeros exponent ++ ".0".toList
    else if 0 < point && point ≤ 16 then
      digits.take point.toNat ++ '.' :: digits.drop point.toNat
    else if -5 < point && point ≤ 0 then "0.".toList ++ zeros (-point) ++ digits
    else
      let power := (if 1 ≤ point then ['+'] else []) ++ (toString (point - 1)).toList
      match digits with
      | [d] => d :: 'e' :: power
      | d :: rest => d :: '.' :: rest ++ 'e' :: power
      | [] => []
  String.ofList written

/-- A finite double as text. -/
def floatText (x : Float) : String :=
  let bits := x.toBits.toNat
  let sign := if bits / 0x8000000000000000 = 1 then "-" else ""
  let magnitude := bits % 0x8000000000000000
  if magnitude = 0 then sign ++ "0.0"
  else
    let (digits, exponent) := (Binary.ofBits magnitude).shortest
    let (digits, exponent) := trimZeros (Nat.toDigits 10 digits) exponent
    sign ++ decimalText digits exponent

end RouteMigration.Text
