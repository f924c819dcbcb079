/-!
# Shortest decimals

The decimal of fewest digits that lies in the interval of reals rounding to a given float, and of
those the one nearest to it. The float is split into `mantissa · 2 ^ exponent` and the search runs
in exact arithmetic on natural numbers: on the grid of `n` digits only the two neighbours of the
value can lie in the interval.
-/

namespace TenantConsole

/-- The number `significand · 10 ^ exponent`. -/
structure Decimal where
  significand : Nat
  exponent : Int
  deriving Repr, DecidableEq

namespace Decimal

/-- A positive quotient of natural numbers. -/
structure Ratio where
  num : Nat
  den : Nat

namespace Ratio

/-- The ratio times a power of ten. -/
def scale (r : Ratio) (power : Int) : Ratio :=
  if power < 0 then ⟨r.num, r.den * Nat.pow 10 (-power).toNat⟩
  else ⟨r.num * Nat.pow 10 power.toNat, r.den⟩

def lt (a b : Ratio) : Bool := a.num * b.den < b.num * a.den

def le (a b : Ratio) : Bool := a.num * b.den ≤ b.num * a.den

/-- The exponent of the leading decimal digit. -/
def leading (r : Ratio) : Int :=
  if r.den ≤ r.num then
    ((Nat.toDigits 10 (r.num / r.den)).length : Int) - 1
  else
    let places := (Nat.toDigits 10 (r.den / r.num)).length
    if r.den ≤ r.num * Nat.pow 10 (places - 1) then -((places : Int) - 1) else -places

end Ratio

/-- `mantissa · 2 ^ exponent / 4`, so that a quarter of a unit in the last place is whole. -/
def quarters (mantissa : Nat) (exponent : Int) : Ratio :=
  if exponent < 0 then ⟨mantissa, 4 * Nat.pow 2 (-exponent).toNat⟩
  else ⟨mantissa * Nat.pow 2 exponent.toNat, 4⟩

/-- The reals that round to a float; an end belongs to them when the mantissa is even. -/
structure Interval where
  low : Ratio
  high : Ratio
  closed : Bool

namespace Interval

/-- Below a power of two the floats lie twice as dense, so the interval reaches half as far down. -/
def around (mantissa : Nat) (exponent : Int) (irregular : Bool) : Interval :=
  { low := quarters (4 * mantissa - if irregular then 1 else 2) exponent
    high := quarters (4 * mantissa + 2) exponent
    closed := mantissa % 2 = 0 }

def contains (i : Interval) (r : Ratio) : Bool :=
  if i.closed then i.low.le r && r.le i.high else i.low.lt r && r.lt i.high

end Interval

/-- Trailing zeros of the significand move into the exponent. -/
def trim (fuel : Nat) (d : Decimal) : Decimal :=
  match fuel with
  | 0 => d
  | n + 1 =>
    if d.significand ≠ 0 ∧ d.significand % 10 = 0 then
      trim n ⟨d.significand / 10, d.exponent + 1⟩
    else d

/-- The nearer of the value's two neighbours on a grid, of those that lie in the interval; halfway
between them the even one. -/
def onGrid? (value : Ratio) (interval : Interval) (exponent : Int) : Option Decimal :=
  let scaled := value.scale (-exponent)
  let below := scaled.num / scaled.den
  let candidate (n : Nat) : Bool := n ≠ 0 && interval.contains (Ratio.scale ⟨n, 1⟩ exponent)
  match candidate below, candidate (below + 1) with
  | true, true =>
    let twice := 2 * (scaled.num % scaled.den)
    if twice < scaled.den ∨ twice = scaled.den ∧ below % 2 = 0 then some ⟨below, exponent⟩
    else some ⟨below + 1, exponent⟩
  | true, false => some ⟨below, exponent⟩
  | false, true => some ⟨below + 1, exponent⟩
  | false, false => none

/-- Tries the grids of one digit, two digits and so on; seventeen always suffice. -/
def search (value : Ratio) (interval : Interval) (fuel digits : Nat) : Decimal :=
  match fuel with
  | 0 => ⟨0, 0⟩
  | n + 1 =>
    match onGrid? value interval (value.leading - digits + 1) with
    | some found => found
    | none => search value interval n (digits + 1)

/-- The shortest decimal of `mantissa · 2 ^ exponent`. -/
def shortest (mantissa : Nat) (exponent : Int) (irregular : Bool) : Decimal :=
  let interval := Interval.around mantissa exponent irregular
  trim 20 (search (quarters (4 * mantissa) exponent) interval 18 1)

/-- The highest bit of a float is its sign. -/
def signBit : Nat := 0x8000000000000000

/-- The bit above those of the mantissa, where the exponent begins. -/
def exponentBit : Nat := 0x10000000000000

/-- The shortest decimal of the absolute value of a finite float. -/
def ofFloat (x : Float) : Decimal :=
  let bits : Nat := x.toBits.toNat % signBit
  let biased : Nat := bits / exponentBit
  let fraction : Nat := bits % exponentBit
  if bits = 0 then ⟨0, 0⟩
  else if biased = 0 then shortest fraction (-1074) false
  else shortest (exponentBit + fraction) ((biased : Int) - 1075) (fraction = 0 ∧ 1 < biased)

/-- Exponents of the leading digit that are written without an exponent part: numbers go in full
from `0.00001` up to below `10 ^ 16`. -/
def inFull (leading : Int) : Bool := -5 ≤ leading ∧ leading ≤ 15

/-- A decimal with a point and at least one digit on either side of it, or in scientific form. -/
def write (d : Decimal) : List Char :=
  let digits := Nat.toDigits 10 d.significand
  let leading := d.exponent + digits.length - 1
  if d.significand = 0 then ['0', '.', '0']
  else if inFull leading then
    if 0 ≤ d.exponent then digits ++ List.replicate d.exponent.toNat '0' ++ ['.', '0']
    else if 0 ≤ leading then
      digits.take (leading.toNat + 1) ++ '.' :: digits.drop (leading.toNat + 1)
    else '0' :: '.' :: List.replicate (-leading - 1).toNat '0' ++ digits
  else
    let fraction := match digits.drop 1 with
      | [] => []
      | rest => '.' :: rest
    let power :=
      if leading < 0 then '-' :: Nat.toDigits 10 (-leading).toNat
      else '+' :: Nat.toDigits 10 leading.toNat
    digits.take 1 ++ fraction ++ 'e' :: power

/-- The text of a finite float. -/
def writeFloat (x : Float) : List Char :=
  let text := write (ofFloat x)
  if x.toBits.toNat < signBit then text else '-' :: text

end Decimal

end TenantConsole
