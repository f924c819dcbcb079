import TenantConsole.Json.Basic
import TenantConsole.Json.Reader
import TenantConsole.Text.Digits

/-!
# Numbers in JSON text

A numeral without fraction and exponent is a whole number as long as it lies in the range of 64-bit
words, signed below zero and unsigned from zero on; every other numeral is a float, and so is `-0`.
A float is the quotient or product of two floats: its leading digits, as many as fit into 64 bits,
and a power of ten. A numeral beyond the greatest float is refused.
-/

namespace TenantConsole.Json

/-- The parts of a numeral: sign, digits before the point, digits after it and exponent. -/
structure Numeral where
  negative : Bool
  whole : List Char
  fraction : List Char
  exponent : Option (Bool × List Char)

def spanDigits (text : List Char) : List Char × List Char :=
  (text.takeWhile Char.isDigit, text.dropWhile Char.isDigit)

/-- At least one digit. -/
def readDigits : Reader (List Char) := fun text =>
  match spanDigits text with
  | ([], []) => .error .truncated
  | ([], _ :: _) => .error .malformed
  | (digits, rest) => .ok (digits, rest)

/-- A whole part has no leading zero. -/
def readWholePart : Reader (List Char) := fun text =>
  match text with
  | '0' :: rest =>
    match rest with
    | [] => .ok (['0'], [])
    | c :: rest => if c.isDigit then .error .malformed else .ok (['0'], c :: rest)
  | text => readDigits text

def readFraction : Reader (List Char) := fun text =>
  match text with
  | '.' :: rest => readDigits rest
  | rest => .ok ([], rest)

def readExponent : Reader (Option (Bool × List Char)) := fun text =>
  let signed (sign : Bool) (text : List Char) := do
    let (digits, rest) ← readDigits text
    return (some (sign, digits), rest)
  match text with
  | c :: rest =>
    if c = 'e' ∨ c = 'E' then
      match rest with
      | '+' :: rest => signed false rest
      | '-' :: rest => signed true rest
      | rest => signed false rest
    else .ok (none, c :: rest)
  | [] => .ok (none, [])

def readNumeral : Reader Numeral := fun text => do
  let (negative, text) := match text with
    | '-' :: rest => (true, rest)
    | text => (false, text)
  let (whole, text) ← readWholePart text
  let (fraction, text) ← readFraction text
  let (exponent, text) ← readExponent text
  return (⟨negative, whole, fraction, exponent⟩, text)

/-- The number that the leading digits spell after `start`, as far as it fits into 64 bits, and how
many digits that takes. -/
def leadingDigits (start : Nat) : List Char → Nat × Nat
  | [] => (start, 0)
  | c :: rest =>
    let next := start * 10 + Text.digitValue c
    if next < UInt64.size then
      let (value, taken) := leadingDigits next rest
      (value, taken + 1)
    else (start, 0)

def powerOfTen (n : Nat) : Float := Float.ofScientific 1 false n

/-- Divides by a power of ten, in steps where one float cannot hold the power. Three steps bring
every number of 64 bits to zero. -/
def shrink (fuel : Nat) (x : Float) (power : Nat) : Float :=
  match fuel with
  | 0 => x
  | fuel + 1 =>
    if power ≤ 308 then x / powerOfTen power
    else if x == 0 then x
    else shrink fuel (x / powerOfTen 308) (power - 308)

/-- `significand · 10 ^ power`, if a float reaches that far. -/
def scaled? (significand : Nat) (power : Int) : Option Float :=
  let x := significand.toUInt64.toFloat
  if power < 0 then some (shrink 4 x (-power).toNat)
  else if power ≤ 308 then
    let y := x * powerOfTen power.toNat
    if y.isInf then none else some y
  else if significand = 0 then some x
  else none

def Numeral.float? (n : Numeral) : Option Float :=
  let (high, takenWhole) := leadingDigits 0 n.whole
  let (significand, takenFraction) := leadingDigits high n.fraction
  let dropped : Int := n.whole.length - takenWhole
  let power : Int := match n.exponent with
    | some (true, digits) => -(Text.decimal digits : Int)
    | some (false, digits) => Text.decimal digits
    | none => 0
  (scaled? significand (dropped - takenFraction + power)).map fun x => if n.negative then -x else x

def Numeral.value? (n : Numeral) : Option Json :=
  let plain := n.fraction = [] ∧ n.exponent = none
  let size := Text.decimal n.whole
  if plain ∧ ¬ n.negative ∧ size < UInt64.size then some (.int size)
  else if plain ∧ n.negative ∧ 0 < size ∧ 2 * size ≤ UInt64.size then some (.int (-size))
  else n.float?.map .float

def readNumber : Reader Json := fun text => do
  let (numeral, rest) ← readNumeral text
  match numeral.value? with
  | some value => return (value, rest)
  | none => throw .malformed

/-- What follows a numeral that nobody asked for. It may be beyond every float, and one that breaks
off is malformed. -/
def skipNumber (text : List Char) : Except ReadError (List Char) :=
  match readNumeral text with
  | .ok (_, rest) => .ok rest
  | .error _ => .error .malformed

end TenantConsole.Json
