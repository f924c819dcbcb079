/-!
# Punycode

The form in which a label with characters beyond ASCII stands in a host name: its ASCII characters,
a hyphen, and then the others in ascending order. Each of those is written as a distance, how often
to step through the places of the text until it is its turn, in digits of base 36 whose weights
adapt to the distances before.
-/

namespace TenantConsole.Punycode

def digit (d : Nat) : Char := if d < 26 then Char.ofNat (97 + d) else Char.ofNat (22 + d)

/-- Where a number may end at a digit place, for a bias. -/
def threshold (place bias : Nat) : Nat :=
  if place ≤ bias then 1 else if bias + 26 ≤ place then 26 else place - bias

/-- A distance in digits. It shrinks with every digit, so its size bounds their number. -/
def writeDistance (fuel bias place distance : Nat) : List Char :=
  match fuel with
  | 0 => []
  | fuel + 1 =>
    let t := threshold place bias
    if distance < t then [digit distance]
    else
      digit (t + (distance - t) % (36 - t))
        :: writeDistance fuel bias (place + 36) ((distance - t) / (36 - t))

/-- Scales a distance down to the range of one digit, counting the places that takes. -/
def settle (fuel distance places : Nat) : Nat :=
  match fuel with
  | 0 => places
  | fuel + 1 =>
    if 455 < distance then settle fuel (distance / 35) (places + 36)
    else places + 36 * distance / (distance + 38)

/-- The bias after a distance, once this many characters have been written. -/
def adapt (distance written : Nat) (first : Bool) : Nat :=
  let damped := if first then distance / 700 else distance / 2
  settle (damped + 1) (damped + damped / written) 0

structure Progress where
  output : List Char
  distance : Nat := 0
  bias : Nat := 72
  written : Nat

/-- Passes one character of the text on the round for a code point. -/
def pass (code basic : Nat) (progress : Progress) (c : Char) : Progress :=
  if c.toNat < code then { progress with distance := progress.distance + 1 }
  else if c.toNat = code then
    { output :=
        progress.output
          ++ writeDistance (progress.distance + 1) progress.bias 36 progress.distance
      distance := 0
      bias := adapt progress.distance (progress.written + 1) (progress.written = basic)
      written := progress.written + 1 }
  else progress

/-- One round through the text for each code point, in ascending order. -/
def rounds (text : List Char) (basic : Nat) : List Nat → Nat → Progress → Progress
  | [], _, progress => progress
  | code :: codes, reached, progress =>
    let skipped := { progress with
      distance := progress.distance + (code - reached) * (progress.written + 1) }
    let passed := text.foldl (pass code basic) skipped
    rounds text basic codes (code + 1) { passed with distance := passed.distance + 1 }

def encode (text : List Char) : List Char :=
  let basic := text.filter fun c => c.toNat < 128
  let codes := ((text.filter fun c => 128 ≤ c.toNat).map Char.toNat).mergeSort.eraseDups
  let start : Progress :=
    { output := if basic = [] then [] else basic ++ ['-'], written := basic.length }
  (rounds text basic.length codes 128 start).output

/-! ### Reading -/

def digitValue? (c : Char) : Option Nat :=
  if 'a' ≤ c ∧ c ≤ 'z' then some (c.toNat - 97)
  else if c.isDigit then some (c.toNat - 22)
  else none

/-- The weights of digits stay below this number. -/
def weightBound : Nat := UInt32.size

/-- A distance off the front of a text; a digit below the threshold ends it. -/
def readDistance (bias place weight : Nat) : List Char → Option (Nat × List Char)
  | [] => none
  | c :: rest => do
    let d ← digitValue? c
    let t := threshold place bias
    if d < t then return (d * weight, rest)
    if weightBound ≤ weight * (36 - t) then none
    let (distance, rest) ← readDistance bias (place + 36) (weight * (36 - t)) rest
    return (d * weight + distance, rest)

/-- The character of a code point, unless it is a surrogate or beyond all characters. -/
def charAt? (code : Nat) : Option Char :=
  if code.isValidChar then some (Char.ofNat code) else none

/-- Puts the characters that distances stand for into a text. `place` is where the last one went,
and its code point is `code`. Each takes at least one digit, so their number is bounded. -/
def insertAll (fuel code place bias : Nat) (text digits : List Char) : Option (List Char) :=
  match fuel, digits with
  | _, [] => some text
  | 0, _ => none
  | fuel + 1, digits => do
    let (distance, rest) ← readDistance bias 36 1 digits
    let places := text.length + 1
    let code := code + (place + distance) / places
    let spot := (place + distance) % places
    let c ← charAt? code
    insertAll fuel code (spot + 1) (adapt distance places (place = 0))
      (text.take spot ++ c :: text.drop spot) rest

/-- The text that a label stands for. The last hyphen ends its ASCII characters, unless nothing
stands before it. -/
def decode? (label : List Char) : Option (List Char) :=
  let reversed := label.reverse
  let (basic, digits) := match reversed.dropWhile (· ≠ '-') with
    | [] => ([], label)
    | [_] => ([], label)
    | _ :: before => (before.reverse, (reversed.takeWhile (· ≠ '-')).reverse)
  insertAll digits.length 128 0 72 basic digits

end TenantConsole.Punycode
