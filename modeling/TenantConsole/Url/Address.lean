import TenantConsole.Text.Digits

/-!
# Network addresses

The numeric hosts. An IPv4 address has up to four parts, each in decimal, octal or hexadecimal
digits, and the last part fills the places that are left. An IPv6 address has eight pieces of four
hexadecimal digits, of which one run of zeros may be left out; its last two pieces may be written as
an IPv4 address.
-/

namespace TenantConsole.Address

open Text (numberIn?)

/-! ### IPv4 -/

/-- The number that a part spells: hexadecimal after `0x`, octal after another leading zero. -/
def part? : List Char → Option Nat
  | [] => none
  | '0' :: 'x' :: digits => numberIn? 16 digits
  | '0' :: 'X' :: digits => numberIn? 16 digits
  | '0' :: c :: digits => numberIn? 8 (c :: digits)
  | digits => numberIn? 10 digits

/-- The parts of a host between points, less an empty one at the end. -/
def parts (host : List Char) : List (List Char) :=
  let parts := host.splitOn '.'
  if 1 < parts.length && parts.getLast? = some [] then parts.dropLast else parts

/-- Whether a host has to be an IPv4 address: its last part is a number. -/
def endsInNumber (host : List Char) : Bool :=
  match (parts host).getLast? with
  | some last => last ≠ [] && last.all Char.isDigit || (part? last).isSome
  | none => false

/-- The address of its parts: all but the last are bytes, the last fills what is left. -/
def ofParts? : List Nat → (left : Nat) → Option Nat
  | [], _ => none
  | [last], left => if last < Nat.pow 256 left then some last else none
  | part :: rest, left =>
    if part < 256 ∧ 1 < left then
      (ofParts? rest (left - 1)).map (part * Nat.pow 256 (left - 1) + ·)
    else none

def ipv4? (host : List Char) : Option Nat := do
  ofParts? (← (parts host).mapM part?) 4

def writeIpv4 (address : Nat) : List Char :=
  ['.'].intercalate <|
    [24, 16, 8, 0].map fun bits => Nat.toDigits 10 ((address >>> bits) % 256)

/-! ### IPv6 -/

/-- A part of an embedded IPv4 address: a byte without a leading zero. -/
def byte? (digits : List Char) : Option Nat :=
  match digits with
  | [] => none
  | ['0'] => some 0
  | '0' :: _ => none
  | digits => do
    let n ← numberIn? 10 digits
    if n < 256 then some n else none

/-- The two pieces that an IPv4 address at the end stands for. -/
def embedded? (text : List Char) : Option (List Nat) := do
  match ← (text.splitOn '.').mapM byte? with
  | [a, b, c, d] => some [256 * a + b, 256 * c + d]
  | _ => none

/-- A piece of one to four hexadecimal digits. -/
def piece? (digits : List Char) : Option Nat :=
  if digits ≠ [] ∧ digits.length ≤ 4 then numberIn? 16 digits else none

/-- The pieces of a text that colons part; the last may be an IPv4 address. -/
def pieces? : List (List Char) → Option (List Nat)
  | [] => some []
  | [last] => if last.contains '.' then embedded? last else (piece? last).map ([·])
  | piece :: rest => do return (← piece? piece) :: (← pieces? rest)

/-- The pieces of a text; an empty text has none. -/
def group? (text : List Char) : Option (List Nat) :=
  if text = [] then some [] else pieces? (text.splitOn ':')

/-- The parts before and after the first two colons in a row. -/
def splitGap : List Char → Option (List Char × List Char)
  | [] => none
  | ':' :: ':' :: rest => some ([], rest)
  | c :: rest => (splitGap rest).map fun (before, after) => (c :: before, after)

/-- The eight pieces of an address. An IPv4 address stands at the very end only, so not before the
gap. -/
def ipv6? (text : List Char) : Option (List Nat) :=
  match splitGap text with
  | none => do
    let pieces ← group? text
    if pieces.length = 8 then some pieces else none
  | some (before, after) => do
    if before.contains '.' then none
    else
      let high ← group? before
      let low ← group? after
      if high.length + low.length < 8 then
        some (high ++ List.replicate (8 - high.length - low.length) 0 ++ low)
      else none

/-- The zeros at the front of a list. -/
def zeros (pieces : List Nat) : Nat := (pieces.takeWhile (· = 0)).length

/-- Where the first of the longest runs of zeros starts, and its length. -/
def longestRun : List Nat → (index : Nat) → Nat × Nat
  | [], index => (index, 0)
  | piece :: rest, index =>
    let here := zeros (piece :: rest)
    let (start, length) := longestRun rest (index + 1)
    if length ≤ here then (index, here) else (start, length)

def writePieces (pieces : List Nat) : List Char :=
  [':'].intercalate (pieces.map (Nat.toDigits 16))

/-- An address in brackets; the longest run of at least two zeros is left out. -/
def writeIpv6 (pieces : List Nat) : List Char :=
  let (start, length) := longestRun pieces 0
  let body :=
    if length < 2 then writePieces pieces
    else
      writePieces (pieces.take start) ++ [':', ':'] ++ writePieces (pieces.drop (start + length))
  '[' :: body ++ [']']

end TenantConsole.Address
