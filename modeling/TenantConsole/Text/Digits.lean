/-!
# Digits

The numbers that decimal and hexadecimal digits stand for. Only the ASCII digits count.
-/

namespace TenantConsole.Text

def digitValue (c : Char) : Nat := c.toNat - 48

/-- The number that decimal digits spell. -/
def decimal (digits : List Char) : Nat := digits.foldl (fun n c => 10 * n + digitValue c) 0

/-- The number that a text of decimal digits spells; there has to be one at least. -/
def decimal? (text : List Char) : Option Nat :=
  if text ≠ [] ∧ text.all Char.isDigit then some (decimal text) else none

/-- What keeps a text from spelling a number below a bound. -/
inductive NumberFault where
  | empty
  | badDigit
  | tooLarge
  deriving DecidableEq

def NumberFault.message : NumberFault → String
  | empty => "cannot parse integer from empty string"
  | badDigit => "invalid digit found in string"
  | tooLarge => "number too large to fit in target type"

/-- The number that digits spell; of a foreign character and a number that has grown too large, the
first one is the fault. -/
def readDigits (bound : Nat) (digits : List Char) : Except NumberFault Nat :=
  digits.foldlM (fun n c =>
    if !c.isDigit then .error .badDigit
    else if bound ≤ 10 * n + digitValue c then .error .tooLarge
    else .ok (10 * n + digitValue c)) 0

/-- The number below a bound that a text spells; a plus sign may stand before it. -/
def readBelow (bound : Nat) (text : List Char) : Except NumberFault Nat :=
  match text with
  | [] => .error .empty
  | ['+'] => .error .badDigit
  | '+' :: digits => readDigits bound digits
  | digits => readDigits bound digits

/-- The value of a hexadecimal digit, whichever its case. -/
def hexDigit? (c : Char) : Option Nat :=
  if '0' ≤ c ∧ c ≤ '9' then some (c.toNat - 48)
  else if 'a' ≤ c ∧ c ≤ 'f' then some (c.toNat - 87)
  else if 'A' ≤ c ∧ c ≤ 'F' then some (c.toNat - 55)
  else none

/-- The value of a digit in a base up to sixteen. -/
def digitIn? (base : Nat) (c : Char) : Option Nat := do
  let value ← hexDigit? c
  if value < base then some value else none

/-- The number that digits of a base spell; no digits spell zero. -/
def numberIn? (base : Nat) (digits : List Char) : Option Nat :=
  digits.foldlM (fun n c => (digitIn? base c).map (base * n + ·)) 0

end TenantConsole.Text
