import TenantConsole.Text.Digits

/-!
# Percent coding

A percent sign with two hexadecimal digits stands for a byte. A percent sign without them stands for
itself.
-/

namespace TenantConsole.Percent

/-- The value of a byte that is a hexadecimal digit. -/
def digit? (b : UInt8) : Option Nat := Text.hexDigit? (Char.ofNat b.toNat)

def decodeBytes : List UInt8 → List UInt8
  | 37 :: high :: low :: rest =>
    match digit? high, digit? low with
    | some h, some l => UInt8.ofNat (16 * h + l) :: decodeBytes rest
    | _, _ => 37 :: decodeBytes (high :: low :: rest)
  | b :: rest => b :: decodeBytes rest
  | [] => []

/-- The text that a coded text stands for, if its bytes are one. -/
def decode? (text : String) : Option String :=
  String.fromUTF8? ⟨(decodeBytes text.toUTF8.toList).toArray⟩

/-- Writes a byte as a percent sign and its digits. -/
def writeByte (b : UInt8) : List Char :=
  ['%', (b.toNat / 16).digitChar.toUpper, (b.toNat % 16).digitChar.toUpper]

/-- Codes the control characters and all beyond ASCII. -/
def encodeControls (text : List Char) : List Char :=
  text.flatMap fun c =>
    if 32 ≤ c.toNat ∧ c.toNat < 127 then [c]
    else (String.singleton c).toUTF8.toList.flatMap writeByte

end TenantConsole.Percent
