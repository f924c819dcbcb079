import TenantConsole.Json.Basic
import TenantConsole.Json.Decimal

/-!
# Writing JSON

Compact text has no blanks; indented text has every item and member on a line of its own, two spaces
deeper than what holds it. The two differ only in the blanks that a `Style` puts between tokens.
-/

namespace TenantConsole.Json

/-- The blanks of a layout: what stands before an item at a depth, and after a member's name. -/
structure Style where
  gap : Nat → List Char
  colon : List Char

namespace Style

def compact : Style := ⟨fun _ => [], [':']⟩

def indented : Style := ⟨fun depth => '\n' :: List.replicate (2 * depth) ' ', [':', ' ']⟩

end Style

/-- A code unit as four hexadecimal digits. -/
def hexDigits (n : Nat) : List Char :=
  [n / 4096 % 16, n / 256 % 16, n / 16 % 16, n % 16].map Nat.digitChar

/-- Quotes, backslashes and the characters below the space are escaped, all others stand as they
are. -/
def escape (c : Char) : List Char :=
  if c = '"' then ['\\', '"']
  else if c = '\\' then ['\\', '\\']
  else if c = '\x08' then ['\\', 'b']
  else if c = '\t' then ['\\', 't']
  else if c = '\n' then ['\\', 'n']
  else if c = '\x0c' then ['\\', 'f']
  else if c = '\r' then ['\\', 'r']
  else if c.toNat < 32 then '\\' :: 'u' :: hexDigits c.toNat
  else [c]

def writeText (text : String) : List Char :=
  '"' :: text.toList.flatMap escape ++ ['"']

def writeInt (n : Int) : List Char :=
  match n with
  | .ofNat n => Nat.toDigits 10 n
  | .negSucc n => '-' :: Nat.toDigits 10 (n + 1)

mutual

/-- The text of a value that stands at a depth. -/
def write (style : Style) (depth : Nat) : Json → List Char
  | .null => ['n', 'u', 'l', 'l']
  | .bool true => ['t', 'r', 'u', 'e']
  | .bool false => ['f', 'a', 'l', 's', 'e']
  | .int n => writeInt n
  | .float x => Decimal.writeFloat x
  | .str text => writeText text
  | .arr [] => ['[', ']']
  | .arr (item :: items) =>
    '[' :: style.gap (depth + 1) ++ write style (depth + 1) item
      ++ writeItems style (depth + 1) items ++ style.gap depth ++ [']']
  | .obj [] => ['{', '}']
  | .obj ((name, value) :: members) =>
    '{' :: style.gap (depth + 1) ++ writeText name ++ style.colon ++ write style (depth + 1) value
      ++ writeMembers style (depth + 1) members ++ style.gap depth ++ ['}']

/-- The items after the first, each after a comma. -/
def writeItems (style : Style) (depth : Nat) : List Json → List Char
  | [] => []
  | item :: items =>
    ',' :: style.gap depth ++ write style depth item ++ writeItems style depth items

/-- The members after the first, each after a comma. -/
def writeMembers (style : Style) (depth : Nat) : List (String × Json) → List Char
  | [] => []
  | (name, value) :: members =>
    ',' :: style.gap depth ++ writeText name ++ style.colon ++ write style depth value
      ++ writeMembers style depth members

end

/-- The text on one line, without blanks. -/
def compact (value : Json) : String := String.ofList (write .compact 0 value)

/-- The text with one item a line. -/
def indented (value : Json) : String := String.ofList (write .indented 0 value)

end TenantConsole.Json
