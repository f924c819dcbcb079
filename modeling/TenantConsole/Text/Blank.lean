/-!
# Blanks

The characters of the Unicode property `White_Space`, and trimming by them.
-/

namespace TenantConsole.Text

def isBlank (c : Char) : Bool :=
  let n := c.toNat
  9 ≤ n && n ≤ 13 || n = 0x20 || n = 0x85 || n = 0xA0 || n = 0x1680 || 0x2000 ≤ n && n ≤ 0x200A
    || n = 0x2028 || n = 0x2029 || n = 0x202F || n = 0x205F || n = 0x3000

def trimStart (text : List Char) : List Char := text.dropWhile isBlank

def trimEnd (text : List Char) : List Char := (text.reverse.dropWhile isBlank).reverse

/-- The text without the blanks at its ends. -/
def trim (text : String) : String := String.ofList (trimEnd (trimStart text.toList))

def isAllBlank (text : String) : Bool := text.toList.all isBlank

/-- The trimmed text, unless nothing is left of it. -/
def trimmed? (text : String) : Option String :=
  let rest := trim text
  if rest = "" then none else some rest

end TenantConsole.Text
