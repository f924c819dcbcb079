import TenantConsole.Text.Mark
import TenantConsole.Text.Shapeless

/-!
# Quoting text in messages

A message shows a foreign text between quotes, with the characters that do not print by themselves
spelled out by their code points: those without a shape other than the space, those whose shape is
empty, and marks that attach to the character before them.
-/

namespace TenantConsole.Text

/-- Letters with an empty shape, which hold the place of a missing letter in a Korean syllable. -/
def fillers : Ranges := [(0x115F, 0x1160), (0x3164, 0x3164), (0xFFA0, 0xFFA0)]

/-- Whether a character shows by itself. -/
def isPrintable (c : Char) : Bool :=
  c = ' ' || !(isShapeless c || isAttached c || fillers.contains c)

def quoteChar (c : Char) : List Char :=
  if c = '"' then ['\\', '"']
  else if c = '\\' then ['\\', '\\']
  else if c = '\n' then ['\\', 'n']
  else if c = '\r' then ['\\', 'r']
  else if c = '\t' then ['\\', 't']
  else if c.toNat = 0 then ['\\', '0']
  else if isPrintable c then [c]
  else '\\' :: 'u' :: '\x7b' :: Nat.toDigits 16 c.toNat ++ ['\x7d']

/-- The text between quotes. -/
def quote (text : String) : String :=
  String.ofList ('"' :: text.toList.flatMap quoteChar ++ ['"'])

end TenantConsole.Text
