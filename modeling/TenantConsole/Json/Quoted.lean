import TenantConsole.Json.Reader
import TenantConsole.Text.Digits

/-!
# Quoted text

Reading what stands between quotes. An escape names a character by a letter or by the four
hexadecimal digits of a code unit; characters beyond the sixteen-bit range take two units, a high
and a low surrogate, and a surrogate on its own names no character. Four digits are taken as four
bytes, so a text with fewer left ends too early.
-/

namespace TenantConsole.Json

/-- The character that a letter names after a backslash. -/
def unescape? (letter : Char) : Option Char :=
  if letter = '"' then some '"'
  else if letter = '\\' then some '\\'
  else if letter = '/' then some '/'
  else if letter = 'b' then some '\x08'
  else if letter = 'f' then some '\x0c'
  else if letter = 'n' then some '\n'
  else if letter = 'r' then some '\r'
  else if letter = 't' then some '\t'
  else none

/-- The code unit that four hexadecimal digits spell. -/
def codeUnit? (a b c d : Char) : Option Nat := Text.numberIn? 16 [a, b, c, d]

def isHighSurrogate (unit : Nat) : Bool := 0xD800 ≤ unit && unit < 0xDC00

def isLowSurrogate (unit : Nat) : Bool := 0xDC00 ≤ unit && unit < 0xE000

/-- The character of a high and a low surrogate. -/
def joinSurrogates (high low : Nat) : Char :=
  Char.ofNat ((high - 0xD800) * 1024 + (low - 0xDC00) + 0x10000)

/-- Where and why the reading of a quoted text stops. -/
structure Stop where
  error : ReadError
  rest : List Char

def push (bytes : List Char) :
    Except Stop (List Char × List Char) → Except Stop (List Char × List Char)
  | .ok (found, rest) => .ok (bytes ++ found, rest)
  | .error stop => .error stop

/-- The bytes up to the closing quote. -/
def readQuoted : List Char → Except Stop (List Char × List Char)
  | [] => .error ⟨.truncated, []⟩
  | c :: text =>
    if c = '"' then .ok ([], text)
    else if c = '\\' then
      match text with
      | [] => .error ⟨.truncated, []⟩
      | letter :: text =>
        if letter = 'u' then
          match text with
          | h1 :: h2 :: h3 :: h4 :: text =>
            match codeUnit? h1 h2 h3 h4 with
            | none => .error ⟨.malformed, text⟩
            | some high =>
              if isLowSurrogate high then .error ⟨.malformed, text⟩
              else if isHighSurrogate high then
                match text with
                | [] => .error ⟨.truncated, []⟩
                | [b] => if b = '\\' then .error ⟨.truncated, []⟩ else .error ⟨.malformed, []⟩
                | b :: u :: text =>
                  if b ≠ '\\' then .error ⟨.malformed, u :: text⟩
                  else if u ≠ 'u' then .error ⟨.malformed, text⟩
                  else
                    match text with
                    | l1 :: l2 :: l3 :: l4 :: text =>
                      match codeUnit? l1 l2 l3 l4 with
                      | none => .error ⟨.malformed, text⟩
                      | some low =>
                        if isLowSurrogate low then
                          push (bytesOfChar (joinSurrogates high low)) (readQuoted text)
                        else .error ⟨.malformed, text⟩
                    | _ => .error ⟨.truncated, []⟩
              else push (bytesOfChar (Char.ofNat high)) (readQuoted text)
          | _ => .error ⟨.truncated, []⟩
        else
          match unescape? letter with
          | some c => push [c] (readQuoted text)
          | none => .error ⟨.malformed, text⟩
    else if c.toNat < 32 then .error ⟨.malformed, text⟩
    else push [c] (readQuoted text)

/-- The text whose opening quote has been taken. -/
def readText : Reader String := fun text =>
  match readQuoted text with
  | .error stop => .error stop.error
  | .ok (bytes, rest) =>
    match textOf? bytes with
    | some content => .ok (content, rest)
    | none => .error .malformed

/-- What follows the closing quote of a text that nobody asked for: its escapes have to be spelled
right, but a surrogate may stand on its own, and bytes may spell no characters. -/
def skipQuoted : List Char → Except ReadError (List Char)
  | [] => .error .truncated
  | c :: text =>
    if c = '"' then .ok text
    else if c = '\\' then
      match text with
      | [] => .error .truncated
      | letter :: text =>
        if letter = 'u' then
          match text with
          | h1 :: h2 :: h3 :: h4 :: text =>
            if (codeUnit? h1 h2 h3 h4).isSome then skipQuoted text else .error .malformed
          | _ => .error .truncated
        else if (unescape? letter).isSome then skipQuoted text
        else .error .malformed
    else if c.toNat < 32 then .error .malformed
    else skipQuoted text

end TenantConsole.Json
