/-!
# UTF-8 with faults

Bytes from outside need not be UTF-8. The first fault has a place, and a length unless the bytes end
in the midst of a character; the bytes of one fault are those that start a character together, or a
single byte that starts none. Past faults a text is read with a replacement for each.
-/

namespace TenantConsole.Text

/-- How many bytes follow the first byte of a character, and the range of the next one. -/
def followers? (first : Nat) : Option (Nat × Nat × Nat) :=
  if first < 0x80 then some (0, 0, 0)
  else if 0xC2 ≤ first ∧ first ≤ 0xDF then some (1, 0x80, 0xBF)
  else if first = 0xE0 then some (2, 0xA0, 0xBF)
  else if first = 0xED then some (2, 0x80, 0x9F)
  else if 0xE1 ≤ first ∧ first ≤ 0xEF then some (2, 0x80, 0xBF)
  else if first = 0xF0 then some (3, 0x90, 0xBF)
  else if 0xF1 ≤ first ∧ first ≤ 0xF3 then some (3, 0x80, 0xBF)
  else if first = 0xF4 then some (3, 0x80, 0x8F)
  else none

/-- How many of at most `count` bytes follow in a character; the next one is in a range of its own.
-/
def following (count low high : Nat) : List UInt8 → Nat
  | [] => 0
  | byte :: rest =>
    if count = 0 ∨ byte.toNat < low ∨ high < byte.toNat then 0
    else following (count - 1) 0x80 0xBF rest + 1

/-- What stands at the front of bytes: a character or a part of one. `extra` bytes follow the
first. -/
inductive Front where
  | whole (extra : Nat)
  | broken (extra : Nat)
  | cut
  deriving DecidableEq

def front (first : UInt8) (rest : List UInt8) : Front :=
  match followers? first.toNat with
  | none => .broken 0
  | some (count, low, high) =>
    let extra := following count low high rest
    if extra = count then .whole extra
    else if extra = rest.length then .cut
    else .broken extra

structure EncodingFault where
  place : Nat
  /-- None where the bytes end too early. -/
  length? : Option Nat
  deriving DecidableEq

def EncodingFault.message (fault : EncodingFault) : String :=
  match fault.length? with
  | some length => s!"invalid utf-8 sequence of {length} bytes from index {fault.place}"
  | none => s!"incomplete utf-8 byte sequence from index {fault.place}"

/-- The first fault in bytes that start at a place. -/
def faultFrom? (place : Nat) : List UInt8 → Option EncodingFault
  | [] => none
  | first :: rest =>
    match front first rest with
    | .whole extra => faultFrom? (place + extra + 1) (rest.drop extra)
    | .broken extra => some ⟨place, some (extra + 1)⟩
    | .cut => some ⟨place, none⟩
  termination_by bytes => bytes.length
  decreasing_by simp only [List.length_drop, List.length_cons]; omega

/-- The bytes of the replacement character. -/
def replacement : List UInt8 := [0xEF, 0xBF, 0xBD]

/-- The bytes with each fault replaced. -/
def mended : List UInt8 → List UInt8
  | [] => []
  | first :: rest =>
    match front first rest with
    | .whole extra => first :: rest.take extra ++ mended (rest.drop extra)
    | .broken extra => replacement ++ mended (rest.drop extra)
    | .cut => replacement
  termination_by bytes => bytes.length
  decreasing_by all_goals simp only [List.length_drop, List.length_cons]; omega

/-- The text that bytes are, with each fault replaced. -/
def readMended (bytes : List UInt8) : String :=
  (String.fromUTF8? ⟨(mended bytes).toArray⟩).getD ""

end TenantConsole.Text
