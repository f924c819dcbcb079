import TenantConsole.Json.Parser
import TenantConsole.Json.Printer
import TenantConsole.Text.Printable

/-!
# Record formats

A format reads one kind of value in two ways: out of a JSON value, where a refusal says what is
wrong, and out of a text, where a refusal only says of which kind it is. A record is an object of
named members or the list of its members in the order of their declaration. Either way the reader
hands on its *slots*: one value for each declared member, in that order, with the defaults filled
in.
-/

namespace TenantConsole

open Json (ReadError Reader)

/-- Why a JSON value is not what a format asks for. -/
inductive DecodeError where
  | missing (member : String)
  | wrongKind (found : Json) (expected : String)
  | wrongValue (found : Json) (expected : String)
  | wrongLength (length : Nat) (expected : String)
  | unknownName (name : String) (known : List String)
  /-- A text that should hold JSON does not. -/
  | badText (error : ReadError)

namespace DecodeError

/-- How a message speaks of a value. -/
def describe : Json → String
  | .null => "null"
  | .bool true => "boolean `true`"
  | .bool false => "boolean `false`"
  | .int n => s!"integer `{n}`"
  | .float x => "floating point `" ++ String.ofList (Decimal.writeFloat x) ++ "`"
  | .str text => "string " ++ Text.quote text
  | .arr _ => "sequence"
  | .obj _ => "map"

def inBackticks (name : String) : String := "`" ++ name ++ "`"

def message : DecodeError → String
  | missing member => s!"missing field " ++ inBackticks member
  | wrongKind found expected => s!"invalid type: " ++ describe found ++ ", expected " ++ expected
  | wrongValue found expected => s!"invalid value: " ++ describe found ++ ", expected " ++ expected
  | wrongLength length expected => s!"invalid length {length}, expected {expected}"
  | unknownName name known =>
    "unknown variant " ++ inBackticks name ++ ", expected one of "
      ++ ", ".intercalate (known.map inBackticks)
  | badText .truncated => "EOF while parsing a value"
  | badText _ => "expected value"

end DecodeError

/-! ### Embedded texts -/

mutual

/-- The value with the texts of JSON in it replaced by the values that they spell. -/
def unembed : Json → Except DecodeError Json
  | .arr items => (unembedItems items).map .arr
  | .obj [] => .ok (.obj [])
  | .obj ((name, value) :: members) =>
    if name = Json.embeddingName then
      match value with
      | .str text =>
        match Json.parse text with
        | .error e => .error (.badText e)
        | .ok found =>
          if members.length = 0 then .ok found
          else .error (.wrongLength (members.length + 1) "fewer elements in map")
      | found => .error (.wrongKind found "raw value")
    else
      match unembed value with
      | .error e => .error e
      | .ok value => (unembedMembers members).map fun members => .obj ((name, value) :: members)
  | value => .ok value

def unembedItems : List Json → Except DecodeError (List Json)
  | [] => .ok []
  | item :: items =>
    match unembed item with
    | .error e => .error e
    | .ok item => (unembedItems items).map (item :: ·)

def unembedMembers : List (String × Json) → Except DecodeError (List (String × Json))
  | [] => .ok []
  | (name, value) :: members =>
    match unembed value with
    | .error e => .error e
    | .ok value => (unembedMembers members).map ((name, value) :: ·)

end

/-! ### Formats -/

structure Format (α : Type) where
  ofJson : Json → Except DecodeError α
  read : (depth : Nat) → Reader α

namespace Format

def map {α β : Type} (f : α → β) (format : Format α) : Format β where
  ofJson value := (format.ofJson value).map f
  read depth text := (format.read depth text).map fun (value, rest) => (f value, rest)

/-- Any value. -/
def any : Format Json where
  ofJson := unembed
  read depth text := Json.readValue depth text

def text : Format Json where
  ofJson
    | .str text => .ok (.str text)
    | found => .error (.wrongKind found "a string")
  read _ text :=
    match Json.skipBlanks text with
    | '"' :: rest => (Json.readText rest).map fun (text, rest) => (.str text, rest)
    | rest => .error (Json.misfit rest)

def flag : Format Json where
  ofJson
    | .bool value => .ok (.bool value)
    | found => .error (.wrongKind found "a boolean")
  read _ text :=
    match Json.skipBlanks text with
    | 't' :: rest => (Json.expect ['r', 'u', 'e'] rest).map (Json.bool true, ·)
    | 'f' :: rest => (Json.expect ['a', 'l', 's', 'e'] rest).map (Json.bool false, ·)
    | rest => .error (Json.misfit rest)

def isInt64 (n : Int) : Bool := -0x8000000000000000 ≤ n && n < 0x8000000000000000

/-- A whole number of 64 bits with sign. -/
def int64 : Format Json where
  ofJson
    | .int n => if isInt64 n then .ok (.int n) else .error (.wrongValue (.int n) "i64")
    | found => .error (.wrongKind found "i64")
  read _ text :=
    match Json.skipBlanks text with
    | c :: rest =>
      if c = '-' ∨ c.isDigit then
        match Json.readNumber (c :: rest) with
        | .ok (.int n, rest) => if isInt64 n then .ok (.int n, rest) else .error .unfit
        | .ok _ => .error .unfit
        | .error e => .error e
      else .error (Json.misfit (c :: rest))
    | [] => .error .truncated

/-- The null that may stand beside a name in place of the bare name. -/
def readUnit (text : List Char) : Except ReadError (List Char) :=
  match Json.skipBlanks text with
  | 'n' :: rest => Json.expect ['u', 'l', 'l'] rest
  | rest => .error (Json.misfit rest)

/-- One of the known names: as a text, or as an object whose one member has that name and is null.
-/
def oneOf (known : List String) : Format Json where
  ofJson
    | .str name => if name ∈ known then .ok (.str name) else .error (.unknownName name known)
    | .obj [(name, value)] =>
      if name ∈ known then
        match value with
        | .null => .ok (.str name)
        | found => .error (.wrongKind found "unit")
      else .error (.unknownName name known)
    | .obj members => .error (.wrongValue (.obj members) "map with a single key")
    | found => .error (.wrongKind found "string or map")
  read depth text :=
    match Json.skipBlanks text with
    | [] => .error .truncated
    | '"' :: rest => do
      let (name, rest) ← Json.readText rest
      if name ∈ known then return (.str name, rest) else throw .unfit
    | '{' :: rest =>
      if depth = 0 then .error .malformed
      else
        match Json.skipBlanks rest with
        | [] => .error .truncated
        | '"' :: rest => do
          let (name, rest) ← Json.readText rest
          unless name ∈ known do throw .unfit
          let rest ← readUnit (← Json.readColon rest)
          match Json.skipBlanks rest with
          | '}' :: rest => return (.str name, rest)
          | [] => throw .truncated
          | _ => throw .malformed
        | _ => .error .malformed
    | _ => .error .malformed

/-- A list of such values. -/
def list (item : Format Json) : Format Json where
  ofJson
    | .arr items => (items.mapM item.ofJson).map .arr
    | found => .error (.wrongKind found "a sequence")
  read depth text :=
    match Json.skipBlanks text with
    | '[' :: rest =>
      match depth with
      | 0 => .error .malformed
      | depth + 1 =>
        (Json.readItems (item.read depth) rest).map fun (items, rest) => (.arr items, rest)
    | rest => .error (Json.misfit rest)

/-- Null or such a value. -/
def nullable (format : Format Json) : Format Json where
  ofJson
    | .null => .ok .null
    | value => format.ofJson value
  read depth text :=
    match Json.skipBlanks text with
    | 'n' :: rest => (Json.expect ['u', 'l', 'l'] rest).map (Json.null, ·)
    | rest => format.read depth rest

/-! ### Records -/

/-- What stands in for a member that is missing. -/
inductive Absence where
  /-- The member has to be there. -/
  | refused
  /-- An object may leave the member out, a list may not. -/
  | null
  /-- Either form may leave the member out. -/
  | default (value : Json)

def Absence.inObject? : Absence → Option Json
  | refused => none
  | null => some .null
  | default value => some value

def Absence.inList? : Absence → Option Json
  | default value => some value
  | _ => none

/-- A declared member of a record. -/
structure Slot where
  name : String
  format : Format Json
  absence : Absence := .refused

def Slot.text (name : String) : Slot := ⟨name, Format.text, .refused⟩

/-- A text that is empty where it is missing. -/
def Slot.optionalText (name : String) : Slot := ⟨name, Format.text, .default (.str "")⟩

/-- A flag that is down where it is missing. -/
def Slot.optionalFlag (name : String) : Slot := ⟨name, Format.flag, .default (.bool false)⟩

/-- A list that is empty where it is missing. -/
def Slot.optionalList (name : String) (item : Format Json) : Slot :=
  ⟨name, item.list, .default (.arr [])⟩

def findSlot? (slots : List Slot) (name : String) : Option Slot :=
  slots.find? fun slot => slot.name = name

def found? (members : List (String × Json)) (name : String) : Option Json :=
  (members.find? fun (n, _) => n = name).map Prod.snd

/-- The slots of an object, from the members that were found, or the first one that is missing. -/
def fill (members : List (String × Json)) : List Slot → Except String (List Json)
  | [] => .ok []
  | slot :: slots =>
    match (found? members slot.name).or slot.absence.inObject? with
    | none => .error slot.name
    | some value => (fill members slots).map (value :: ·)

/-- The declared members among those of an object, each read by its own format. -/
def decodeMembers (slots : List Slot) :
    List (String × Json) → Except DecodeError (List (String × Json))
  | [] => .ok []
  | (name, value) :: members =>
    match findSlot? slots name with
    | none => decodeMembers slots members
    | some slot => do
      let value ← slot.format.ofJson value
      return (name, value) :: (← decodeMembers slots members)

/-- How a message names a record and its size. -/
def shape (name : String) (size : Nat) : String :=
  s!"struct {name} with {size} element" ++ if size = 1 then "" else "s"

/-- The slots of a list, from its items; `index` counts the slots before. -/
def decodeSlots (expected : String) (index : Nat) : List Slot → List Json →
    Except DecodeError (List Json)
  | [], [] => .ok []
  | [], rest => .error (.wrongLength (index + rest.length) "fewer elements in array")
  | slot :: slots, [] =>
    match slot.absence.inList? with
    | some value => (decodeSlots expected (index + 1) slots []).map (value :: ·)
    | none => .error (.wrongLength index expected)
  | slot :: slots, value :: rest => do
    let value ← slot.format.ofJson value
    return value :: (← decodeSlots expected (index + 1) slots rest)

/-- Reads the slots of a list after its opening bracket. -/
def readSlots (depth : Nat) (started : Bool) : List Slot → Reader (List Json)
  | [], text =>
    match Json.skipBlanks text with
    | [] => .error .truncated
    | ']' :: rest => .ok ([], rest)
    | _ => .error .malformed
  | slot :: slots, text =>
    let next (text : List Char) : Except ReadError (List Json × List Char) := do
      let (value, text) ← slot.format.read depth text
      let (values, text) ← readSlots depth true slots text
      return (value :: values, text)
    match Json.skipBlanks text with
    | [] => .error .truncated
    | ']' :: rest =>
      match (slot :: slots).mapM fun slot => slot.absence.inList? with
      | some values => .ok (values, rest)
      | none => .error .unfit
    | c :: rest =>
      if ¬ started then next (c :: rest)
      else if c = ',' then
        match Json.skipBlanks rest with
        | [] => .error .truncated
        | ']' :: _ => .error .malformed
        | rest => next rest
      else .error .malformed

/-- Reads one member of an object; no declared member may come twice. -/
def readMember (slots : List Slot) (depth : Nat) (members : List (String × Json)) :
    Reader (List (String × Json))
  | '"' :: text => do
    let (name, text) ← Json.readText text
    match findSlot? slots name with
    | none => return (members, ← Json.skipValue (← Json.readColon text))
    | some slot =>
      if (found? members name).isSome then throw .unfit
      let (value, text) ← slot.format.read depth (← Json.readColon text)
      return (members ++ [(name, value)], text)
  | [] => .error .truncated
  | _ => .error .malformed

/-- A record, read into the list of its slots. -/
def record (name : String) (slots : List Slot) : Format Json where
  ofJson
    | .obj members => do
      let members ← decodeMembers slots members
      match fill members slots with
      | .ok values => return .arr values
      | .error member => throw (.missing member)
    | .arr items => (decodeSlots (shape name slots.length) 0 slots items).map .arr
    | found => .error (.wrongKind found s!"struct {name}")
  read depth text :=
    match Json.skipBlanks text, depth with
    | '[' :: rest, depth + 1 =>
      (readSlots depth false slots rest).map fun (values, rest) => (.arr values, rest)
    | '{' :: rest, depth + 1 => do
      let (members, rest) ←
        Json.readEntries '}' (readMember slots depth) (rest.length + 1) false [] rest
      match fill members slots with
      | .ok values => return (.arr values, rest)
      | .error _ => throw .unfit
    | '[' :: _, 0 => .error .malformed
    | '{' :: _, 0 => .error .malformed
    | rest, _ => .error (Json.misfit rest)

/-! ### Whole texts -/

/-- The value that a whole text holds. -/
def readAll {α : Type} (format : Format α) (text : String) : Except ReadError α :=
  Json.finish (format.read Json.depthLimit (Json.bytesOf text))

/-- The value at the front of a text; what follows it is left alone. -/
def readFront {α : Type} (format : Format α) (text : String) : Except ReadError α :=
  (format.read Json.depthLimit (Json.bytesOf text)).map Prod.fst

end Format

end TenantConsole
