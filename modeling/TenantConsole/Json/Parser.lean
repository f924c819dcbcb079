import TenantConsole.Json.Number
import TenantConsole.Json.Quoted

/-!
# Reading any value

Lists and objects nest at most `depthLimit` deep. An object whose first member has the reserved name
`embeddingName` stands for the value that the text of that member spells. A member that nobody asked
for is skipped without the limit and without building its value.
-/

namespace TenantConsole.Json

/-- How deep lists and objects may nest. -/
def depthLimit : Nat := 127

/-- A member's name and the colon after it. -/
def readName : Reader String := fun text =>
  match text with
  | '"' :: text => do
    let (name, text) ← readText text
    return (name, ← readColon text)
  | [] => .error .truncated
  | _ => .error .malformed

/-- The members of an object after its opening bracket. -/
def readMembers (value : Reader Json) : Reader (List (String × Json)) := fun text =>
  let entry (found : List (String × Json)) : Reader (List (String × Json)) := fun text => do
    let (name, text) ← readName text
    let (value, text) ← value text
    return (found ++ [(name, value)], text)
  readEntries '}' entry (text.length + 1) false [] text

/-- A value whose objects are read by `object`, after their opening brackets. -/
def readValueWith (object : Reader Json → Reader Json) (depth : Nat) : Reader Json := fun text =>
  match skipBlanks text with
  | [] => .error .truncated
  | c :: rest =>
    if c = 'n' then do return (.null, ← expect ['u', 'l', 'l'] rest)
    else if c = 't' then do return (.bool true, ← expect ['r', 'u', 'e'] rest)
    else if c = 'f' then do return (.bool false, ← expect ['a', 'l', 's', 'e'] rest)
    else if c = '"' then do
      let (text, rest) ← readText rest
      return (.str text, rest)
    else if c = '-' ∨ c.isDigit then readNumber (c :: rest)
    else if c = '[' then
      match depth with
      | 0 => .error .malformed
      | depth + 1 => do
        let (items, rest) ← readItems (readValueWith object depth) rest
        return (.arr items, rest)
    else if c = '{' then
      match depth with
      | 0 => .error .malformed
      | depth + 1 => object (readValueWith object depth) rest
    else .error .malformed

/-- An object with its members as they stand, also those of one name. -/
def readPlainObject (value : Reader Json) : Reader Json := fun text => do
  let (members, rest) ← readMembers value text
  return (.obj members, rest)

/-! ### Values that nobody asked for -/

/-- What follows a value; `fuel` is at least the length of the text. -/
def skipAny (fuel : Nat) (text : List Char) : Except ReadError (List Char) :=
  match fuel with
  | 0 => .error .truncated
  | fuel + 1 =>
    match skipBlanks text with
    | [] => .error .truncated
    | c :: rest =>
      if c = 'n' then expect ['u', 'l', 'l'] rest
      else if c = 't' then expect ['r', 'u', 'e'] rest
      else if c = 'f' then expect ['a', 'l', 's', 'e'] rest
      else if c = '"' then skipQuoted rest
      else if c = '-' ∨ c.isDigit then skipNumber (c :: rest)
      else if c = '[' then
        let entry (_ : Unit) : Reader Unit := fun text => do return ((), ← skipAny fuel text)
        (readEntries ']' entry (rest.length + 1) false () rest).map Prod.snd
      else if c = '{' then
        let entry (_ : Unit) : Reader Unit := fun text =>
          match text with
          | '"' :: text => do return ((), ← skipAny fuel (← readColon (← skipQuoted text)))
          | [] => .error .truncated
          | _ => .error .malformed
        (readEntries '}' entry (rest.length + 1) false () rest).map Prod.snd
      else .error .malformed

/-- What follows a value that nobody asked for. -/
def skipValue (text : List Char) : Except ReadError (List Char) := skipAny (text.length + 1) text

/-- The refusal of a value of another kind than the one asked for: a text, a number or a word is
still read to its end and may turn out to be no JSON. -/
def misfit (text : List Char) : ReadError :=
  let after {α : Type} (found : Except ReadError α) : ReadError :=
    match found with
    | .ok _ => .unfit
    | .error e => e
  match text with
  | [] => .truncated
  | c :: rest =>
    if c = 'n' then after (expect ['u', 'l', 'l'] rest)
    else if c = 't' then after (expect ['r', 'u', 'e'] rest)
    else if c = 'f' then after (expect ['a', 'l', 's', 'e'] rest)
    else if c = '"' then after (readText rest)
    else if c = '-' ∨ c.isDigit then after (readNumber (c :: rest))
    else if c = '[' ∨ c = '{' then .unfit
    else .malformed

/-! ### Embedded texts -/

/-- The name that marks an object as a text of JSON. -/
def embeddingName : String := "$serde_json::private::RawValue"

/-- What follows the reserved name, if the first member of an object has it. -/
def afterEmbeddingName? (text : List Char) : Option (List Char) :=
  match skipBlanks text with
  | '"' :: text =>
    match readText text with
    | .ok (name, rest) => if name = embeddingName then some rest else none
    | .error _ => none
  | _ => none

/-- The value that the only member of an object spells, its name left behind. -/
def readEmbedded (whole : List Char → Except ReadError Json) : Reader Json := fun text => do
  match skipBlanks (← readColon text) with
  | '"' :: text =>
    let (content, rest) ← readText text
    match whole (bytesOf content) with
    | .ok value => return (value, ← expect ['}'] (skipBlanks rest))
    | .error _ => throw .unfit
  | found => throw (misfit found)

/-- An object, whose embedded text, if it has one, is read by `whole`. -/
def readObject (whole : List Char → Except ReadError Json) (value : Reader Json) : Reader Json :=
  fun text =>
    match afterEmbeddingName? text with
    | some rest => readEmbedded whole rest
    | none => do
      let (members, rest) ← readMembers value text
      return (ofMembers members, rest)

/-! ### Whole texts -/

/-- Nothing but blanks may follow the value that a whole text holds. -/
def finish {α : Type} : Except ReadError (α × List Char) → Except ReadError α
  | .error e => .error e
  | .ok (value, rest) => if skipBlanks rest = [] then .ok value else .error .malformed

/-- The value that a whole text holds. An embedded text is shorter than the text around it, so the
length of a text bounds how deep embeddings go. -/
def readWhole (embeddings : Nat) (text : List Char) : Except ReadError Json :=
  match embeddings with
  | 0 => .error .malformed
  | embeddings + 1 =>
    finish (readValueWith (readObject (readWhole embeddings)) depthLimit text)

/-- A value of any kind. -/
def readValue (depth : Nat) : Reader Json := fun text =>
  readValueWith (readObject (readWhole text.length)) depth text

def parse (text : String) : Except ReadError Json :=
  finish (readValue depthLimit (bytesOf text))

end TenantConsole.Json
