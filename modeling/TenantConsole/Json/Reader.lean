/-!
# Reading text

A reader takes a value off the front of a text and leaves the rest. A text is read byte by byte, and
a byte stands as the character of its number, so that brackets, digits and quotes are themselves;
what stands between quotes has to be UTF-8. A refusal says which kind it is: the text is no JSON, it
is JSON that does not fit what was asked for, or it ends too early. The first refusal in the order
of the text counts.
-/

namespace TenantConsole.Json

inductive ReadError where
  | malformed
  | unfit
  | truncated
  deriving DecidableEq, Repr

abbrev Reader (α : Type) := List Char → Except ReadError (α × List Char)

/-- The bytes of a character. -/
def bytesOfChar (c : Char) : List Char :=
  (String.utf8EncodeChar c).map fun byte => Char.ofNat byte.toNat

/-- The bytes of a text. -/
def bytesOf (text : String) : List Char := text.toList.flatMap bytesOfChar

/-- The text that bytes are, if they are one. -/
def textOf? (bytes : List Char) : Option String :=
  String.fromUTF8? ⟨(bytes.map fun byte => UInt8.ofNat byte.toNat).toArray⟩

def isBlank (c : Char) : Bool := c = ' ' || c = '\n' || c = '\t' || c = '\r'

def skipBlanks (text : List Char) : List Char := text.dropWhile isBlank

/-- The rest after a word that the text has to start with. -/
def expect (word : List Char) (text : List Char) : Except ReadError (List Char) :=
  match word, text with
  | [], text => .ok text
  | _ :: _, [] => .error .truncated
  | w :: word, c :: text => if c = w then expect word text else .error .malformed

/-- The rest after the colon that follows a member's name. -/
def readColon (text : List Char) : Except ReadError (List Char) :=
  expect [':'] (skipBlanks text)

/-- Reads entries parted by commas up to the closing bracket; every entry adds to what the entries
before it left. Each entry takes at least one character, so the length of the text bounds their
number. -/
def readEntries {σ : Type} (close : Char) (entry : σ → Reader σ) :
    (fuel : Nat) → (started : Bool) → σ → Reader σ
  | 0, _, _, _ => .error .truncated
  | fuel + 1, started, found, text =>
    match skipBlanks text with
    | [] => .error .truncated
    | c :: rest =>
      if c = close then .ok (found, rest)
      else if started then
        if c = ',' then
          match entry found (skipBlanks rest) with
          | .error e => .error e
          | .ok (found, rest) => readEntries close entry fuel true found rest
        else .error .malformed
      else
        match entry found (c :: rest) with
        | .error e => .error e
        | .ok (found, rest) => readEntries close entry fuel true found rest

/-- The items of a list after its opening bracket. -/
def readItems {α : Type} (item : Reader α) : Reader (List α) := fun text =>
  let entry (found : List α) : Reader (List α) := fun text =>
    match item text with
    | .error e => .error e
    | .ok (value, rest) => .ok (found ++ [value], rest)
  readEntries ']' entry (text.length + 1) false [] text

end TenantConsole.Json
