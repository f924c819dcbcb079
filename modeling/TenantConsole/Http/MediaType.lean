/-!
# Media types

What a client says its body is: a type and a format, which may end in a suffix for the format it is
written in, and parameters. The names are compared without regard to case. What breaks the grammar
names no media type.
-/

namespace TenantConsole

structure MediaType where
  type : String
  /-- The format without its suffix. -/
  format : String
  suffix : Option String
  deriving DecidableEq

namespace MediaType

/-- The characters that names are made of. -/
def isTokenChar (c : Char) : Bool := c.isAlphanum || "!#$%&'*+-.^_`|~".toList.contains c

/-- The format and the suffix: the last plus sign parts them, unless nothing stands before it. -/
def splitSuffix (name : List Char) : String × Option String :=
  let reversed := name.reverse
  match reversed.dropWhile (· ≠ '+') with
  | [] => (String.ofList name, none)
  | [_] => (String.ofList name, none)
  | _ :: before =>
    (String.ofList before.reverse,
      some (String.ofList (reversed.takeWhile (· ≠ '+')).reverse))

/-- The characters that may stand between quotes. -/
def isQuotable (c : Char) : Bool := 32 ≤ c.toNat && c.toNat < 127

/-- What follows a quoted value: the end, or the next parameter after a semicolon. -/
def afterQuote (text : List Char) : Option (List Char) :=
  match text.dropWhile (· = ' ') with
  | [] => some []
  | ';' :: rest => some rest
  | _ => none

/-- What follows a value after its opening quote. No value is empty, so a quote right after that one
is the first character of the value. -/
def afterQuotable : List Char → Option (List Char)
  | [] => none
  | first :: text =>
    let content := text.takeWhile (· ≠ '"')
    match text.dropWhile (· ≠ '"') with
    | [] => none
    | _ :: rest => if (first :: content).all isQuotable then afterQuote rest else none

/-- What follows the value of a parameter. A value without quotes may be empty at the very end. -/
def afterValue (text : List Char) : Option (List Char) :=
  match text with
  | '"' :: rest => afterQuotable rest
  | text =>
    match text.dropWhile isTokenChar with
    | [] => some []
    | ';' :: rest => if text.takeWhile isTokenChar = [] then none else some rest
    | _ => none

/-- Whether parameters follow the rules; `fuel` is at least the length of the text. -/
def areParameters (fuel : Nat) (text : List Char) : Bool :=
  match fuel, text.dropWhile (· = ' ') with
  | _, [] => true
  | 0, _ => false
  | fuel + 1, text =>
    match text.takeWhile isTokenChar, text.dropWhile isTokenChar with
    | _ :: _, '=' :: value =>
      match afterValue value with
      | some rest => areParameters fuel rest
      | none => false
    | _, _ => false

def ofText? (text : String) : Option MediaType :=
  let lower := text.toList.map Char.toLower
  match lower.takeWhile isTokenChar, lower.dropWhile isTokenChar with
  | kind :: kinds, '/' :: rest =>
    let (format, suffix) := splitSuffix (rest.takeWhile isTokenChar)
    let found : MediaType := ⟨String.ofList (kind :: kinds), format, suffix⟩
    match rest.dropWhile isTokenChar with
    | [] => some found
    | ';' :: parameters =>
      if format ≠ "" ∧ areParameters parameters.length parameters then some found else none
    | _ => none
  | _, _ => none

/-- Whether a body of this type is JSON, or a format written in JSON. -/
def isJson (mediaType : MediaType) : Bool :=
  mediaType.type = "application"
    && (mediaType.format = "json" || mediaType.suffix = some "json")

end MediaType

end TenantConsole
