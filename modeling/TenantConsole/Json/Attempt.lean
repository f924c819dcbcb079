import TenantConsole.Json.Parser

/-!
# Attempts

A value that is only looked at if it can be had. The brackets, names and commas around it are in
order; still a number may be beyond every float, a text may hold half of a surrogate pair or bytes
that spell no characters, and lists may nest too deep. An attempt then ends without a value, and
reading goes on where the attempt stopped: a list or an object that broke off in the middle is left
at its bracket, if that comes next.
-/

namespace TenantConsole.Json

/-- An attempt: the value, if there is one, and what is left of the text. -/
abbrev Attempt (α : Type) := List Char → Option α × List Char

/-! ### Numbers and texts -/

/-- The greatest exponent that is read to its end. -/
def exponentLimit : Nat := 0x7FFFFFFF

/-- The digits of an exponent that are left when it grows beyond the limit. -/
def unreadDigits (value : Nat) : List Char → List Char
  | [] => []
  | c :: rest =>
    let next := 10 * value + Text.digitValue c
    if exponentLimit < next then rest else unreadDigits next rest

/-- What stays unread of a numeral beyond every float. -/
def Numeral.unread (n : Numeral) : List Char :=
  match n.exponent with
  | some (_, digits) => unreadDigits 0 digits
  | none => []

def attemptNumber : Attempt Json := fun text =>
  match readNumeral text with
  | .error _ => (none, text)
  | .ok (numeral, rest) =>
    match numeral.value? with
    | some value => (some value, rest)
    | none => (none, numeral.unread ++ rest)

/-- The text whose opening quote has been taken. -/
def attemptText : Attempt String := fun text =>
  match readQuoted text with
  | .error stop => (none, stop.rest)
  | .ok (bytes, rest) => (textOf? bytes, rest)

/-! ### Lists and objects -/

/-- What is left of a list that broke off. -/
def leaveList (text : List Char) : List Char :=
  match skipBlanks text with
  | ']' :: rest => rest
  | ',' :: rest => skipBlanks rest
  | rest => rest

/-- What is left of an object that broke off. -/
def leaveObject (text : List Char) : List Char :=
  match skipBlanks text with
  | '}' :: rest => rest
  | rest => rest

/-- The items of a list after its opening bracket, or after an item and the comma behind it. -/
def attemptItems (item : Attempt Json) (fuel : Nat) (found : List Json) : Attempt (List Json) :=
  fun text =>
    match fuel, skipBlanks text with
    | fuel + 1, c :: rest =>
      if c = ']' then (some found, rest)
      else
        match item (c :: rest) with
        | (none, rest) => (none, leaveList rest)
        | (some value, rest) =>
          match skipBlanks rest with
          | ',' :: rest => attemptItems item fuel (found ++ [value]) rest
          | ']' :: rest => (some (found ++ [value]), rest)
          | rest => (none, rest)
    | _, rest => (none, rest)

/-- A member's name and the colon after it. -/
def attemptName : Attempt String := fun text =>
  match text with
  | '"' :: text =>
    match attemptText text with
    | (some name, rest) =>
      match readColon rest with
      | .ok rest => (some name, rest)
      | .error _ => (none, rest)
    | (none, rest) => (none, rest)
  | rest => (none, rest)

/-- The members of an object after its opening bracket, or after a member and the comma behind it.
-/
def attemptMembers (member : Attempt Json) (fuel : Nat) (found : List (String × Json)) :
    Attempt (List (String × Json)) := fun text =>
  match fuel, skipBlanks text with
  | fuel + 1, c :: rest =>
    if c = '}' then (some found, rest)
    else
      match attemptName (c :: rest) with
      | (none, rest) => (none, leaveObject rest)
      | (some name, rest) =>
        match member rest with
        | (none, rest) => (none, leaveObject rest)
        | (some value, rest) =>
          match skipBlanks rest with
          | ',' :: rest => attemptMembers member fuel (found ++ [(name, value)]) rest
          | '}' :: rest => (some (found ++ [(name, value)]), rest)
          | rest => (none, rest)
  | _, rest => (none, rest)

/-- A value of any kind; the members of an object stay as they stand. -/
def attemptValue (depth : Nat) : Attempt Json := fun text =>
  match skipBlanks text with
  | [] => (none, [])
  | c :: rest =>
    if c = '"' then
      let (text, rest) := attemptText rest
      (text.map Json.str, rest)
    else if c = '-' ∨ c.isDigit then attemptNumber (c :: rest)
    else if c = '[' then
      match depth with
      | 0 => (none, c :: rest)
      | depth + 1 =>
        let (items, rest) := attemptItems (attemptValue depth) rest.length [] rest
        (items.map Json.arr, rest)
    else if c = '{' then
      match depth with
      | 0 => (none, c :: rest)
      | depth + 1 =>
        let (members, rest) := attemptMembers (attemptValue depth) rest.length [] rest
        (members.map Json.obj, rest)
    else
      match readValueWith readPlainObject 0 (c :: rest) with
      | .ok (value, rest) => (some value, rest)
      | .error _ => (none, rest)

end TenantConsole.Json
