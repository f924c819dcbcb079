/-!
# JSON values

A value as the console stores, receives and sends it. Whole numbers keep their exact value, numbers
with a fraction or an exponent are floats. Objects are lists of named members: the ones that come
from reading are sorted by name and hold each name once (`Json.ofMembers`).
-/

namespace TenantConsole

inductive Json where
  | null
  | bool (value : Bool)
  | int (value : Int)
  | float (value : Float)
  | str (text : String)
  | arr (items : List Json)
  | obj (members : List (String × Json))
  deriving Inhabited

namespace Json

/-- A member takes its place by the order of names; one of the same name is replaced. -/
def insertMember (name : String) (value : Json) : List (String × Json) → List (String × Json)
  | [] => [(name, value)]
  | (n, v) :: rest =>
    if name < n then (name, value) :: (n, v) :: rest
    else if name = n then (name, value) :: rest
    else (n, v) :: insertMember name value rest

/-- The object with these members, sorted by name; of members with one name the last counts. -/
def ofMembers (members : List (String × Json)) : Json :=
  .obj (members.foldl (fun sorted (name, value) => insertMember name value sorted) [])

def ofText? : Option String → Json
  | some text => .str text
  | none => .null

/-- The member of an object with this name. -/
def member? (name : String) : Json → Option Json
  | .obj members => (members.find? fun (n, _) => n = name).map Prod.snd
  | _ => none

/-! ### Views

A view answers with the empty value of its kind where the value is of another kind. -/

def asText : Json → String
  | .str text => text
  | _ => ""

def asFlag : Json → Bool
  | .bool value => value
  | _ => false

def asInt : Json → Int
  | .int value => value
  | _ => 0

def asItems : Json → List Json
  | .arr items => items
  | _ => []

/-- The item at a place of a list. -/
def item (index : Nat) (value : Json) : Json :=
  value.asItems.getD index .null

/-- The item at a place of a list, unless it is null. -/
def item? (index : Nat) (value : Json) : Option Json :=
  match value.item index with
  | .null => none
  | found => some found

end Json

end TenantConsole
