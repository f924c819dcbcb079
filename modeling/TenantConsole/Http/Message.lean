import TenantConsole.Json.Printer

/-!
# Requests and responses

What a client sends and what it gets back.
-/

namespace TenantConsole

inductive Method where
  | get
  | head
  | post
  | patch
  | delete
  | options
  | other
  deriving DecidableEq

def Method.ofText (text : String) : Method :=
  match text with
  | "GET" => get
  | "HEAD" => head
  | "POST" => post
  | "PATCH" => patch
  | "DELETE" => delete
  | "OPTIONS" => options
  | _ => other

/-- When a request arrives. -/
structure Moment where
  /-- The seconds since the start of 1970. -/
  seconds : Int
  /-- The time as a text with date and zone. -/
  text : String

structure Request where
  method : Method
  /-- The path with the query, as it was sent. -/
  target : String
  headers : List (String × String) := []
  body : String := ""
  moment : Moment

namespace Request

/-- The first header of a name, whose case does not count. -/
def header? (request : Request) (name : String) : Option String :=
  (request.headers.find? fun (n, _) => n.toLower = name).map Prod.snd

end Request

inductive Body where
  | empty
  | json (value : Json)
  | text (content : String)

structure Response where
  status : Nat
  body : Body := .empty

namespace Response

def noContent : Nat := 204

/-- Data in the envelope of a success; a response without content has no envelope either. -/
def data (status : Nat) (value : Json) : Response :=
  if status = noContent then ⟨status, .empty⟩
  else ⟨status, .json (.obj [("success", .bool true), ("data", value)])⟩

def success (value : Json) : Response := data 200 value

def created (value : Json) : Response := data 201 value

/-- What is answered in place of data that cannot be written. -/
def unwritable : Response :=
  ⟨500, .json <|
    .obj [("success", .bool false), ("error", .str "Failed to serialize response data")]⟩

/-- The response without its body. -/
def bare (response : Response) : Response := { response with body := .empty }

end Response

end TenantConsole
