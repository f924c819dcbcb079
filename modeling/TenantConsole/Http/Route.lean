import TenantConsole.Http.Message

/-!
# Routes

Which paths the console answers, and by which methods. A path is matched as it is written, segment
by segment; where an id belongs, any segment stands that is not empty. Which server a target names
makes no difference.
-/

namespace TenantConsole

inductive Route where
  | health
  | me
  | organizations
  /-- The id is as it was sent, still coded. -/
  | organization (id : String)
  | users
  | user (id : String)
  | mappings
  | sources
  | servers
  | dashboards
  | layouts
  | protoboards
  | templates
  deriving DecidableEq

namespace Route

/-- Whether a character may stand in the scheme of a target. -/
def isSchemeChar (c : Char) : Bool := c.isAlphanum || c = '+' || c = '-' || c = '.'

/-- Whether a character ends the part of a target that names the server. -/
def endsAuthority (c : Char) : Bool := c = '/' || c = '?' || c = '#'

/-- The path and what follows it; a target may name the server in front of them. -/
def pathOnward (target : List Char) : List Char :=
  match target.dropWhile isSchemeChar with
  | ':' :: '/' :: '/' :: rest => rest.dropWhile fun c => !endsAuthority c
  | _ => target

/-- The segments of a path, the query left out. -/
def segments (target : String) : List String :=
  (((pathOnward target.toList).takeWhile fun c => c ≠ '?' ∧ c ≠ '#').splitOn '/').map String.ofList

def ofTarget? (target : String) : Option Route :=
  match segments target with
  | ["", "health"] => some health
  | ["", "api", "me"] => some me
  | ["", "api", "organizations"] => some organizations
  | ["", "api", "organizations", id] => if id = "" then none else some (organization id)
  | ["", "api", "users"] => some users
  | ["", "api", "users", id] => if id = "" then none else some (user id)
  | ["", "api", "mappings"] => some mappings
  | ["", "api", "sources"] => some sources
  | ["", "api", "kapacitors"] => some servers
  | ["", "api", "dashboards"] => some dashboards
  | ["", "api", "layouts"] => some layouts
  | ["", "api", "protoboards"] => some protoboards
  | ["", "api", "config-templates"] => some templates
  | _ => none

def methods : Route → List Method
  | organizations | users | mappings => [.get, .post]
  | organization _ => [.delete]
  | user _ => [.patch]
  | health | me | sources | servers | dashboards | layouts | protoboards | templates => [.get]

/-- Whether a route takes a method; a request for the head alone goes where its twin goes. -/
def takes (route : Route) (method : Method) : Bool :=
  route.methods.contains (if method = .head then .get else method)

end Route

end TenantConsole
