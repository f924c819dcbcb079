import TenantConsole.Http.Intake
import TenantConsole.Http.Route
import TenantConsole.Service.Login
import TenantConsole.Service.Organizations
import TenantConsole.Service.Users

/-!
# The console

How a request is answered. All that stands under the programming interface needs a session, and the
session is checked before the method, the id and the body. The state that a request leaves is the
state that the next one meets.
-/

namespace TenantConsole

/-- A running console. -/
structure Console where
  security : SecuritySettings
  state : State

namespace Console

open Collection

/-- What a request does: it ends in a response, be it a success or a refusal. -/
abbrev Handler := Script State Response Response

def storeFailure (error : StoreError) : Response := (ApiError.ofStore error).response

def serviceFailure (error : ServiceError) : Response := (ApiError.ofService error).response

/-- All records that a context reaches on a collection. -/
def list {ρ : Type} [Record ρ] (collection : Collection ρ) (context : Context) : Handler := do
  let records ← (collection.all context).orFail storeFailure
  return .success (.arr (records.map Record.toJson))

/-! ### Handlers -/

/-- The user of the session, stored on its first visit. -/
def me (security : SecuritySettings) (principal : Principal) : Handler := do
  let (user, context) ←
    (Login.provision security.superAdminGroup principal).orFail serviceFailure
  return .success <|
    .obj (user.members ++ [("current_organization", .ofText? context.organization)])

def createOrganization (context : Context) (request : Request) : Handler := do
  let organization ← .ofExcept (Intake.body (Record.format (ρ := Organization)) request)
  let created ← (Organizations.create context organization).orFail serviceFailure
  return .created created.toJson

def deleteOrganization (context : Context) (segment : String) : Handler := do
  let id ← .ofExcept (Intake.pathId segment)
  (Organizations.delete context id).orFail serviceFailure
  return .data Response.noContent .null

def createUser (context : Context) (request : Request) : Handler := do
  let submission ← .ofExcept (Intake.body UserSubmission.format request)
  let created ← (Users.create context submission).orFail serviceFailure
  return .created (Record.toJson created)

def updateUser (context : Context) (segment : String) (request : Request) : Handler := do
  let id ← .ofExcept (Intake.pathId segment)
  let patch ← .ofExcept (Intake.body UserPatch.format request)
  let updated ← (Users.update context id patch).orFail serviceFailure
  return .success (Record.toJson updated)

/-- Adds a mapping to an organization that the caller can see. -/
def createMapping (context : Context) (request : Request) : Handler := do
  let mapping ← .ofExcept (Intake.body (Record.format (ρ := Mapping)) request)
  if mapping.organization = "" then
    Script.fail (ApiError.response ⟨.validation, "mapping must name an organization"⟩)
  else
    let _ ← (organizations.get context mapping.organization).orFail storeFailure
    let created ← (mappings.add context mapping).orFail storeFailure
    return .created created.toJson

/-- Answers for a route that takes the method of the request. -/
def handle (security : SecuritySettings) (principal : Principal) (context : Context)
    (request : Request) : Route → Handler
  | .me => me security principal
  | .organizations =>
    if request.method = .post then createOrganization context request
    else list organizations context
  | .organization id => deleteOrganization context id
  | .users => if request.method = .post then createUser context request else list users context
  | .user id => updateUser context id request
  | .mappings =>
    if request.method = .post then createMapping context request else list mappings context
  | .sources => list sources context
  | .servers => list servers context
  | .dashboards => list dashboards context
  | .layouts => list layouts context
  | .protoboards => list protoboards context
  | .templates => list templates context
  | .health => .fail ⟨404, .empty⟩

/-- Answers a request for a route that needs a session. -/
def serve (security : SecuritySettings) (request : Request) (route : Route) : Handler := do
  let principal ← .ofExcept ((Intake.principal security request).mapError ApiError.response)
  let context ← (Login.contextOf principal).orFail serviceFailure
  if route.takes request.method then handle security principal context request route
  else .fail ⟨405, .empty⟩

/-- That the console is alive, when, and where its data lies. -/
def health (moment : Moment) : Response :=
  .success <|
    .obj [("status", .str "ok"), ("timestamp", .str moment.text), ("database", .str "memory")]

/-- The response with its body, whether or not the client wants to see it. -/
def answer (console : Console) (request : Request) : Response × Console :=
  if request.method = .options then (⟨200, .empty⟩, console)
  else
    match Route.ofTarget? request.target with
    | none => (⟨404, .empty⟩, console)
    | some .health =>
      (if Route.health.takes request.method then health request.moment else ⟨405, .empty⟩, console)
    | some route =>
      let (result, state) := (serve console.security request route).run console.state
      let response := match result with
        | .ok response => response
        | .error response => response
      (response, { console with state })

/-- Answers one request. -/
def respond (console : Console) (request : Request) : Response × Console :=
  let (response, console) := console.answer request
  (if request.method = .head then response.bare else response, console)

/-- Answers one request after another. -/
def respondAll (console : Console) : List Request → List Response × Console
  | [] => ([], console)
  | request :: rest =>
    let (response, console) := console.respond request
    let (responses, console) := console.respondAll rest
    (response :: responses, console)

/-- Stores the records that every deployment needs: the default organization and a configuration. -/
def startUp (console : Console) :
    Except StoreError Organization × Except StoreError Config × Console :=
  let (organization, state) := organizations.change .server console.state fun store world =>
    store.ensure Organization.initial world
  let (config, state) := config.change .server state fun store world => store.ensure {} world
  (organization, config, { console with state })

end Console

end TenantConsole
