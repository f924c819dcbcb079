import TenantConsole.Http.ApiError
import TenantConsole.Http.MediaType
import TenantConsole.Settings.Basic
import TenantConsole.Text.Blank
import TenantConsole.Url.Percent

/-!
# Taking a request in

What is read out of a request before it is acted on: the session, the id in the path, and the record
in the body. Each is refused with a response of its own.
-/

namespace TenantConsole.Intake

/-! ### The session -/

def bearer : List Char := "Bearer ".toList

/-- Whether a character may stand in a header. -/
def isVisible (c : Char) : Bool := c = '\t' || (32 ≤ c.toNat && c.toNat < 127)

/-- The token in the header of a request. -/
def token (request : Request) : Except ApiError String :=
  match request.header? "authorization" with
  | none => .error ⟨.unauthorized, "Missing Authorization header"⟩
  | some value =>
    if ¬ value.toList.all isVisible then
      .error ⟨.unauthorized, "Invalid Authorization header format"⟩
    else if ¬ bearer.isPrefixOf value.toList then
      .error ⟨.unauthorized, "Authorization header must use Bearer token format"⟩
    else
      match Text.trimmed? (String.ofList (value.toList.drop bearer.length)) with
      | some token => .ok token
      | none => .error ⟨.unauthorized, "Empty JWT token"⟩

/-- Who the session of a request belongs to. -/
def principal (security : SecuritySettings) (request : Request) : Except ApiError Principal := do
  let token ← token request
  let claims ← (Jwt.decode token security.secret request.moment.seconds).mapError ApiError.ofToken
  return claims.principal

/-! ### The path -/

/-- The id that a segment of the path stands for. -/
def pathId (segment : String) : Except Response String :=
  match Percent.decode? segment with
  | some id => .ok id
  | none => .error ⟨400, .text "Invalid URL: Invalid UTF-8 in `id`"⟩

/-! ### The body -/

/-- Whether a request says that its body is JSON. -/
def sendsJson (request : Request) : Bool :=
  match (request.header? "content-type").bind MediaType.ofText? with
  | some mediaType => mediaType.isJson
  | none => false

/-- How many bytes a body may have: two mebibytes. -/
def bodyLimit : Nat := 2 * 1024 * 1024

/-- The record in the body of a request. A body that is not said to be JSON is not taken in at all,
and one that is too long is not read. -/
def body {α : Type} (format : Format α) (request : Request) : Except Response α :=
  if ¬ sendsJson request then
    .error ⟨415, .text "Expected request with `Content-Type: application/json`"⟩
  else if bodyLimit < request.body.utf8ByteSize then
    .error ⟨413, .text "Failed to buffer the request body"⟩
  else
    match format.readFront request.body with
    | .ok value => .ok value
    | .error .unfit =>
      .error ⟨422, .text "Failed to deserialize the JSON body into the target type"⟩
    | .error _ => .error ⟨400, .text "Failed to parse the request body as JSON"⟩

end TenantConsole.Intake
