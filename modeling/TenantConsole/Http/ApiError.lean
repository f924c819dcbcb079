import TenantConsole.Catalog.Assembly
import TenantConsole.Http.Message
import TenantConsole.Service.Error
import TenantConsole.Settings.Database
import TenantConsole.Token.Jwt

/-!
# What a client learns of an error

Every error of the console becomes one of eight kinds, each with a status and a code. The kinds for
faults of the console itself carry a fixed text, so nothing about its inside reaches a client.
-/

namespace TenantConsole

namespace ApiError

inductive Kind where
  | badRequest
  | validation
  | unauthorized
  | forbidden
  | notFound
  | conflict
  | fault
  | unavailable
  deriving DecidableEq

def Kind.status : Kind → Nat
  | badRequest => 400
  | validation => 400
  | unauthorized => 401
  | forbidden => 403
  | notFound => 404
  | conflict => 409
  | fault => 500
  | unavailable => 503

def Kind.code : Kind → String
  | badRequest => "BAD_REQUEST"
  | validation => "VALIDATION_ERROR"
  | unauthorized => "UNAUTHORIZED"
  | forbidden => "FORBIDDEN"
  | notFound => "NOT_FOUND"
  | conflict => "CONFLICT"
  | fault => "INTERNAL_SERVER_ERROR"
  | unavailable => "SERVICE_UNAVAILABLE"

end ApiError

structure ApiError where
  kind : ApiError.Kind
  message : String
  deriving DecidableEq

namespace ApiError

def toJson (error : ApiError) : Json :=
  .obj [("success", .bool false), ("error", .str error.message),
    ("error_code", .str error.kind.code)]

def response (error : ApiError) : Response := ⟨error.kind.status, .json error.toJson⟩

/-! ### From the errors of the console -/

def ofStore : StoreError → ApiError
  | .notFound kind id => ⟨.notFound, (StoreError.notFound kind id).message⟩
  | .unauthorized reason => ⟨.unauthorized, reason⟩
  | .invalid reason => ⟨.validation, reason⟩
  | .conflict kind id => ⟨.conflict, (StoreError.conflict kind id).message⟩
  | .unavailable catalog _ => ⟨.unavailable, s!"{catalog} temporarily unavailable"⟩
  | .unsupported reason => ⟨.badRequest, reason⟩
  | .backend _ => ⟨.fault, "An error occurred while processing your request"⟩

def ofGuard : GuardError → ApiError
  | .unauthorized reason => ⟨.unauthorized, reason⟩
  | .selfDemotion => ⟨.unauthorized, GuardError.selfDemotion.message⟩
  | .store error => ofStore error
  | .unknownRole name => ⟨.validation, (GuardError.unknownRole name).message⟩
  | .missingOrganization => ⟨.validation, GuardError.missingOrganization.message⟩
  | .duplicateOrganization organization =>
    ⟨.validation, (GuardError.duplicateOrganization organization).message⟩
  | .unknownOrganization organization =>
    ⟨.validation, (GuardError.unknownOrganization organization).message⟩

def ofService : ServiceError → ApiError
  | .store error => ofStore error
  | .guard error => ofGuard error
  | .forbidden reason => ⟨.forbidden, reason⟩
  | .invalid reason => ⟨.validation, reason⟩

def ofToken : TokenError → ApiError
  | .invalid reason => ⟨.unauthorized, reason⟩
  | .noSecret | .generation _ => ⟨.fault, "Authentication is misconfigured"⟩

def ofDatabase : DatabaseError → ApiError
  | .connection _ => ⟨.unavailable, "Database temporarily unavailable"⟩
  | .invalidUrl | .invalidName _ | .serialization _ => ⟨.fault, "Database error occurred"⟩

def ofAssembly (_ : AssemblyError) : ApiError := ⟨.fault, "Server is misconfigured"⟩

end ApiError

end TenantConsole
