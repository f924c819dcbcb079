import TenantConsole.Access.RoleGuard

/-!
# Service errors

Why a service refuses a request.
-/

namespace TenantConsole

inductive ServiceError where
  | store (error : StoreError)
  | guard (error : GuardError)
  | forbidden (reason : String)
  | invalid (reason : String)
  deriving DecidableEq

def ServiceError.message : ServiceError → String
  | store error => error.message
  | guard error => error.message
  | forbidden reason => s!"forbidden: {reason}"
  | invalid reason => s!"invalid request: {reason}"

end TenantConsole
