import TenantConsole.Access.Principal
import TenantConsole.Service.Call
import TenantConsole.Service.Error

/-!
# Roles and their organizations

Two ways to roles: the mappings that admit a principal, and the requests that a caller submits. Both
look the organizations up on behalf of the console, whoever the caller is.
-/

namespace TenantConsole

open Collection

abbrev ServiceScript (α : Type) := Script State ServiceError α

namespace Roles

/-- One role for every organization that the mappings admit a principal to, by the first of them
that applies. A mapping to an organization that does not exist is passed over. -/
def granted (principal : Principal) (seen : List String) : List Mapping → StoreScript (List Role)
  | [] => return []
  | mapping :: rest =>
    if mapping.organization ∈ seen ∨ ¬ mapping.applies principal then granted principal seen rest
    else do
      match ← organizations.get? .server mapping.organization with
      | none => granted principal seen rest
      | some organization =>
        let roles ← granted principal (organization.id :: seen) rest
        return ⟨organization.id, organization.defaultRole⟩ :: roles

/-- The roles that a principal is admitted with. -/
def ofPrincipal (principal : Principal) : StoreScript (List Role) := do
  granted principal [] (← mappings.all .server)

/-- Looks up the organizations of submitted roles and resolves the wildcards. -/
def resolve : List Role → Script State GuardError (List Role)
  | [] => return []
  | role :: rest => do
    match ← (organizations.get? .server role.organization).orFail .store with
    | none => .fail (.unknownOrganization role.organization)
    | some organization =>
      let roles ← resolve rest
      return RoleGuard.resolved role organization :: roles

/-- The roles to store for a submission. -/
def validate (caller : Context) (target : Option User) (requests : List RoleRequest)
    (superAdmin : Bool) : Script State GuardError (List Role) := do
  resolve (← .ofExcept (RoleGuard.check caller target requests superAdmin))

end Roles

end TenantConsole
