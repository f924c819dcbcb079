import TenantConsole.Access.Context
import TenantConsole.Record.Organization
import TenantConsole.Store.Error

/-!
# Role guard

Which roles and which super admin flag a caller may submit for a user. The guard refuses before any
organization is looked up, so a refusal does not tell whether a foreign organization exists.
-/

namespace TenantConsole

inductive GuardError where
  | unknownRole (name : String)
  | missingOrganization
  | duplicateOrganization (organization : String)
  | unknownOrganization (organization : String)
  | unauthorized (reason : String)
  | selfDemotion
  | store (error : StoreError)
  deriving DecidableEq

def GuardError.message : GuardError → String
  | unknownRole name => RoleName.unknownMessage name
  | missingOrganization => "role must name an organization"
  | duplicateOrganization organization => s!"duplicate organization '{organization}' in role list"
  | unknownOrganization organization => s!"organization '{organization}' does not exist"
  | unauthorized reason => s!"unauthorized: {reason}"
  | selfDemotion => "users cannot remove their own super admin status"
  | store error => error.message

namespace RoleGuard

/-- Every request has to name an organization, and no two the same one. -/
def checkOrganizations (seen : List String) : List RoleRequest → Except GuardError Unit
  | [] => .ok ()
  | request :: rest =>
    if request.organization = "" then .error .missingOrganization
    else if request.organization ∈ seen then .error (.duplicateOrganization request.organization)
    else checkOrganizations (request.organization :: seen) rest

/-- The roles that the requests name. -/
def named : List RoleRequest → Except GuardError (List Role)
  | [] => .ok []
  | request :: rest =>
    match RoleName.ofText? request.name with
    | none => .error (.unknownRole request.name)
    | some name => (named rest).map (⟨request.organization, name⟩ :: ·)

def isSelf (caller : Context) (target : Option User) : Bool :=
  match caller.user, target with
  | some me, some them => me.id = them.id
  | _, _ => false

/-- Only super admins change the flag, and none its own. -/
def checkFlag (caller : Context) (target : Option User) (superAdmin : Bool) :
    Except GuardError Unit :=
  let current := match target with
    | some user => user.superAdmin
    | none => false
  if superAdmin == current then .ok ()
  else if !caller.isSuperAdmin then
    .error (.unauthorized "only super admins may change super admin status")
  else if isSelf caller target && !superAdmin then .error .selfDemotion
  else .ok ()

def isAdminIn (caller : Context) (organization : String) : Bool :=
  match caller.user.bind (·.roleIn? organization) with
  | some role => role.name = .admin
  | none => false

/-- Roles are assigned by the console, by super admins, and by the admins of the organization that
they act in, which then is the only one. -/
def checkAuthority (caller : Context) (roles : List Role) : Except GuardError Unit :=
  if caller.isServerCall ∨ caller.isSuperAdmin ∨ roles = [] then .ok ()
  else
    let current := caller.organization.getD ""
    match roles.find? fun role => role.organization ≠ current with
    | some role =>
      .error <| .unauthorized <|
        s!"cannot assign roles in organization '{role.organization}' "
          ++ s!"from organization '{current}'"
    | none =>
      if isAdminIn caller current then .ok ()
      else
        .error (.unauthorized s!"only admins of organization '{current}' may assign its roles")

/-- The submitted roles, if the caller may submit them. -/
def check (caller : Context) (target : Option User) (requests : List RoleRequest)
    (superAdmin : Bool) : Except GuardError (List Role) := do
  checkOrganizations [] requests
  let roles ← named requests
  checkFlag caller target superAdmin
  checkAuthority caller roles
  return roles

/-- A role with the wildcard resolved to the default role of its organization. -/
def resolved (role : Role) (organization : Organization) : Role :=
  ⟨organization.id, if role.name = .wildcard then organization.defaultRole else role.name⟩

end RoleGuard

end TenantConsole
