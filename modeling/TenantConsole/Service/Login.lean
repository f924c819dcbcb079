import TenantConsole.Service.Roles

/-!
# Logins

The user behind a session. A principal that logs in for the first time is stored as a new user if a
mapping admits it or if it is a super admin; a known user may be made a super admin by its groups.
-/

namespace TenantConsole

open Collection

namespace Login

/-- The context of a user that asks for an organization, or for none and so for its first one. Super
admins may act in any organization, others where they have a role. -/
def contextFor (user : User) (requested : Option String) : Except ServiceError Context :=
  match requested.filter (· ≠ "") with
  | none => .ok (.forUser user (user.roles.head?.map Role.organization))
  | some organization =>
    if user.superAdmin ∨ user.hasRoleIn organization then .ok (.forUser user (some organization))
    else
      .error (.forbidden s!"user '{user.name}' is not a member of organization '{organization}'")

/-- Whether every new user becomes a super admin; without a configuration none does. -/
def superAdminNewUsers : StoreScript Bool := do
  match ← config.get? .server Config.soleId with
  | some config => return config.superAdminNewUsers
  | none => return ({} : Config).superAdminNewUsers

def defaultOrganization : StoreScript Organization :=
  .look fun state =>
    (organizations.seen .server state).defaultOrganization state.world.disk

/-- Stores the user of a first login. -/
def createUser (adminGroup : Option String) (principal : Principal) : StoreScript User := do
  let granted ← Roles.ofPrincipal principal
  let superAdmin ←
    if principal.isSuperAdmin adminGroup then pure true else superAdminNewUsers
  if granted = [] ∧ ¬ superAdmin then
    Script.fail (.unauthorized s!"no organization mapping admits '{principal.subject}'")
  else
    let roles ←
      if granted = [] then do
        let organization ← defaultOrganization
        pure [⟨organization.id, organization.defaultRole⟩]
      else pure granted
    users.add .server
      { name := principal.subject, provider := principal.issuer, scheme := sessionScheme,
        superAdmin, roles }

/-- The user of a known identity, made a super admin if its groups say so. -/
def promote (adminGroup : Option String) (principal : Principal) (user : User) :
    StoreScript User := do
  if ¬ user.superAdmin ∧ principal.isSuperAdmin adminGroup then
    let promoted := { user with superAdmin := true }
    users.update .server promoted
    return promoted
  else return user

/-- The stored user of a principal. -/
def userOf (adminGroup : Option String) (principal : Principal) : StoreScript User := do
  match ← users.find? .server (Scoping.identityQuery principal.identity) with
  | some user => promote adminGroup principal user
  | none => createUser adminGroup principal

/-- The user of a principal, and the context it acts in. -/
def provision (adminGroup : Option String) (principal : Principal) :
    ServiceScript (User × Context) := do
  let user ← (userOf adminGroup principal).orFail .store
  let context ← .ofExcept (contextFor user (some principal.organization))
  return (user, context)

/-- The context of a session: that of its user, or none as long as there is no such user. -/
def contextOf (principal : Principal) : ServiceScript Context := do
  match ← (users.find? .server (Scoping.identityQuery principal.identity)).orFail .store with
  | some user => .ofExcept (contextFor user (some principal.organization))
  | none => return .anonymous

end Login

end TenantConsole
