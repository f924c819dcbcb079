import TenantConsole.Service.Roles

/-!
# Creating and deleting organizations

Whoever creates an organization becomes its admin. Deleting one takes its roles from every user and
removes the mappings that lead to it.
-/

namespace TenantConsole

open Collection

namespace Organizations

/-- Makes the creator, if there is one, the first admin of an organization. -/
def enrolCreator (context : Context) (organization : Organization) : ServiceScript Unit := do
  match context.user with
  | none => return ()
  | some creator =>
    let _ ←
      (users.add (context.actingIn organization.id)
        { creator with roles := [⟨organization.id, .admin⟩] }).orFail .store
    return ()

def create (context : Context) (organization : Organization) : ServiceScript Organization := do
  if Text.isAllBlank organization.name then
    Script.fail (.invalid "organization name is required")
  else if organization.defaultRole = .wildcard then
    Script.fail (.invalid "an organization's default role cannot be '*'")
  else
    let created ← (organizations.add context organization).orFail .store
    enrolCreator context created
    return created

/-- Takes the roles in an organization from every user. -/
def stripRoles (id : String) : List User → ServiceScript Unit
  | [] => return ()
  | user :: rest => do
    if user.hasRoleIn id then (users.update .server (user.leaving id)).orFail .store
    stripRoles id rest

/-- Removes the mappings that lead to an organization. -/
def dropMappings (id : String) : List Mapping → ServiceScript Unit
  | [] => return ()
  | mapping :: rest => do
    if mapping.organization = id then (mappings.delete .server mapping.id).orFail .store
    dropMappings id rest

def delete (context : Context) (id : String) : ServiceScript Unit := do
  let organization ← (organizations.get context id).orFail .store
  if organization.isDefault then
    Script.fail (.invalid "the default organization cannot be deleted")
  else
    (organizations.delete context id).orFail .store
    stripRoles id (← (users.all .server).orFail .store)
    dropMappings id (← (mappings.all .server).orFail .store)

end Organizations

end TenantConsole
