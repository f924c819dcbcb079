import TenantConsole.Record.Role

/-!
# Users

A user is known outside the console by its identity: a name, the provider that vouches for it and
the scheme of the login. Its roles say in which organizations it may act.
-/

namespace TenantConsole

/-- The scheme of every session. -/
def sessionScheme : String := "oauth2"

structure Identity where
  name : String
  provider : String
  scheme : String
  deriving DecidableEq

structure User where
  id : String := ""
  name : String
  provider : String
  scheme : String
  superAdmin : Bool := false
  roles : List Role := []
  deriving DecidableEq

namespace User

def slots : List Format.Slot :=
  [.optionalText "id", .text "name", .text "provider", .text "scheme",
   .optionalFlag "super_admin", .optionalList "roles" Role.slotsFormat]

def ofSlots (v : Json) : User :=
  { id := (v.item 0).asText, name := (v.item 1).asText, provider := (v.item 2).asText,
    scheme := (v.item 3).asText, superAdmin := (v.item 4).asFlag,
    roles := (v.item 5).asItems.map Role.ofSlots }

def members (user : User) : List (String × Json) :=
  [("id", .str user.id), ("name", .str user.name), ("provider", .str user.provider),
   ("scheme", .str user.scheme), ("super_admin", .bool user.superAdmin),
   ("roles", .arr (user.roles.map Role.toJson))]

instance : Record User where
  kind := "user"
  id := User.id
  withId newId user := { user with id := newId }
  toJson user := .obj user.members
  format := (Format.record "User" slots).map ofSlots
  id_withId _ _ _ := rfl

def identity (user : User) : Identity := ⟨user.name, user.provider, user.scheme⟩

/-- The role held in an organization: the first one listed for it. -/
def roleIn? (user : User) (organization : String) : Option Role :=
  user.roles.find? fun role => role.organization = organization

def hasRoleIn (user : User) (organization : String) : Bool := (user.roleIn? organization).isSome

/-- The roles held elsewhere. -/
def rolesOutside (user : User) (organization : String) : List Role :=
  user.roles.filter fun role => role.organization ≠ organization

/-- The user without its membership in an organization. -/
def leaving (user : User) (organization : String) : User :=
  { user with roles := user.rolesOutside organization }

/-- The user with this role as its only one in the role's organization, listed last. -/
def holding (user : User) (role : Role) : User :=
  { user with roles := user.rolesOutside role.organization ++ [role] }

/-- The user as its fellow members in an organization see it: with that one role. -/
def seenIn? (user : User) (organization : String) : Option User :=
  (user.roleIn? organization).map fun role => { user with roles := [role] }

end User

end TenantConsole
