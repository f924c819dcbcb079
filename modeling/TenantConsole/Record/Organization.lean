import TenantConsole.Record.Role

/-!
# Organizations

The tenants of the console. Every deployment starts with a default organization.
-/

namespace TenantConsole

structure Organization where
  id : String := ""
  name : String
  defaultRole : RoleName := .member
  deriving DecidableEq

namespace Organization

def slots : List Format.Slot :=
  [.optionalText "id", .text "name",
   ⟨"default_role", RoleName.format, .default (.str RoleName.member.text)⟩]

def ofSlots (v : Json) : Organization :=
  { id := (v.item 0).asText, name := (v.item 1).asText, defaultRole := .ofText (v.item 2).asText }

def toJson (organization : Organization) : Json :=
  .obj [("id", .str organization.id), ("name", .str organization.name),
    ("default_role", .str organization.defaultRole.text)]

instance : Record Organization where
  kind := "organization"
  id := Organization.id
  withId newId organization := { organization with id := newId }
  toJson := toJson
  format := (Format.record "Organization" slots).map ofSlots
  id_withId _ _ _ := rfl

def defaultId : String := "default"

/-- The organization that every deployment starts with. -/
def initial : Organization := { id := defaultId, name := "Default", defaultRole := .member }

def isDefault (organization : Organization) : Bool := organization.id = defaultId

end Organization

end TenantConsole
