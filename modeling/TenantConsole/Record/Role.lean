import TenantConsole.Record.Basic

/-!
# Roles

A role names an organization and what its holder may do there. The wildcard `*` stands for the
default role of an organization: it can be asked for, and it is resolved before a user is stored.
-/

namespace TenantConsole

inductive RoleName where
  | member
  | viewer
  | editor
  | admin
  | wildcard
  deriving DecidableEq

namespace RoleName

def all : List RoleName := [member, viewer, editor, admin, wildcard]

def text : RoleName → String
  | member => "member"
  | viewer => "viewer"
  | editor => "editor"
  | admin => "admin"
  | wildcard => "*"

def ofText? (text : String) : Option RoleName := all.find? fun name => name.text = text

theorem ofText?_text (name : RoleName) : ofText? name.text = some name := by
  cases name <;> decide

theorem ofText?_eq_some_iff {text : String} {name : RoleName} :
    ofText? text = some name ↔ name.text = text := by
  constructor
  · intro h
    simpa using List.find?_some h
  · rintro rfl
    exact ofText?_text name

/-- The name of a text that is one of the names; any other text is read as a plain member. -/
def ofText (text : String) : RoleName := (ofText? text).getD member

/-- The refusal of a text that is none of the names. -/
def unknownMessage (text : String) : String :=
  s!"unknown role {text}. Valid roles are 'member', 'viewer', 'editor', 'admin', and '*'"

def format : Format Json := .oneOf (all.map RoleName.text)

end RoleName

structure Role where
  organization : String
  name : RoleName
  deriving DecidableEq

namespace Role

def ofSlots (v : Json) : Role := ⟨(v.item 0).asText, .ofText (v.item 1).asText⟩

def slotsFormat : Format Json :=
  .record "Role" [.text "organization", ⟨"name", RoleName.format, .refused⟩]

def format : Format Role := slotsFormat.map ofSlots

def toJson (role : Role) : Json :=
  .obj [("organization", .str role.organization), ("name", .str role.name.text)]

end Role

/-- A role as a client submits it: nothing about it has been checked. -/
structure RoleRequest where
  organization : String
  name : String
  deriving DecidableEq

namespace RoleRequest

def ofSlots (v : Json) : RoleRequest := ⟨(v.item 0).asText, (v.item 1).asText⟩

def slotsFormat : Format Json := .record "RoleRequest" [.optionalText "organization", .text "name"]

def format : Format RoleRequest := slotsFormat.map ofSlots

def toJson (request : RoleRequest) : Json :=
  .obj [("organization", .str request.organization), ("name", .str request.name)]

/-- The request for a role that is held. -/
def ofRole (role : Role) : RoleRequest := ⟨role.organization, role.name.text⟩

end RoleRequest

end TenantConsole
