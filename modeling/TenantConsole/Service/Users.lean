import TenantConsole.Service.Roles

/-!
# Changing users

Users that a client submits. Whatever changes a user's roles or its super admin flag passes the role
guard before anything is stored.
-/

namespace TenantConsole

open Collection

/-- A new user as a client submits it. -/
structure UserSubmission where
  name : String
  provider : String
  scheme : String
  superAdmin : Bool
  roles : List RoleRequest

namespace UserSubmission

def slots : List Format.Slot :=
  [.text "name", .text "provider", ⟨"scheme", Format.text, .default (.str sessionScheme)⟩,
   .optionalFlag "super_admin", .optionalList "roles" RoleRequest.slotsFormat]

def ofSlots (v : Json) : UserSubmission :=
  { name := (v.item 0).asText, provider := (v.item 1).asText, scheme := (v.item 2).asText,
    superAdmin := (v.item 3).asFlag, roles := (v.item 4).asItems.map RoleRequest.ofSlots }

def format : Format UserSubmission := (Format.record "UserSubmission" slots).map ofSlots

def toJson (submission : UserSubmission) : Json :=
  .obj [("name", .str submission.name), ("provider", .str submission.provider),
    ("scheme", .str submission.scheme), ("super_admin", .bool submission.superAdmin),
    ("roles", .arr (submission.roles.map RoleRequest.toJson))]

def identity (submission : UserSubmission) : Identity :=
  ⟨submission.name, submission.provider, submission.scheme⟩

end UserSubmission

/-- Changes to a user; what is absent stays as it is. -/
structure UserPatch where
  roles : Option (List RoleRequest)
  superAdmin : Option Bool

namespace UserPatch

def slots : List Format.Slot :=
  [⟨"roles", .nullable (.list RoleRequest.slotsFormat), .null⟩,
   ⟨"super_admin", .nullable .flag, .null⟩]

def ofSlots (v : Json) : UserPatch :=
  { roles := (v.item? 0).map fun roles => roles.asItems.map RoleRequest.ofSlots
    superAdmin := (v.item? 1).map Json.asFlag }

def format : Format UserPatch := (Format.record "UserPatch" slots).map ofSlots

def toJson (patch : UserPatch) : Json :=
  .obj
    [("roles", match patch.roles with
      | some roles => .arr (roles.map RoleRequest.toJson)
      | none => .null),
     ("super_admin", match patch.superAdmin with
      | some superAdmin => .bool superAdmin
      | none => .null)]

end UserPatch

namespace Users

def create (context : Context) (submission : UserSubmission) : ServiceScript User := do
  if submission.name = "" ∨ submission.provider = "" then
    Script.fail (.invalid "name and provider are required")
  else
    let roles ←
      (Roles.validate context none submission.roles submission.superAdmin).orFail .guard
    match ← (users.find? context (Scoping.identityQuery submission.identity)).orFail .store with
    | some existing => .fail (.store (.taken User existing.id))
    | none =>
      (users.add context
        { name := submission.name, provider := submission.provider, scheme := submission.scheme,
          superAdmin := submission.superAdmin, roles }).orFail .store

def update (context : Context) (id : String) (patch : UserPatch) : ServiceScript User := do
  let current ← (users.get context id).orFail .store
  let requests := patch.roles.getD (current.roles.map RoleRequest.ofRole)
  let superAdmin := patch.superAdmin.getD current.superAdmin
  let roles ← (Roles.validate context (some current) requests superAdmin).orFail .guard
  (users.update context { current with roles, superAdmin }).orFail .store
  (users.get context id).orFail .store

end Users

end TenantConsole
