import TenantConsole.Record.Mapping
import TenantConsole.Record.User
import TenantConsole.Text.Blank

/-!
# Principals

Who a session says its holder is: a subject that an issuer vouches for, the organization it wants to
act in, and the groups that the issuer reports, joined by commas.
-/

namespace TenantConsole

structure Principal where
  subject : String
  issuer : String
  organization : String := ""
  group : String := ""
  deriving DecidableEq

namespace Principal

def slots : List Format.Slot :=
  [.text "subject", .text "issuer", .optionalText "organization", .optionalText "group"]

def ofSlots (v : Json) : Principal :=
  { subject := (v.item 0).asText, issuer := (v.item 1).asText,
    organization := (v.item 2).asText, group := (v.item 3).asText }

def format : Format Principal := (Format.record "Principal" slots).map ofSlots

def toJson (principal : Principal) : Json :=
  .obj [("subject", .str principal.subject), ("issuer", .str principal.issuer),
    ("organization", .str principal.organization), ("group", .str principal.group)]

/-- The groups, without empty names. -/
def groups (principal : Principal) : List String :=
  ((principal.group.toList.splitOn ',').filter (· ≠ [])).map String.ofList

def inGroup (principal : Principal) (group : String) : Bool := principal.groups.contains group

/-- The identity under which the user of a session is stored. -/
def identity (principal : Principal) : Identity :=
  ⟨principal.subject, principal.issuer, sessionScheme⟩

/-- The only issuer whose groups make super admins. -/
def adminIssuer : String := "auth0"

/-- Whether the configured group makes this principal a super admin; a blank group makes none. -/
def isSuperAdmin (principal : Principal) (adminGroup : Option String) : Bool :=
  principal.issuer = adminIssuer &&
    match adminGroup with
    | some group => !Text.isAllBlank group && principal.inGroup group
    | none => false

theorem isSuperAdmin_iff {principal : Principal} {adminGroup : Option String} :
    principal.isSuperAdmin adminGroup = true ↔ principal.issuer = adminIssuer
      ∧ ∃ group, adminGroup = some group ∧ Text.isAllBlank group = false
        ∧ principal.inGroup group = true := by
  unfold isSuperAdmin
  cases adminGroup with
  | none => simp
  | some group => simp

end Principal

namespace Mapping

def matchesText (pattern text : String) : Bool := pattern = wildcard || pattern = text

/-- Whether a mapping admits a principal. -/
def applies (mapping : Mapping) (principal : Principal) : Bool :=
  matchesText mapping.provider principal.issuer
    && matchesText mapping.scheme sessionScheme
    && (mapping.providerOrganization = wildcard
      || principal.inGroup mapping.providerOrganization)

end Mapping

end TenantConsole
