import TenantConsole.Record.Basic

/-!
# Sources

A connection to a time-series database, owned by an organization.
-/

namespace TenantConsole

structure Source where
  id : String := ""
  name : String
  kind : String := ""
  username : String := ""
  password : String := ""
  url : String
  insecureSkipVerify : Bool := false
  isDefault : Bool := false
  telegraf : String := ""
  organization : String := ""
  deriving DecidableEq

/-- A password is a member only where there is one. -/
def passwordMember (password : String) : List (String × Json) :=
  if password = "" then [] else [("password", .str password)]

namespace Source

def slots : List Format.Slot :=
  [.optionalText "id", .text "name", .optionalText "type", .optionalText "username",
   .optionalText "password", .text "url", .optionalFlag "insecure_skip_verify",
   .optionalFlag "default", .optionalText "telegraf", .optionalText "organization"]

def ofSlots (v : Json) : Source :=
  { id := (v.item 0).asText, name := (v.item 1).asText, kind := (v.item 2).asText,
    username := (v.item 3).asText, password := (v.item 4).asText, url := (v.item 5).asText,
    insecureSkipVerify := (v.item 6).asFlag, isDefault := (v.item 7).asFlag,
    telegraf := (v.item 8).asText, organization := (v.item 9).asText }

def toJson (source : Source) : Json :=
  .obj <|
    [("id", .str source.id), ("name", .str source.name), ("type", .str source.kind),
     ("username", .str source.username)]
    ++ passwordMember source.password ++
    [("url", .str source.url), ("insecure_skip_verify", .bool source.insecureSkipVerify),
     ("default", .bool source.isDefault), ("telegraf", .str source.telegraf),
     ("organization", .str source.organization)]

instance : Owned Source where
  kind := "source"
  id := Source.id
  withId newId source := { source with id := newId }
  toJson := toJson
  format := (Format.record "Source" slots).map ofSlots
  id_withId _ _ _ := rfl
  owner := organization
  withOwner organization source := { source with organization }
  owner_withOwner _ _ := rfl
  id_withOwner _ _ := rfl
  owner_withId _ _ := rfl

end Source

end TenantConsole
