import TenantConsole.Record.Source

/-!
# Servers

A stream processor that watches a source, owned by an organization.
-/

namespace TenantConsole

structure Server where
  id : String := ""
  sourceId : String := ""
  name : String
  username : String := ""
  password : String := ""
  url : String
  insecureSkipVerify : Bool := false
  active : Bool := false
  organization : String := ""
  deriving DecidableEq

namespace Server

def slots : List Format.Slot :=
  [.optionalText "id", .optionalText "source_id", .text "name", .optionalText "username",
   .optionalText "password", .text "url", .optionalFlag "insecure_skip_verify",
   .optionalFlag "active", .optionalText "organization"]

def ofSlots (v : Json) : Server :=
  { id := (v.item 0).asText, sourceId := (v.item 1).asText, name := (v.item 2).asText,
    username := (v.item 3).asText, password := (v.item 4).asText, url := (v.item 5).asText,
    insecureSkipVerify := (v.item 6).asFlag, active := (v.item 7).asFlag,
    organization := (v.item 8).asText }

def toJson (server : Server) : Json :=
  .obj <|
    [("id", .str server.id), ("source_id", .str server.sourceId), ("name", .str server.name),
     ("username", .str server.username)]
    ++ passwordMember server.password ++
    [("url", .str server.url), ("insecure_skip_verify", .bool server.insecureSkipVerify),
     ("active", .bool server.active), ("organization", .str server.organization)]

instance : Owned Server where
  kind := "server"
  id := Server.id
  withId newId server := { server with id := newId }
  toJson := toJson
  format := (Format.record "Server" slots).map ofSlots
  id_withId _ _ _ := rfl
  owner := organization
  withOwner organization server := { server with organization }
  owner_withOwner _ _ := rfl
  id_withOwner _ _ := rfl
  owner_withId _ _ := rfl

end Server

end TenantConsole
