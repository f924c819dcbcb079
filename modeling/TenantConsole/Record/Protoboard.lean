import TenantConsole.Record.Basic

/-!
# Protoboards

A dashboard to start from, with a description of what it shows. Protoboards belong to nobody.
-/

namespace TenantConsole

/-- What a protoboard says about itself. -/
structure Protoboard.About where
  name : String
  version : String := ""
  dashboardVersion : String := ""
  measurements : List String := []
  description : String := ""
  author : String := ""
  license : String := ""
  url : String := ""
  deriving DecidableEq

structure Protoboard where
  id : String
  about : Protoboard.About
  data : Json := .null

namespace Protoboard

def aboutSlots : List Format.Slot :=
  [.text "name", .optionalText "version", .optionalText "dashboard_version",
   .optionalList "measurements" .text, .optionalText "description", .optionalText "author",
   .optionalText "license", .optionalText "url"]

def slots : List Format.Slot :=
  [.text "id", ⟨"meta", .record "ProtoboardMeta" aboutSlots, .refused⟩,
   ⟨"data", .any, .default .null⟩]

def About.ofSlots (v : Json) : About :=
  { name := (v.item 0).asText, version := (v.item 1).asText,
    dashboardVersion := (v.item 2).asText, measurements := (v.item 3).asItems.map Json.asText,
    description := (v.item 4).asText, author := (v.item 5).asText, license := (v.item 6).asText,
    url := (v.item 7).asText }

def ofSlots (v : Json) : Protoboard :=
  { id := (v.item 0).asText, about := .ofSlots (v.item 1), data := v.item 2 }

def About.toJson (about : About) : Json :=
  .obj [("name", .str about.name), ("version", .str about.version),
    ("dashboard_version", .str about.dashboardVersion),
    ("measurements", .arr (about.measurements.map Json.str)),
    ("description", .str about.description), ("author", .str about.author),
    ("license", .str about.license), ("url", .str about.url)]

def toJson (protoboard : Protoboard) : Json :=
  .obj [("id", .str protoboard.id), ("meta", protoboard.about.toJson), ("data", protoboard.data)]

instance : Record Protoboard where
  kind := "protoboard"
  id := Protoboard.id
  withId newId protoboard := { protoboard with id := newId }
  toJson := toJson
  format := (Format.record "Protoboard" slots).map ofSlots
  id_withId _ _ _ := rfl

end Protoboard

end TenantConsole
