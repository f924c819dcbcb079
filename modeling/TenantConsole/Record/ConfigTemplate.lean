import TenantConsole.Record.Basic

/-!
# Configuration templates

A snippet of collector configuration that is offered for a new source. Templates belong to nobody.
-/

namespace TenantConsole

structure ConfigTemplate where
  id : String
  name : String
  description : String := ""
  template : String
  deriving DecidableEq

namespace ConfigTemplate

def slots : List Format.Slot :=
  [.text "id", .text "name", .optionalText "description", .text "template"]

def ofSlots (v : Json) : ConfigTemplate :=
  { id := (v.item 0).asText, name := (v.item 1).asText, description := (v.item 2).asText,
    template := (v.item 3).asText }

def toJson (template : ConfigTemplate) : Json :=
  .obj [("id", .str template.id), ("name", .str template.name),
    ("description", .str template.description), ("template", .str template.template)]

instance : Record ConfigTemplate where
  kind := "config_template"
  id := ConfigTemplate.id
  withId newId template := { template with id := newId }
  toJson := toJson
  format := (Format.record "ConfigTemplate" slots).map ofSlots
  id_withId _ _ _ := rfl

end ConfigTemplate

end TenantConsole
