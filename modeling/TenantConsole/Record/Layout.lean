import TenantConsole.Record.Basic

/-!
# Layouts

A ready-made arrangement of cells for one measurement of an application. Layouts belong to nobody.
-/

namespace TenantConsole

structure Layout where
  id : String
  application : String
  measurement : String
  autoflow : Bool := false
  cells : List Json := []

namespace Layout

def slots : List Format.Slot :=
  [.text "id", .text "app", .text "measurement", .optionalFlag "autoflow",
   .optionalList "cells" .any]

def ofSlots (v : Json) : Layout :=
  { id := (v.item 0).asText, application := (v.item 1).asText, measurement := (v.item 2).asText,
    autoflow := (v.item 3).asFlag, cells := (v.item 4).asItems }

def toJson (layout : Layout) : Json :=
  .obj [("id", .str layout.id), ("app", .str layout.application),
    ("measurement", .str layout.measurement), ("autoflow", .bool layout.autoflow),
    ("cells", .arr layout.cells)]

instance : Record Layout where
  kind := "layout"
  id := Layout.id
  withId newId layout := { layout with id := newId }
  toJson := toJson
  format := (Format.record "Layout" slots).map ofSlots
  id_withId _ _ _ := rfl

end Layout

end TenantConsole
