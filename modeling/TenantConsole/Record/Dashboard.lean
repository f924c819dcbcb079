import TenantConsole.Record.Basic

/-!
# Dashboards

An arrangement of free-form cells, owned by an organization.
-/

namespace TenantConsole

structure Dashboard where
  id : String := ""
  name : String
  cells : List Json := []
  templates : List Json := []
  organization : String := ""

namespace Dashboard

def slots : List Format.Slot :=
  [.optionalText "id", .text "name", .optionalList "cells" .any, .optionalList "templates" .any,
   .optionalText "organization"]

def ofSlots (v : Json) : Dashboard :=
  { id := (v.item 0).asText, name := (v.item 1).asText, cells := (v.item 2).asItems,
    templates := (v.item 3).asItems, organization := (v.item 4).asText }

def toJson (dashboard : Dashboard) : Json :=
  .obj [("id", .str dashboard.id), ("name", .str dashboard.name), ("cells", .arr dashboard.cells),
    ("templates", .arr dashboard.templates), ("organization", .str dashboard.organization)]

instance : Owned Dashboard where
  kind := "dashboard"
  id := Dashboard.id
  withId newId dashboard := { dashboard with id := newId }
  toJson := toJson
  format := (Format.record "Dashboard" slots).map ofSlots
  id_withId _ _ _ := rfl
  owner := organization
  withOwner organization dashboard := { dashboard with organization }
  owner_withOwner _ _ := rfl
  id_withOwner _ _ := rfl
  owner_withId _ _ := rfl

end Dashboard

end TenantConsole
