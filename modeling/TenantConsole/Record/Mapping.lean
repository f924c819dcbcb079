import TenantConsole.Record.Basic

/-!
# Mappings

A rule that admits outside identities into an organization, by their provider, the scheme of the
login and a group that the provider reports. The wildcard matches everything.
-/

namespace TenantConsole

structure Mapping where
  id : String := ""
  organization : String
  provider : String
  scheme : String
  providerOrganization : String
  deriving DecidableEq

namespace Mapping

def wildcard : String := "*"

/-- The rule that admits everyone into an organization. -/
def everyone (organization : String) : Mapping :=
  { organization, provider := wildcard, scheme := wildcard, providerOrganization := wildcard }

def slots : List Format.Slot :=
  [.optionalText "id", .text "organization", .text "provider", .text "scheme",
   .text "provider_organization"]

def ofSlots (v : Json) : Mapping :=
  { id := (v.item 0).asText, organization := (v.item 1).asText, provider := (v.item 2).asText,
    scheme := (v.item 3).asText, providerOrganization := (v.item 4).asText }

def toJson (mapping : Mapping) : Json :=
  .obj [("id", .str mapping.id), ("organization", .str mapping.organization),
    ("provider", .str mapping.provider), ("scheme", .str mapping.scheme),
    ("provider_organization", .str mapping.providerOrganization)]

instance : Record Mapping where
  kind := "mapping"
  id := Mapping.id
  withId newId mapping := { mapping with id := newId }
  toJson := toJson
  format := (Format.record "Mapping" slots).map ofSlots
  id_withId _ _ _ := rfl

end Mapping

end TenantConsole
