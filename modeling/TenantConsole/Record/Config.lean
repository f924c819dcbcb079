import TenantConsole.Record.Basic

/-!
# Configuration record

Settings that super admins change while the console runs. There is one such record, under a fixed
id.
-/

namespace TenantConsole

structure Config where
  /-- Whether whoever logs in for the first time becomes a super admin. -/
  superAdminNewUsers : Bool := false
  deriving DecidableEq

namespace Config

def soleId : String := "config"

def authSlots : List Format.Slot := [.optionalFlag "super_admin_new_users"]

def slots : List Format.Slot :=
  [⟨"auth", .record "AuthConfig" authSlots, .default (.arr [.bool false])⟩]

def ofSlots (v : Json) : Config := { superAdminNewUsers := ((v.item 0).item 0).asFlag }

def toJson (config : Config) : Json :=
  .obj [("auth", .obj [("super_admin_new_users", .bool config.superAdminNewUsers)])]

instance : Record Config where
  kind := "config"
  id _ := soleId
  withId _ config := config
  toJson := toJson
  format := (Format.record "Config" slots).map ofSlots
  id_withId _ _ h := absurd h (by decide)

end Config

end TenantConsole
