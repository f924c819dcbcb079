import TenantConsole.Settings.Basic
import TenantConsole.Text.Blank
import TenantConsole.Text.Digits

/-!
# Overrides

Variables of the environment replace single settings of a preset. A number or a flag that cannot be
read leaves the preset; a blank path, group or URL stands for none.
-/

namespace TenantConsole

/-- Finds the value of a variable. -/
abbrev Variables := String → Option String

namespace Variables

/-- A decimal number below a bound; a plus sign may stand before it. -/
def natBelow? (bound : Nat) (text : String) : Option Nat :=
  let digits := match text.toList with
    | '+' :: rest => rest
    | rest => rest
  match Text.decimal? digits with
  | some value => if value < bound then some value else none
  | none => none

def flag? (text : String) : Option Bool :=
  if text = "true" then some true else if text = "false" then some false else none

/-- The value of a variable, or else the preset. -/
def text (lookup : Variables) (name preset : String) : String := (lookup name).getD preset

/-- The number that a variable spells, or else the preset. -/
def nat (lookup : Variables) (name : String) (bound preset : Nat) : Nat :=
  ((lookup name).bind (natBelow? bound)).getD preset

def flag (lookup : Variables) (name : String) (preset : Bool) : Bool :=
  ((lookup name).bind flag?).getD preset

/-- The trimmed value of a variable; a blank one stands for none. -/
def optional (lookup : Variables) (name : String) (preset : Option String) : Option String :=
  match lookup name with
  | some value => Text.trimmed? value
  | none => preset

/-- The connection that the variables of a service describe; without a URL the preset stays. -/
def connection (lookup : Variables) (service : String) (preset : Option Connection) :
    Option Connection :=
  match (lookup (service ++ "_URL")).bind Text.trimmed? with
  | some url =>
    some
      { url
        username := lookup.text (service ++ "_USERNAME") ""
        password := lookup.text (service ++ "_PASSWORD") "" }
  | none => preset

end Variables

namespace Settings

def withOverrides (settings : Settings) (lookup : Variables) : Settings where
  environment := settings.environment
  database :=
    { url := lookup.text "DATABASE_URL" settings.database.url
      name := lookup.text "DATABASE_NAME" settings.database.name
      maxConnections := .ofNat <|
        lookup.nat "DATABASE_MAX_CONNECTIONS" UInt32.size settings.database.maxConnections.toNat
      connectionTimeout := .ofNat <|
        lookup.nat "DATABASE_CONNECTION_TIMEOUT" UInt64.size
          settings.database.connectionTimeout.toNat }
  api :=
    { port := .ofNat (lookup.nat "API_PORT" UInt16.size settings.api.port.toNat)
      requestLogging := lookup.flag "API_ENABLE_REQUEST_LOGGING" settings.api.requestLogging }
  security :=
    { secret := lookup.text "SECURITY_JWT_SECRET" settings.security.secret
      hours := .ofNat <|
        lookup.nat "SECURITY_JWT_EXPIRY_HOURS" UInt64.size settings.security.hours.toNat
      superAdminGroup :=
        lookup.optional "SECURITY_SUPER_ADMIN_GROUP" settings.security.superAdminGroup }
  catalogs :=
    { cannedPath := lookup.optional "RESOLVER_CANNED_PATH" settings.catalogs.cannedPath
      resourcesPath := lookup.optional "RESOLVER_RESOURCES_PATH" settings.catalogs.resourcesPath
      protoboardsPath :=
        lookup.optional "RESOLVER_PROTOBOARDS_PATH" settings.catalogs.protoboardsPath
      templatesPath := lookup.optional "RESOLVER_TEMPLATES_PATH" settings.catalogs.templatesPath
      influxdb := lookup.connection "INFLUXDB" settings.catalogs.influxdb
      kapacitor := lookup.connection "KAPACITOR" settings.catalogs.kapacitor }

/-- The environment that a variable names; without a known name it is development. -/
def environmentOf (lookup : Variables) : Environment :=
  match lookup "APP_ENV" with
  | some name =>
    if name = "production" ∨ name = "prod" then .production
    else if name = "staging" ∨ name = "stage" then .staging
    else .development
  | none => .development

/-- The settings that the variables describe on top of the preset they choose. -/
def ofVariables (lookup : Variables) : Settings :=
  (preset (environmentOf lookup)).withOverrides lookup

end Settings

end TenantConsole
