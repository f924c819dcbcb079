import TenantConsole.Json.Basic

/-!
# Settings

What an operator sets before the console starts: where its data lies, how it listens, how sessions
are signed and which catalogs it offers.
-/

namespace TenantConsole

inductive Environment where
  | development
  | staging
  | production
  deriving DecidableEq

/-- The endpoint of a source or a server that is named at the start. -/
structure Connection where
  url : String
  username : String := ""
  password : String := ""
  deriving DecidableEq

structure DatabaseSettings where
  url : String := "postgres://localhost:5432"
  name : String
  maxConnections : UInt32
  connectionTimeout : UInt64
  deriving DecidableEq

structure ApiSettings where
  port : UInt16 := 8888
  requestLogging : Bool
  deriving DecidableEq

structure SecuritySettings where
  /-- The key that sessions are signed with. -/
  secret : String
  /-- How long a session lasts. -/
  hours : UInt64
  /-- The group whose members become super admins. -/
  superAdminGroup : Option String := none
  deriving DecidableEq

/-- Where the records come from that are not in the primary database. -/
structure CatalogSettings where
  cannedPath : Option String := none
  resourcesPath : Option String := none
  protoboardsPath : Option String := none
  templatesPath : Option String := none
  influxdb : Option Connection := none
  kapacitor : Option Connection := none
  deriving DecidableEq

structure Settings where
  environment : Environment
  database : DatabaseSettings
  api : ApiSettings
  security : SecuritySettings
  catalogs : CatalogSettings
  deriving DecidableEq

namespace Settings

def isProduction (settings : Settings) : Bool := settings.environment = .production

/-! ### Presets -/

def development : Settings where
  environment := .development
  database := { name := "vigil_development", maxConnections := 10, connectionTimeout := 30 }
  api := { requestLogging := true }
  security := { secret := "development-secret-change-me", hours := 168 }
  catalogs := { cannedPath := some "canned", resourcesPath := some "resources" }

def staging : Settings where
  environment := .staging
  database := { name := "vigil_staging", maxConnections := 20, connectionTimeout := 10 }
  api := { requestLogging := true }
  security := { secret := "", hours := 24 }
  catalogs := {}

def production : Settings where
  environment := .production
  database := { name := "vigil", maxConnections := 50, connectionTimeout := 5 }
  api := { requestLogging := false }
  security := { secret := "", hours := 4 }
  catalogs := {}

def preset : Environment → Settings
  | .development => development
  | .staging => staging
  | .production => production

end Settings

/-! ### The written form -/

def Environment.name : Environment → String
  | development => "Development"
  | staging => "Staging"
  | production => "Production"

namespace Connection

def toJson (connection : Connection) : Json :=
  .obj [("url", .str connection.url), ("username", .str connection.username),
    ("password", .str connection.password)]

def toJson? : Option Connection → Json
  | some connection => connection.toJson
  | none => .null

end Connection

namespace Settings

def toJson (settings : Settings) : Json :=
  .obj
    [("environment", .str settings.environment.name),
     ("database", .obj
      [("url", .str settings.database.url), ("name", .str settings.database.name),
       ("max_connections", .int settings.database.maxConnections.toNat),
       ("connection_timeout", .int settings.database.connectionTimeout.toNat)]),
     ("api", .obj
      [("port", .int settings.api.port.toNat),
       ("enable_request_logging", .bool settings.api.requestLogging)]),
     ("security", .obj
      [("jwt_secret", .str settings.security.secret),
       ("jwt_expiry_hours", .int settings.security.hours.toNat),
       ("super_admin_group", .ofText? settings.security.superAdminGroup)]),
     ("resolver", .obj
      [("canned_path", .ofText? settings.catalogs.cannedPath),
       ("resources_path", .ofText? settings.catalogs.resourcesPath),
       ("protoboards_path", .ofText? settings.catalogs.protoboardsPath),
       ("templates_path", .ofText? settings.catalogs.templatesPath),
       ("influxdb", Connection.toJson? settings.catalogs.influxdb),
       ("kapacitor", Connection.toJson? settings.catalogs.kapacitor)])]

end Settings

end TenantConsole
