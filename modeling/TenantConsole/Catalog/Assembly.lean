import TenantConsole.Catalog.Compiled
import TenantConsole.Record.Config
import TenantConsole.Record.Dashboard
import TenantConsole.Record.Mapping
import TenantConsole.Record.Server
import TenantConsole.Settings.Basic
import TenantConsole.Store.Basic
import TenantConsole.Url.Basic

/-!
# Assembling the stores

Which layers stand behind each kind of record. The primary database comes first, then a directory of
record files if the settings name one, then what is compiled in or named by a connection.
-/

namespace TenantConsole

/-- Why the stores cannot be put together. -/
inductive AssemblyError where
  | invalidUrl (endpoint url : String) (cause : UrlError)

def AssemblyError.message : AssemblyError → String
  | invalidUrl endpoint url cause => s!"invalid {endpoint} url '{url}': {cause.message}"

/-- A chain of layers before it becomes a store. -/
structure Chain (ρ : Type) [Record ρ] where
  catalog : String
  layers : List (String × Store ρ)

def Chain.store {ρ : Type} [Record ρ] (chain : Chain ρ) : Store ρ :=
  .layered chain.catalog (.ofList chain.layers)

def Chain.layerNames {ρ : Type} [Record ρ] (chain : Chain ρ) : List String :=
  chain.layers.map Prod.fst

namespace Catalog

section Layers

variable {ρ : Type} [Record ρ]

def databaseLayer (primary : Store ρ) : List (String × Store ρ) := [("database", primary)]

/-- A layer of record files, if there is a directory for them. -/
def fileLayer (path : Option String) (extension : String) : List (String × Store ρ) :=
  match path with
  | some path => [("filesystem", .files ⟨path, extension⟩)]
  | none => []

def compiledLayer (label : String) (records : List ρ) : List (String × Store ρ) :=
  [("compiled", .fixed label records)]

/-- A layer for what the connections name. -/
def flagLayer (label : String) (records : List ρ) : List (String × Store ρ) :=
  [("flags", .fixed label records)]

end Layers

/-! ### Connections -/

/-- The id of the source and of the server that the connections name. -/
def flagId : String := "flags"

def checkedUrl (endpoint url : String) : Except AssemblyError Url :=
  match Url.parse url with
  | .ok url => .ok url
  | .error cause => .error (.invalidUrl endpoint url cause)

/-- The source of a connection, named for its host. -/
def flagSource (connection : Connection) (url : Url) : Source :=
  { id := flagId
    name := url.host.getD "influxdb"
    kind := "influx"
    username := connection.username
    password := connection.password
    url := connection.url
    isDefault := true
    telegraf := "telegraf"
    organization := Organization.defaultId }

/-- The server of a connection; it may be attached to the source of the other connection. -/
def flagServer (connection : Connection) (attached : Bool) : Server :=
  { id := flagId
    sourceId := if attached then flagId else ""
    name := "Kapacitor"
    username := connection.username
    password := connection.password
    url := connection.url
    active := true
    organization := Organization.defaultId }

/-! ### Chains -/

def sources (path : Option String) (influxdb : Option Connection) (primary : Store Source) :
    Except AssemblyError (Chain Source) := do
  let named ← match influxdb with
    | some connection => do
      let url ← checkedUrl "source" connection.url
      pure [flagSource connection url]
    | none => pure []
  return ⟨"sources",
    databaseLayer primary ++ fileLayer path "src" ++ flagLayer "flag sources" named⟩

def servers (path : Option String) (kapacitor : Option Connection) (attached : Bool)
    (primary : Store Server) : Except AssemblyError (Chain Server) := do
  let named ← match kapacitor with
    | some connection => do
      let _ ← checkedUrl "kapacitor" connection.url
      pure [flagServer connection attached]
    | none => pure []
  return ⟨"kapacitors",
    databaseLayer primary ++ fileLayer path "kap" ++ flagLayer "flag kapacitors" named⟩

def dashboards (path : Option String) (primary : Store Dashboard) : Chain Dashboard :=
  ⟨"dashboards", databaseLayer primary ++ fileLayer path "dashboard"⟩

def organizations (path : Option String) (primary : Store Organization) : Chain Organization :=
  ⟨"organizations", databaseLayer primary ++ fileLayer path "org"⟩

def layoutChain (path : Option String) (primary : Store Layout) : Chain Layout :=
  ⟨"layouts",
    databaseLayer primary ++ fileLayer path "json" ++ compiledLayer "canned layouts" layouts⟩

def protoboardChain (path : Option String) : Chain Protoboard :=
  ⟨"protoboards", fileLayer path "json" ++ compiledLayer "canned protoboards" protoboards⟩

def templateChain (path : Option String) : Chain ConfigTemplate :=
  ⟨"config templates",
    fileLayer path "template" ++ compiledLayer "canned config templates" templates⟩

end Catalog

/-! ### All stores -/

/-- The stores of the primary database. -/
structure PrimaryStores where
  sources : Store Source := .memory .empty
  servers : Store Server := .memory .empty
  users : Store User := .memory .empty
  dashboards : Store Dashboard := .memory .empty
  organizations : Store Organization := .memory .empty
  config : Store Config := .memory .empty
  mappings : Store Mapping := .memory .empty
  layouts : Store Layout := .memory .empty

/-- The stores that the console works with. -/
structure Stores where
  sources : Store Source
  servers : Store Server
  users : Store User
  dashboards : Store Dashboard
  organizations : Store Organization
  config : Store Config
  mappings : Store Mapping
  layouts : Store Layout
  protoboards : Store Protoboard
  templates : Store ConfigTemplate

namespace Stores

/-- Puts the chains over the primary stores. Users, configuration and mappings have no other layer.
-/
def assemble (settings : CatalogSettings) (primary : PrimaryStores) :
    Except AssemblyError Stores := do
  let sources ← Catalog.sources settings.resourcesPath settings.influxdb primary.sources
  let servers ←
    Catalog.servers settings.resourcesPath settings.kapacitor settings.influxdb.isSome
      primary.servers
  return {
    sources := sources.store
    servers := servers.store
    users := primary.users
    dashboards := (Catalog.dashboards settings.resourcesPath primary.dashboards).store
    organizations := (Catalog.organizations settings.resourcesPath primary.organizations).store
    config := primary.config
    mappings := primary.mappings
    layouts := (Catalog.layoutChain settings.cannedPath primary.layouts).store
    protoboards := (Catalog.protoboardChain settings.protoboardsPath).store
    templates := (Catalog.templateChain settings.templatesPath).store }

end Stores

end TenantConsole
