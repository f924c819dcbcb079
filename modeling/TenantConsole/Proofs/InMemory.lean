import TenantConsole.Catalog.Assembly
import TenantConsole.Proofs.Scripts

/-!
# Stores assembled over tables

The primary stores in memory: a table for each kind of record. Assembling puts chains over some of
them and hands the others through.
-/

namespace TenantConsole

/-- A table for each kind of record that the primary database holds. -/
structure PrimaryTables where
  sources : Table Source := .empty
  servers : Table Server := .empty
  users : Table User := .empty
  dashboards : Table Dashboard := .empty
  organizations : Table Organization := .empty
  config : Table Config := .empty
  mappings : Table Mapping := .empty
  layouts : Table Layout := .empty

def PrimaryTables.stores (tables : PrimaryTables) : PrimaryStores where
  sources := .memory tables.sources
  servers := .memory tables.servers
  users := .memory tables.users
  dashboards := .memory tables.dashboards
  organizations := .memory tables.organizations
  config := .memory tables.config
  mappings := .memory tables.mappings
  layouts := .memory tables.layouts

namespace Stores

/-- The sources over those of the primary database, with what a connection names at the bottom. -/
def sourcesOver (path : Option String) (named : List Source) (primary : Store Source) :
    Store Source :=
  Chain.store ⟨"sources", Catalog.databaseLayer primary ++ Catalog.fileLayer path "src"
    ++ Catalog.flagLayer "flag sources" named⟩

/-- The servers, likewise. -/
def serversOver (path : Option String) (named : List Server) (primary : Store Server) :
    Store Server :=
  Chain.store ⟨"kapacitors", Catalog.databaseLayer primary ++ Catalog.fileLayer path "kap"
    ++ Catalog.flagLayer "flag kapacitors" named⟩

/-- The stores over some primary stores, once the connections have been read. -/
def layeredOver (settings : CatalogSettings) (flagSources : List Source) (flagServers : List Server)
    (primary : PrimaryStores) : Stores where
  sources := sourcesOver settings.resourcesPath flagSources primary.sources
  servers := serversOver settings.resourcesPath flagServers primary.servers
  users := primary.users
  dashboards := (Catalog.dashboards settings.resourcesPath primary.dashboards).store
  organizations := (Catalog.organizations settings.resourcesPath primary.organizations).store
  config := primary.config
  mappings := primary.mappings
  layouts := (Catalog.layoutChain settings.cannedPath primary.layouts).store
  protoboards := (Catalog.protoboardChain settings.protoboardsPath).store
  templates := (Catalog.templateChain settings.templatesPath).store

end Stores

/-- The chain of sources has the same layers over any primary store, once the connection is read. -/
theorem sources_over {path : Option String} {influxdb : Option Connection}
    {primary : Store Source} {chain : Chain Source}
    (h : Catalog.sources path influxdb primary = .ok chain) :
    ∃ named, ∀ other, Catalog.sources path influxdb other = .ok ⟨"sources",
      Catalog.databaseLayer other ++ Catalog.fileLayer path "src"
        ++ Catalog.flagLayer "flag sources" named⟩ := by
  -- without a connection the last layer is empty, and with one it holds the source that the
  -- connection names
  cases influxdb with
  | none => exact ⟨[], fun _ => rfl⟩
  | some connection =>
    obtain ⟨url, hurl, -⟩ := bind_eq_ok.1 h
    exact ⟨[Catalog.flagSource connection url], fun _ => bind_eq_ok.2 ⟨url, hurl, rfl⟩⟩

theorem servers_over {path : Option String} {kapacitor : Option Connection} {attached : Bool}
    {primary : Store Server} {chain : Chain Server}
    (h : Catalog.servers path kapacitor attached primary = .ok chain) :
    ∃ named, ∀ other, Catalog.servers path kapacitor attached other = .ok ⟨"kapacitors",
      Catalog.databaseLayer other ++ Catalog.fileLayer path "kap"
        ++ Catalog.flagLayer "flag kapacitors" named⟩ := by
  cases kapacitor with
  | none => exact ⟨[], fun _ => rfl⟩
  | some connection =>
    obtain ⟨url, hurl, -⟩ := bind_eq_ok.1 h
    exact ⟨[Catalog.flagServer connection attached], fun _ => bind_eq_ok.2 ⟨url, hurl, rfl⟩⟩

/-- **What the connections name does not depend on the primary stores.** -/
theorem assemble_over {settings : CatalogSettings} {primary : PrimaryStores} {stores : Stores}
    (h : Stores.assemble settings primary = .ok stores) :
    ∃ sources servers, stores = Stores.layeredOver settings sources servers primary
      ∧ ∀ other, Stores.assemble settings other
          = .ok (Stores.layeredOver settings sources servers other) := by
  -- reading the connections is all that can fail, and the primary stores have no part in it
  have hassembles : ∃ sources servers, ∀ other, Stores.assemble settings other
      = .ok (Stores.layeredOver settings sources servers other) := by
    obtain ⟨_, hsources, hrest⟩ := bind_eq_ok.1 h
    obtain ⟨_, hservers, -⟩ := bind_eq_ok.1 hrest
    obtain ⟨sources, hsources⟩ := sources_over hsources
    obtain ⟨servers, hservers⟩ := servers_over hservers
    exact ⟨sources, servers, fun other => bind_eq_ok.2 ⟨_, hsources other.sources,
      bind_eq_ok.2 ⟨_, hservers other.servers, rfl⟩⟩⟩
  obtain ⟨sources, servers, hassembles⟩ := hassembles
  refine ⟨sources, servers, ?_, hassembles⟩
  cases h.symm.trans (hassembles primary)
  rfl

/-- Users are handed through. -/
theorem users_of_assemble {settings : CatalogSettings} {primary : PrimaryStores} {stores : Stores}
    (h : Stores.assemble settings primary = .ok stores) : stores.users = primary.users := by
  obtain ⟨_, _, rfl, -⟩ := assemble_over h
  rfl

end TenantConsole
