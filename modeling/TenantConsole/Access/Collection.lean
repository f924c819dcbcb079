import TenantConsole.Access.Context
import TenantConsole.Catalog.Assembly

/-!
# Collections

A collection is one of the console's stores, with the rule that says what of it a context reaches:
the whole store, the store as one organization sees it, or nothing.
-/

namespace TenantConsole

/-- What a caller reaches of a store. -/
inductive Access (ρ : Type) where
  | full
  | within (scope : Scoping ρ)
  | nothing

namespace Access

variable {ρ : Type} [Record ρ]

/-- The store that a caller gets to see. -/
def view : Access ρ → Store ρ → Store ρ
  | full, store => store
  | within scope, store => .scoped scope store
  | nothing, _ => .closed

/-- The store that is left once the caller has worked on what it sees of it. -/
def back : Access ρ → (before seen : Store ρ) → Store ρ
  | full, _, seen => seen
  | within _, _, .scoped _ inner => inner
  | within _, before, _ => before
  | nothing, before, _ => before

/-- Records that belong to organizations. -/
def ofOwned {ρ : Type} [Owned ρ] (context : Context) : Access ρ :=
  match context.scope .tenant with
  | .server | .superAdmin => full
  | .tenant organization => within (.owned organization)
  | .denied => nothing

def ofUsers (context : Context) : Access User :=
  match context.scope .tenant with
  | .server | .superAdmin => full
  | .tenant organization => within (.membership organization)
  | .denied => nothing

def ofOrganizations (context : Context) : Access Organization :=
  match context.scope .global with
  | .server | .superAdmin => full
  | .tenant organization => within (.itself organization)
  | .denied => nothing

/-- Records that only super admins and the console itself reach. -/
def ofGlobal (context : Context) : Access ρ :=
  match context.scope .global with
  | .server | .superAdmin => full
  | .tenant _ | .denied => nothing

/-- Records that everyone reaches. -/
def ofPublic (_ : Context) : Access ρ := full

end Access

structure Collection (ρ : Type) [Record ρ] where
  store : Stores → Store ρ
  replace : Stores → Store ρ → Stores
  access : Context → Access ρ

namespace Collection

def sources : Collection Source :=
  ⟨Stores.sources, fun stores sources => { stores with sources }, Access.ofOwned⟩

def servers : Collection Server :=
  ⟨Stores.servers, fun stores servers => { stores with servers }, Access.ofOwned⟩

def dashboards : Collection Dashboard :=
  ⟨Stores.dashboards, fun stores dashboards => { stores with dashboards }, Access.ofOwned⟩

def users : Collection User :=
  ⟨Stores.users, fun stores users => { stores with users }, Access.ofUsers⟩

def organizations : Collection Organization :=
  ⟨Stores.organizations, fun stores organizations => { stores with organizations },
    Access.ofOrganizations⟩

def config : Collection Config :=
  ⟨Stores.config, fun stores config => { stores with config }, Access.ofGlobal⟩

def mappings : Collection Mapping :=
  ⟨Stores.mappings, fun stores mappings => { stores with mappings }, Access.ofGlobal⟩

def layouts : Collection Layout :=
  ⟨Stores.layouts, fun stores layouts => { stores with layouts }, Access.ofPublic⟩

def protoboards : Collection Protoboard :=
  ⟨Stores.protoboards, fun stores protoboards => { stores with protoboards }, Access.ofPublic⟩

def templates : Collection ConfigTemplate :=
  ⟨Stores.templates, fun stores templates => { stores with templates }, Access.ofPublic⟩

end Collection

end TenantConsole
