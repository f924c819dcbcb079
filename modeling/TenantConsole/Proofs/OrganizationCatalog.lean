import TenantConsole.Proofs.Isolation
import TenantConsole.Proofs.Requests

/-!
# The catalog of organizations in a running console

The console's stores stay put together in the same way, whatever a request does: only the tables
under them change, and the files. `Premises` is what stays. Of the organizations this says how they
are looked up, whoever asks (`get_organizations`), and written: by super admins and the console
itself as the catalog is, and by no one else (`admins_write`). Mappings lie in a table and nowhere
else (`mappings_write_sat`).
-/

namespace TenantConsole

open Collection Readings

/-- What stores are put together with, besides the tables. -/
structure Premises where
  settings : CatalogSettings
  flagSources : List Source
  flagServers : List Server

/-- The stores over some tables, put together with what stays. -/
def Premises.storesOver (premises : Premises) (tables : PrimaryTables) : Stores :=
  .layeredOver premises.settings premises.flagSources premises.flagServers tables.stores

/-- The organizations as a catalog over this table. -/
abbrev Premises.organizationsOver (premises : Premises) (table : Table Organization) :
    Store Organization :=
  Catalog.overTable "organizations" premises.settings.resourcesPath "org" [] table

section Over

variable {premises : Premises}

theorem organizations_over (tables : PrimaryTables) :
    (premises.storesOver tables).organizations = premises.organizationsOver tables.organizations :=
  organizations_eq _ _

theorem replace_organizations (tables : PrimaryTables) (table : Table Organization) :
    organizations.replace (premises.storesOver tables) (premises.organizationsOver table)
      = premises.storesOver { tables with organizations := table } := by
  unfold Premises.organizationsOver
  rw [← organizations_eq]
  rfl

/-! ## Looking up -/

/-- Organizations are looked up in the stacked listing of their catalog. -/
theorem organizations_read_out (tables : PrimaryTables) (disk : Disk) :
    ((premises.storesOver tables).organizations.readings disk).OutOf
      ((premises.storesOver tables).organizations.stacked disk) :=
  organizations_outOf premises.settings premises.flagSources premises.flagServers tables disk

/-- What a session looks up is there for the console as well. -/
theorem get_organizations {context : Context} {state : State} {id : String}
    {organization : Organization}
    (h : (organizations.readings context state).get id = .ok organization) :
    (state.stores.organizations.readings state.world.disk).get id = .ok organization := by
  unfold readings seen at h
  -- a session reaches all organizations, none, or the one that it acts in
  cases haccess : organizations.access context with
  | full =>
    rw [haccess] at h
    exact h
  | nothing =>
    rw [haccess] at h
    cases h
  | within scope =>
    obtain ⟨acting, rfl⟩ : ∃ acting, scope = .itself acting := by
      revert haccess
      simp only [organizations, Access.ofOrganizations]
      split <;> rintro ⟨⟩
      exact ⟨_, rfl⟩
    rw [haccess] at h
    change (if id = acting then (state.stores.organizations.readings state.world.disk).get id
      else .error (.missing Organization id)) = .ok organization at h
    split at h
    · exact h
    · cases h

/-- An ordinary organization is not found under the id of the default one. -/
theorem ne_defaultId_of_ordinary {organization : Organization} {id : String}
    (hid : organization.id = id) (hordinary : ¬ organization.isDefault = true) :
    id ≠ Organization.defaultId := by
  rintro rfl
  exact hordinary (decide_eq_true hid)

/-! ## Writing -/

/-- Super admins and the console itself reach all organizations. -/
theorem access_organizations_of_superAdmin {context : Context}
    (hadmin : context.isServerCall = true ∨ context.isSuperAdmin = true) :
    organizations.access context = .full := by
  simp only [organizations, Access.ofOrganizations, Context.scope]
  cases hserver : context.isServerCall with
  | true => rfl
  | false =>
    have hadmin := hadmin.resolve_left (by simp [hserver])
    simp [hadmin]

/-- Super admins and the console itself write to the catalog. -/
theorem admin_write {α : Type} {context : Context} {write : Write Organization α}
    (hadmin : context.isServerCall = true ∨ context.isSuperAdmin = true) {state : State}
    {tables : PrimaryTables} (hstores : state.stores = premises.storesOver tables)
    {answer : Except StoreError α} {table : Table Organization} {world : World}
    (hwrite : (premises.organizationsOver tables.organizations).write write state.world
      = (answer, premises.organizationsOver table, world)) :
    (organizations.write context write).run state
      = (answer, ⟨premises.storesOver { tables with organizations := table }, world⟩) := by
  rw [← organizations_over, ← hstores] at hwrite
  rw [run_write_full (access_organizations_of_superAdmin hadmin) hwrite]
  show (answer, (⟨organizations.replace state.stores _, world⟩ : State)) = _
  rw [hstores, replace_organizations]

/-- Nobody else creates an organization, or deletes one. -/
theorem ordinary_write {α : Type} {context : Context} {write : Write Organization α}
    (hordinary : ¬ (context.isServerCall = true ∨ context.isSuperAdmin = true))
    (hkind : write.kind ≠ .update) (state : State) :
    ∃ error, (organizations.write context write).run state = (.error error, state) := by
  obtain ⟨hsession, hplain⟩ := not_or.1 hordinary
  have hrefuses : (organizations.write context write).Sat state fun answer after =>
      (∃ error, answer = .error error) ∧ after = state :=
    organizations_write_ordinary (by simpa using hsession) (by simpa using hplain) write hkind
  obtain ⟨⟨error, hrefused⟩, hsame⟩ := hrefuses
  exact ⟨error, Prod.ext hrefused hsame⟩

/-- **A write that is only for super admins**, and for the console itself, is refused and leaves the
state alone, or it is one to the catalog. -/
theorem admins_write {α : Type} (context : Context) {write : Write Organization α}
    (hkind : write.kind ≠ .update) {state : State} {tables : PrimaryTables}
    (hstores : state.stores = premises.storesOver tables)
    {answer : Except StoreError α} {table : Table Organization} {world : World}
    (hwrite : (premises.organizationsOver tables.organizations).write write state.world
      = (answer, premises.organizationsOver table, world)) :
    (∃ error, (organizations.write context write).run state = (.error error, state))
      ∨ (organizations.write context write).run state
        = (answer, ⟨premises.storesOver { tables with organizations := table }, world⟩) := by
  by_cases hadmin : context.isServerCall = true ∨ context.isSuperAdmin = true
  · exact .inr (admin_write hadmin hstores hwrite)
  · exact .inl (ordinary_write hadmin hkind state)

/-- The state with these mappings, apart from the ids that have been drawn on the way. -/
structure State.WithMappings (before : State) (table : Table Mapping) (after : State) : Prop where
  stores : after.stores = { before.stores with mappings := .memory table }
  disk : after.world.disk = before.world.disk

theorem State.WithMappings.mappings {before after : State} {table : Table Mapping}
    (h : before.WithMappings table after) : after.stores.mappings = .memory table := by
  rw [h.stores]

/-- **A write to the mappings is a write to their table, or none.** -/
theorem mappings_write_sat {α : Type} (context : Context) {state : State} {table : Table Mapping}
    (hstore : state.stores.mappings = .memory table) (write : Write Mapping α) :
    (mappings.write context write).Sat state fun answer after =>
      ∃ table', state.WithMappings table' after
        ∧ (table' = table ∨ ∃ value, answer = .ok value ∧ table.Change write value table') := by
  unfold Script.Sat
  rw [run_write_memory mappings_lawful hstore write]
  have houtcome : ((mappings.access context).outcome write table state.world)
        = (.error (denied Mapping write.kind), table, state.world)
      ∨ ((mappings.access context).outcome write table state.world)
        = table.write write state.world := by
    simp only [mappings, Access.ofGlobal]
    split
    · exact .inr rfl
    · exact .inr rfl
    · exact .inl rfl
    · exact .inl rfl
  -- mappings are reached as a whole or not at all
  rcases houtcome with hnothing | hfull
  · rw [hnothing]
    exact ⟨table, ⟨rfl, rfl⟩, .inl rfl⟩
  · rw [hfull]
    obtain ⟨hdisk, ⟨-, hsame⟩ | ⟨value, hvalue, hchange⟩⟩ := table.write_settles write state.world
    · exact ⟨table, ⟨by rw [hsame]; rfl, hdisk⟩, .inl rfl⟩
    · exact ⟨_, ⟨rfl, hdisk⟩, .inr ⟨value, hvalue, hchange⟩⟩

end Over

end TenantConsole
