import TenantConsole.Proofs.Chains
import TenantConsole.Proofs.InMemory
import TenantConsole.Proofs.UserServices

/-!
# What callers of one organization can change

Callers that are neither the console nor super admins reach seven collections, each through a scope
of its own kind: records by their owner, users by their roles, the organization by its id, and
nothing at all of the configuration and the mappings. `Confined` says what may have changed in all
the tables together; it composes, so it is enough to look at one write, and for a write at one
collection.
-/

namespace TenantConsole

open Collection

/-! ## Calls -/

/-- A call on the records of one kind. -/
inductive Operation (ρ : Type) where
  | all
  | get (id : String)
  | add (record : ρ)
  | update (record : ρ)
  | delete (id : String)

/-- The state that a call leaves. -/
def Operation.after {ρ : Type} [Record ρ] (collection : Collection ρ) (context : Context)
    (state : State) : Operation ρ → State
  | .all => ((collection.all context).run state).2
  | .get id => ((collection.get context id).run state).2
  | .add record => ((collection.add context record).run state).2
  | .update record => ((collection.update context record).run state).2
  | .delete id => ((collection.delete context id).run state).2

/-- A call on one of the collections. -/
inductive FacadeCall where
  | sources (operation : Operation Source)
  | servers (operation : Operation Server)
  | dashboards (operation : Operation Dashboard)
  | users (operation : Operation User)
  | organizations (operation : Operation Organization)
  | config (operation : Operation Config)
  | mappings (operation : Operation Mapping)

/-- The state after a call on one of the seven collections. -/
def FacadeCall.after (context : Context) (state : State) : FacadeCall → State
  | .sources operation => operation.after Collection.sources context state
  | .servers operation => operation.after Collection.servers context state
  | .dashboards operation => operation.after Collection.dashboards context state
  | .users operation => operation.after Collection.users context state
  | .organizations operation => operation.after Collection.organizations context state
  | .config operation => operation.after Collection.config context state
  | .mappings operation => operation.after Collection.mappings context state

/-- The state that a run of calls leaves. -/
def State.afterCalls (state : State) (calls : List (Context × FacadeCall)) : State :=
  calls.foldl (fun state call => call.2.after call.1 state) state

/-- A call leaves the state alone, or it is a write. -/
theorem Operation.after_cases {ρ : Type} [Record ρ] (collection : Collection ρ)
    (context : Context) (state : State) (operation : Operation ρ) :
    operation.after collection context state = state ∨ ∃ (α : Type) (write : Write ρ α),
      operation.after collection context state
        = ((collection.write context write).run state).2 := by
  cases operation with
  | all => exact .inl rfl
  | get id => exact .inl rfl
  | add record => exact .inr ⟨_, .add record, rfl⟩
  | update record => exact .inr ⟨_, .update record, rfl⟩
  | delete id => exact .inr ⟨_, .delete id, rfl⟩

/-- A caller that is neither the console nor a super admin, and acts in this organization or in
none. -/
structure Context.ConfinedTo (context : Context) (organization : String) : Prop where
  session : context.isServerCall = false
  ordinary : context.isSuperAdmin = false
  acting : context.organization = none ∨ context.organization = some organization

/-! ## What may have changed -/

namespace User

/-- What the organization leaves of a user that was stored. -/
structure KeptOutside (organization : String) (before after : User) : Prop where
  id : after.id = before.id
  identity : after.identity = before.identity
  rolesOutside : after.rolesOutside organization = before.rolesOutside organization
  rolesInside : after.roles = before.roles
    ∨ (after.roles.filter fun role => role.organization = organization).length ≤ 1

/-- A user that has no role but one in the organization. -/
def OnlyIn (organization : String) (user : User) : Prop :=
  user.roles.length ≤ 1 ∧ ∀ role ∈ user.roles, role.organization = organization

variable {organization : String} {a b c : User}

theorem KeptOutside.refl (user : User) : KeptOutside organization user user :=
  ⟨rfl, rfl, rfl, .inl rfl⟩

/-- What two writes keep of a user one after the other, they keep together. -/
theorem KeptOutside.trans (h₁ : KeptOutside organization a b) (h₂ : KeptOutside organization b c) :
    KeptOutside organization a c where
  id := h₂.id.trans h₁.id
  identity := h₂.identity.trans h₁.identity
  rolesOutside := h₂.rolesOutside.trans h₁.rolesOutside
  rolesInside := by
    rcases h₂.rolesInside with hsame | hfew
    · rw [hsame]
      exact h₁.rolesInside
    · exact .inr hfew

/-- A user that belongs to the organization alone still does after a write that keeps all else. -/
theorem OnlyIn.kept (h : a.OnlyIn organization) (hkept : KeptOutside organization a b) :
    b.OnlyIn organization := by
  have hinside : ∀ role ∈ b.roles, role.organization = organization := by
    have houtside : b.rolesOutside organization = [] := by
      rw [hkept.rolesOutside]
      simpa [rolesOutside] using h.2
    simpa [rolesOutside] using houtside
  refine ⟨?_, hinside⟩
  rcases hkept.rolesInside with hsame | hfew
  · rw [hsame]
    exact h.1
  · rwa [List.filter_eq_self.2 fun role hrole => by simpa using hinside role hrole] at hfew

theorem keptOutside_holding (user : User) (role : Role) :
    KeptOutside role.organization user (user.holding role) where
  id := rfl
  identity := rfl
  rolesOutside := user.holding_rolesOutside role
  rolesInside := by
    right
    simp [holding, rolesOutside, List.filter_append]

theorem keptOutside_leaving (user : User) (organization : String) :
    KeptOutside organization user (user.leaving organization) where
  id := rfl
  identity := rfl
  rolesOutside := user.leaving_rolesOutside organization
  rolesInside := by
    have hnone : ((user.rolesOutside organization).filter
        fun role => role.organization = organization) = [] := by
      simp [rolesOutside]
    right
    show ((user.rolesOutside organization).filter _).length ≤ 1
    rw [hnone]
    exact Nat.zero_le 1

end User

/-- **What a write inside an organization does to users ends at its bounds.** -/
theorem MemberChange.confined {organization : String} {table after : Table User} {α : Type}
    {write : Write User α} {answer : α}
    (h : MemberChange organization table write answer after) :
    table.Evolves (User.KeptOutside organization) (User.OnlyIn organization) after := by
  cases write with
  | add user =>
    refine Admission.evolves h User.KeptOutside.refl (fun {existing role} hrole => ?_)
      fun {id role} hrole => ?_
    · subst hrole
      exact existing.keptOutside_holding role
    · exact ⟨Nat.le_refl 1, fun r hr => by rw [List.mem_singleton.1 hr, hrole]⟩
  | update user =>
    refine Reassignment.evolves h User.KeptOutside.refl fun {current role} hfound hrole => ?_
    subst hrole
    obtain ⟨hid, hidentity, houtside, hinside⟩ := current.keptOutside_holding role
    exact ⟨hid, hidentity, houtside, hinside⟩
  | delete id =>
    exact Departure.evolves h User.KeptOutside.refl fun {current} =>
      current.keptOutside_leaving organization

/-- What the organization may have done to records of one kind: those of other owners are all there,
as they were and in their order, and what has come in is its own. -/
structure OthersKept {ρ : Type} [Owned ρ] (organization : String) (before after : Table ρ) :
    Prop where
  others : (after.rows.filter fun record => Owned.owner record ≠ organization)
    = before.rows.filter fun record => Owned.owner record ≠ organization
  added : ∀ record ∈ after.rows, record ∉ before.rows → Owned.owner record = organization

namespace OthersKept

variable {ρ : Type} [Owned ρ] {organization : String} {before middle after : Table ρ}

/-- What has come in with another owner would be among the records of other owners. -/
theorem of_others (h : (after.rows.filter fun record => Owned.owner record ≠ organization)
    = before.rows.filter fun record => Owned.owner record ≠ organization) :
    OthersKept organization before after where
  others := h
  added record hafter hbefore := by
    by_cases howner : Owned.owner record = organization
    · exact howner
    · have hmem : record ∈ after.rows.filter fun record => Owned.owner record ≠ organization :=
        List.mem_filter.2 ⟨hafter, by simpa using howner⟩
      rw [h] at hmem
      exact absurd (List.mem_filter.1 hmem).1 hbefore

theorem refl (table : Table ρ) : OthersKept organization table table := of_others rfl

theorem trans (h₁ : OthersKept organization before middle)
    (h₂ : OthersKept organization middle after) : OthersKept organization before after :=
  of_others (h₂.others.trans h₁.others)

end OthersKept

/-- What callers of an organization may have changed. -/
structure Confined (organization : String) (before after : PrimaryTables) : Prop where
  config : after.config = before.config
  mappings : after.mappings = before.mappings
  layouts : after.layouts = before.layouts
  organizations : before.organizations.Evolves
    (fun old new => old.id ≠ organization → new = old) (fun _ => False) after.organizations
  sources : OthersKept organization before.sources after.sources
  servers : OthersKept organization before.servers after.servers
  dashboards : OthersKept organization before.dashboards after.dashboards
  users : before.users.Evolves (User.KeptOutside organization) (User.OnlyIn organization)
    after.users

namespace Confined

variable {organization : String} {before middle after : PrimaryTables}

theorem refl (tables : PrimaryTables) : Confined organization tables tables where
  config := rfl
  mappings := rfl
  layouts := rfl
  organizations := .refl (fun _ _ => rfl) _
  sources := .refl _
  servers := .refl _
  dashboards := .refl _
  users := .refl User.KeptOutside.refl _

/-- Two confined changes make a confined change. -/
theorem trans (h₁ : Confined organization before middle) (h₂ : Confined organization middle after) :
    Confined organization before after where
  config := h₂.config.trans h₁.config
  mappings := h₂.mappings.trans h₁.mappings
  layouts := h₂.layouts.trans h₁.layouts
  organizations := by
    refine h₁.organizations.trans (fun {a b c} hab hbc ha => ?_) (fun h _ => h) h₂.organizations
    have hb : b = a := hab ha
    subst hb
    exact hbc ha
  sources := h₁.sources.trans h₂.sources
  servers := h₁.servers.trans h₂.servers
  dashboards := h₁.dashboards.trans h₂.dashboards
  users := h₁.users.trans User.KeptOutside.trans User.OnlyIn.kept h₂.users

end Confined

/-! ## One write -/

section Owned

variable {ρ α : Type} [Owned ρ] {hold : Table ρ → Store ρ}

/-- A row under an id whose record the organization reads is its own. -/
theorem owner_of_admitted (hbacked : Backed hold) {organization id : String} {table : Table ρ}
    {disk : Disk} {row : ρ}
    (hadmitted : ∃ found, ((hold table).readings disk).get id = .ok found
      ∧ Owned.owner found = organization)
    (hrow : table.get? id = some row) : Owned.owner row = organization := by
  obtain ⟨found, hfound, howner⟩ := hadmitted
  cases (hbacked.get disk hrow).symm.trans hfound
  exact howner

/-- A change that an organization is admitted to concerns no other owner. -/
theorem change_confined (hbacked : Backed hold) {organization : String} {table after : Table ρ}
    {write : Write ρ α} {disk : Disk} {value : α}
    (hadmitted : write.Admitted organization ((hold table).readings disk))
    (hchange : table.Change (write.stamped organization) value after) :
    OthersKept organization table after := by
  -- a new record is stamped; what an update or a deletion takes away has been read as the
  -- organization's own
  cases write with
  | add record =>
    obtain ⟨named, rfl, hfree, rfl⟩ := hchange
    refine .of_others <| Table.rows_insert_filter ?_ fun r hr => ?_
    · simp [owner_named, Owned.owner_withOwner]
    · exact absurd (hfree.symm.trans hr) (by simp)
  | update record =>
    obtain ⟨-, rfl⟩ := hchange
    refine .of_others <| Table.rows_insert_filter ?_ fun r hr => ?_
    · simp [Owned.owner_withOwner]
    · rw [Owned.id_withOwner] at hr
      simp [owner_of_admitted hbacked hadmitted hr]
  | delete id =>
    obtain ⟨-, rfl⟩ := hchange
    refine .of_others <| Table.rows_erase_filter fun r hr => ?_
    simp [owner_of_admitted hbacked hadmitted hr]

/-- What a scope of owned records makes of a write is a refusal, or a change that concerns no other
owner. -/
theorem owned_confined (hbacked : Backed hold) (organization : String) (table : Table ρ)
    (write : Write ρ α) (world : World) :
    ∃ answer table' world', (Store.scoped (.owned organization) (hold table)).write write world
        = (answer, .scoped (.owned organization) (hold table'), world')
      ∧ world'.disk = world.disk ∧ OthersKept organization table table' := by
  rcases write_owned organization (hold table) write world with
    ⟨error, hrefused⟩ | ⟨hadmitted, hdown⟩
  · exact ⟨.error error, table, world, hrefused, rfl, .refl table⟩
  · obtain ⟨answer, table', world', hwrite, hdisk, hsettles⟩ :=
      hbacked.write table (write.stamped organization) world
    refine ⟨answer, table', world', hdown answer _ world' hwrite, hdisk, ?_⟩
    rcases hsettles with ⟨-, hsame⟩ | ⟨value, -, hchange⟩
    · rw [show table' = table from hsame]
      exact .refl table
    · exact change_confined hbacked hadmitted hchange

end Owned

/-- What the organization can do to itself concerns no other, and neither adds nor removes one. -/
theorem itself_confined {α : Type} {hold : Table Organization → Store Organization}
    (hbacked : Backed hold) (organization : String) (table : Table Organization)
    (write : Write Organization α) (world : World) :
    ∃ answer table' world', (Store.scoped (.itself organization) (hold table)).write write world
        = (answer, .scoped (.itself organization) (hold table'), world')
      ∧ world'.disk = world.disk
      ∧ table.Evolves (fun old new => old.id ≠ organization → new = old) (fun _ => False)
          table' := by
  -- everything but an update of the organization itself is refused by the scope
  have hrefused (error : StoreError)
      (hplan : (Scoping.itself organization).plan ((hold table).readings world.disk) write
        = .refuse error) :
      ∃ answer table' world', (Store.scoped (.itself organization) (hold table)).write write world
          = (answer, .scoped (.itself organization) (hold table'), world')
        ∧ world'.disk = world.disk
        ∧ table.Evolves (fun old new => old.id ≠ organization → new = old) (fun _ => False)
            table' :=
    ⟨.error error, table, world, by simp only [Store.write, hplan], rfl, .refl (fun _ _ => rfl) _⟩
  cases write with
  | add record => exact hrefused _ rfl
  | delete id => exact hrefused _ rfl
  | update record =>
    by_cases hitself : record.id = organization
    · obtain ⟨answer, table', world', hwrite, hdisk, hsettles⟩ :=
        hbacked.write table (.update record) world
      refine ⟨answer.bind fun _ => .ok (), table', world', ?_, hdisk, ?_⟩
      · simp only [Store.write, Scoping.plan, Scoping.itself, hitself, if_true, hwrite]
      · rcases hsettles with ⟨-, hsame⟩ | ⟨value, -, hheld, hafter⟩
        · rw [show table' = table from hsame]
          exact .refl (fun _ _ => rfl) _
        · rw [show table' = table.insert record from hafter]
          obtain ⟨old, hold⟩ := Option.isSome_iff_exists.1 hheld
          refine .replaced (fun _ _ => rfl) hold fun hother => absurd ?_ hother
          exact (Table.id_of_get?_eq_some hold).trans hitself
    · exact hrefused _ (if_neg hitself)

/-! ## One call -/

section Calls

variable {ρ : Type} {organization : String} {context : Context}

theorem replace_same [Record ρ] {collection : Collection ρ} (hlawful : collection.Lawful)
    {state : State} {store : Store ρ} (hstore : collection.store state.stores = store) :
    state = ⟨collection.replace state.stores store, state.world⟩ := by
  rw [← hstore, hlawful.replace_store]

/-- A call on owned records, by a caller of the organization. -/
theorem Operation.after_owned [Owned ρ] {collection : Collection ρ} (hlawful : collection.Lawful)
    (haccess : collection.access context = Access.ofOwned context)
    {hold : Table ρ → Store ρ} (hbacked : Backed hold) (hcaller : context.ConfinedTo organization)
    (state : State) {table : Table ρ} (hstore : collection.store state.stores = hold table)
    (operation : Operation ρ) :
    ∃ table' world', operation.after collection context state
        = ⟨collection.replace state.stores (hold table'), world'⟩
      ∧ world'.disk = state.world.disk ∧ OthersKept organization table table' := by
  unfold Access.ofOwned Context.scope at haccess
  simp only [hcaller.session, Bool.false_eq_true, if_false, reduceCtorEq, false_and] at haccess
  rcases operation.after_cases collection context state with hread | ⟨α, write, hwrites⟩
  · exact ⟨table, state.world, hread.trans (replace_same hlawful hstore), rfl, .refl table⟩
  -- a caller that acts nowhere reaches nothing, any other one reaches its organization's records
  rcases hcaller.acting with hacting | hacting <;> rw [hacting] at haccess
  · rw [hwrites, run_write_nothing hlawful haccess write]
    exact ⟨table, state.world, replace_same hlawful hstore, rfl, .refl table⟩
  · obtain ⟨answer, table', world', hwrite, hdisk, hkept⟩ :=
      owned_confined hbacked organization table write state.world
    rw [← hstore] at hwrite
    rw [hwrites, run_write_within haccess hwrite]
    exact ⟨table', world', rfl, hdisk, hkept⟩

/-- A call on the organizations, by a caller of one of them. -/
theorem Operation.after_organizations {hold : Table Organization → Store Organization}
    (hbacked : Backed hold) (hcaller : context.ConfinedTo organization) (state : State)
    {table : Table Organization} (hstore : state.stores.organizations = hold table)
    (operation : Operation Organization) :
    ∃ table' world', operation.after organizations context state
        = ⟨{ state.stores with organizations := hold table' }, world'⟩
      ∧ world'.disk = state.world.disk
      ∧ table.Evolves (fun old new => old.id ≠ organization → new = old) (fun _ => False)
          table' := by
  have haccess : organizations.access context = Access.ofOrganizations context := rfl
  unfold Access.ofOrganizations Context.scope at haccess
  simp only [hcaller.session, hcaller.ordinary, Bool.false_eq_true, if_false, and_false] at haccess
  have hsame := replace_same organizations_lawful hstore
  rcases operation.after_cases organizations context state with hread | ⟨α, write, hwrites⟩
  · exact ⟨table, state.world, hread.trans hsame, rfl, .refl (fun _ _ => rfl) _⟩
  rcases hcaller.acting with hacting | hacting <;> rw [hacting] at haccess
  · rw [hwrites, run_write_nothing organizations_lawful haccess write]
    exact ⟨table, state.world, hsame, rfl, .refl (fun _ _ => rfl) _⟩
  · obtain ⟨answer, table', world', hwrite, hdisk, hkept⟩ :=
      itself_confined hbacked organization table write state.world
    rw [← hstore] at hwrite
    rw [hwrites, run_write_within haccess hwrite]
    exact ⟨table', world', rfl, hdisk, hkept⟩

/-- A call on the users, by a caller of the organization. -/
theorem Operation.after_users (hcaller : context.ConfinedTo organization) (state : State)
    {table : Table User} (hstore : state.stores.users = .memory table)
    (operation : Operation User) :
    ∃ table' world', operation.after users context state
        = ⟨{ state.stores with users := .memory table' }, world'⟩
      ∧ world'.disk = state.world.disk
      ∧ table.Evolves (User.KeptOutside organization) (User.OnlyIn organization) table' := by
  rcases operation.after_cases users context state with hread | ⟨α, write, hwrites⟩
  · exact ⟨table, state.world, hread.trans (replace_same users_lawful hstore), rfl,
      .refl User.KeptOutside.refl _⟩
  obtain ⟨table', ⟨hstores, hdisk⟩, hsettles⟩ := session_write_sat hcaller.session hstore write
  refine ⟨table', _, by rw [hwrites, ← hstores], hdisk, ?_⟩
  rcases hsettles with ⟨-, rfl⟩ | ⟨value, -, acting, hacting, hchange⟩
  · exact .refl User.KeptOutside.refl _
  · rcases hcaller.acting with hnone | hsome
    · exact absurd (hnone.symm.trans hacting) (by simp)
    · cases hsome.symm.trans hacting
      exact hchange.confined

/-- Records that are administered as a whole are out of reach. -/
theorem Operation.after_global [Record ρ] {collection : Collection ρ}
    (hlawful : collection.Lawful)
    (haccess : collection.access context = Access.ofGlobal context)
    (hcaller : context.ConfinedTo organization) (state : State) (operation : Operation ρ) :
    operation.after collection context state = state := by
  have hnothing : collection.access context = .nothing := by
    rw [haccess]
    unfold Access.ofGlobal Context.scope
    simp only [hcaller.session, hcaller.ordinary, Bool.false_eq_true, if_false, and_false]
    cases context.organization <;> rfl
  rcases operation.after_cases collection context state with hread | ⟨α, write, hwrites⟩
  · exact hread
  · rw [hwrites, run_write_nothing hlawful hnothing write]

end Calls

/-! ## A run of calls -/

section Runs

variable {settings : CatalogSettings} {organization : String} {context : Context}

theorem backed_sources (named : List Source) :
    Backed fun table => Stores.sourcesOver none named (.memory table) :=
  backed_layered (Layers.inert_fixed Layers.inert_nil)

theorem backed_servers (named : List Server) :
    Backed fun table => Stores.serversOver none named (.memory table) :=
  backed_layered (Layers.inert_fixed Layers.inert_nil)

theorem backed_dashboards : Backed fun table => (Catalog.dashboards none (.memory table)).store :=
  backed_layered Layers.inert_nil

theorem backed_organizations :
    Backed fun table => (Catalog.organizations none (.memory table)).store :=
  backed_layered Layers.inert_nil

/-- **The step.** A call by a caller of the organization leaves the stores over tables that are
within its bounds. -/
theorem FacadeCall.after_confined (flagSources : List Source) (flagServers : List Server)
    (tables : PrimaryTables) (world : World) (hpath : settings.resourcesPath = none)
    (hcaller : context.ConfinedTo organization) (call : FacadeCall) :
    ∃ tables' world', call.after context
          ⟨.layeredOver settings flagSources flagServers tables.stores, world⟩
        = ⟨.layeredOver settings flagSources flagServers tables'.stores, world'⟩
      ∧ world'.disk = world.disk ∧ Confined organization tables tables' := by
  let state : State := ⟨.layeredOver settings flagSources flagServers tables.stores, world⟩
  -- the call writes to one table, which evolves within the bounds, and leaves all others
  cases call with
  | sources operation =>
    obtain ⟨table', world', hafter, hdisk, hkept⟩ :=
      operation.after_owned sources_lawful rfl (hpath ▸ backed_sources flagSources) hcaller state
        rfl
    exact ⟨{ tables with sources := table' }, world', hafter, hdisk,
      { Confined.refl tables with sources := hkept }⟩
  | servers operation =>
    obtain ⟨table', world', hafter, hdisk, hkept⟩ :=
      operation.after_owned servers_lawful rfl (hpath ▸ backed_servers flagServers) hcaller state
        rfl
    exact ⟨{ tables with servers := table' }, world', hafter, hdisk,
      { Confined.refl tables with servers := hkept }⟩
  | dashboards operation =>
    obtain ⟨table', world', hafter, hdisk, hkept⟩ :=
      operation.after_owned dashboards_lawful rfl (hpath ▸ backed_dashboards) hcaller state rfl
    exact ⟨{ tables with dashboards := table' }, world', hafter, hdisk,
      { Confined.refl tables with dashboards := hkept }⟩
  | users operation =>
    obtain ⟨table', world', hafter, hdisk, hkept⟩ := operation.after_users hcaller state rfl
    exact ⟨{ tables with users := table' }, world', hafter, hdisk,
      { Confined.refl tables with users := hkept }⟩
  | organizations operation =>
    obtain ⟨table', world', hafter, hdisk, hkept⟩ :=
      operation.after_organizations (hpath ▸ backed_organizations) hcaller state rfl
    exact ⟨{ tables with organizations := table' }, world', hafter, hdisk,
      { Confined.refl tables with organizations := hkept }⟩
  | config operation =>
    exact ⟨tables, world, operation.after_global config_lawful rfl hcaller state, rfl, .refl tables⟩
  | mappings operation =>
    exact ⟨tables, world, operation.after_global mappings_lawful rfl hcaller state, rfl,
      .refl tables⟩

/-- Who acts in no organization writes nothing. -/
theorem FacadeCall.after_idle (hsession : context.isServerCall = false)
    (hordinary : context.isSuperAdmin = false) (hacting : context.organization = none)
    (state : State) (call : FacadeCall) : call.after context state = state := by
  have hidle {ρ : Type} [Record ρ] {collection : Collection ρ} (hlawful : collection.Lawful)
      (haccess : collection.access context = .nothing) (operation : Operation ρ) :
      operation.after collection context state = state := by
    rcases operation.after_cases collection context state with hread | ⟨α, write, hwrites⟩
    · exact hread
    · rw [hwrites, run_write_nothing hlawful haccess write]
  have hdenied (kind : Partition) : context.scope kind = .denied := by
    unfold Context.scope
    simp [hsession, hordinary, hacting]
  have howned {ρ : Type} [Owned ρ] : (Access.ofOwned context : Access ρ) = .nothing := by
    unfold Access.ofOwned
    rw [hdenied]
  have hglobal {ρ : Type} : (Access.ofGlobal context : Access ρ) = .nothing := by
    unfold Access.ofGlobal
    rw [hdenied]
  -- whatever the collection, its access is derived from a scope that is denied
  cases call with
  | sources operation => exact hidle sources_lawful howned operation
  | servers operation => exact hidle servers_lawful howned operation
  | dashboards operation => exact hidle dashboards_lawful howned operation
  | users operation =>
    refine hidle users_lawful ?_ operation
    show Access.ofUsers context = .nothing
    unfold Access.ofUsers
    rw [hdenied]
  | organizations operation =>
    refine hidle organizations_lawful ?_ operation
    show Access.ofOrganizations context = .nothing
    unfold Access.ofOrganizations
    rw [hdenied]
  | config operation => exact hidle config_lawful hglobal operation
  | mappings operation => exact hidle mappings_lawful hglobal operation

/-- **The run.** -/
theorem afterCalls_confined (flagSources : List Source) (flagServers : List Server)
    (tables : PrimaryTables) (world : World) (hpath : settings.resourcesPath = none)
    {calls : List (Context × FacadeCall)}
    (hcallers : ∀ call ∈ calls, call.1.ConfinedTo organization) :
    ∃ tables' world',
      State.afterCalls ⟨.layeredOver settings flagSources flagServers tables.stores, world⟩ calls
          = ⟨.layeredOver settings flagSources flagServers tables'.stores, world'⟩
      ∧ world'.disk = world.disk ∧ Confined organization tables tables' := by
  -- call by call: the stores are over tables again, and the bounds add up
  induction calls generalizing tables world with
  | nil => exact ⟨tables, world, rfl, rfl, .refl tables⟩
  | cons call rest ih =>
    obtain ⟨middle, world', hafter, hdisk, hstep⟩ :=
      call.2.after_confined flagSources flagServers tables world hpath
        (hcallers call List.mem_cons_self)
    obtain ⟨tables', world'', hrest, hdisk', hrun⟩ :=
      ih middle world' fun other h => hcallers other (.tail _ h)
    refine ⟨tables', world'', ?_, hdisk'.trans hdisk, hstep.trans hrun⟩
    rw [← hrest, ← hafter]
    rfl

/-- A run of calls by callers that act nowhere changes nothing. -/
theorem afterCalls_idle {state : State} {calls : List (Context × FacadeCall)}
    (hcallers : ∀ call ∈ calls, call.1.ConfinedTo organization ∧ call.1.organization = none) :
    state.afterCalls calls = state := by
  induction calls with
  | nil => rfl
  | cons call rest ih =>
    obtain ⟨hcaller, hacting⟩ := hcallers call List.mem_cons_self
    have hsame : call.2.after call.1 state = state :=
      call.2.after_idle hcaller.session hcaller.ordinary hacting state
    show State.afterCalls (call.2.after call.1 state) rest = state
    rw [hsame]
    exact ih fun other h => hcallers other (.tail _ h)

end Runs

/-- **Callers of one organization stay inside it.** Whatever calls they make, the stores end over
tables that differ within the bounds of the organization, and do not differ at all where nobody acts
in it. -/
theorem calls_confined {settings : CatalogSettings} {tables : PrimaryTables} {stores : Stores}
    (hassembled : Stores.assemble settings tables.stores = .ok stores)
    (hpath : settings.resourcesPath = none) {organization : String}
    {calls : List (Context × FacadeCall)}
    (hcallers : ∀ call ∈ calls, call.1.ConfinedTo organization) (world : World) :
    ∃ tables' stores' world',
      State.afterCalls ⟨stores, world⟩ calls = ⟨stores', world'⟩
        ∧ Stores.assemble settings tables'.stores = .ok stores'
        ∧ world'.disk = world.disk
        ∧ Confined organization tables tables'
        ∧ ((∀ call ∈ calls, call.1.organization = none) →
            State.afterCalls ⟨stores, world⟩ calls = ⟨stores, world⟩) := by
  obtain ⟨flagSources, flagServers, rfl, hassembles⟩ := assemble_over hassembled
  obtain ⟨tables', world', hafter, hdisk, hconfined⟩ :=
    afterCalls_confined flagSources flagServers tables world hpath hcallers
  exact ⟨tables', _, world', hafter, hassembles _, hdisk, hconfined, fun hidle =>
    afterCalls_idle fun call h => ⟨hcallers call h, hidle call h⟩⟩

namespace Tenants

/-- A source of another organization, and a user with a role here and there. -/
def tables : PrimaryTables where
  sources := Table.empty.insert
    { id := "s1", name := "theirs", kind := "influx", url := "http://localhost",
      organization := "b" }
  users := Table.empty.insert
    { id := "u1", name := "x", provider := "p", scheme := "oauth2",
      roles := [⟨"a", .viewer⟩, ⟨"b", .admin⟩] }

def caller : Context := { organization := some "a" }

/-- The source is deleted, another one is claimed for the other organization, and the user is
removed. -/
def calls : List (Context × FacadeCall) :=
  [(caller, .sources (.delete "s1")),
   (caller, .sources (.add
     { id := "s2", name := "ours", kind := "influx", url := "http://localhost",
       organization := "b" })),
   (caller, .users (.delete "u1")),
   ({}, .organizations (.delete "b"))]

end Tenants

/-- Three calls by callers of `a` and one by a caller that acts nowhere. -/
theorem calls_confined_tenants : ∃ stores tables' stores' world',
    Stores.assemble {} Tenants.tables.stores = .ok stores
      ∧ (∀ call ∈ Tenants.calls, call.1.ConfinedTo "a")
      ∧ State.afterCalls ⟨stores, { ids := fun _ => "" }⟩ Tenants.calls = ⟨stores', world'⟩
      ∧ Confined "a" Tenants.tables tables' := by
  have hassembled : Stores.assemble {} Tenants.tables.stores = .ok _ := rfl
  have hcallers : ∀ call ∈ Tenants.calls, call.1.ConfinedTo "a" := by
    intro call hcall
    simp only [Tenants.calls, List.mem_cons, List.not_mem_nil, or_false] at hcall
    rcases hcall with rfl | rfl | rfl | rfl
    · exact ⟨rfl, rfl, .inr rfl⟩
    · exact ⟨rfl, rfl, .inr rfl⟩
    · exact ⟨rfl, rfl, .inr rfl⟩
    · exact ⟨rfl, rfl, .inl rfl⟩
  obtain ⟨tables', stores', world', hafter, -, -, hconfined, -⟩ :=
    calls_confined hassembled rfl hcallers { ids := fun _ => "" }
  exact ⟨_, tables', stores', world', hassembled, hcallers, hafter, hconfined⟩

end TenantConsole
