import TenantConsole.Proofs.OrganizationCatalog
import TenantConsole.Proofs.RoleServices

/-!
# The roles of stored users

A stored user holds one role in each organization at most, and none of its roles is the wildcard.
The first is a matter of how a role is put among the others: a tenant's write replaces the role in
its organization (`User.holding`), a login grants one role for each organization. The second rests
on the organizations as well, because a submitted wildcard becomes the default role of its
organization, and a login starts from default roles; so `ProperRoles` speaks of users and of
organizations, those of the primary database and those in files.

* **`State.Proper.roleInvariant`**: proper roles are an invariant that speaks of roles, and so hold
  through the services.
* **The leaves** left over are calls on organizations (`organizations_add_upholds`,
  `organizations_delete_upholds`) and mappings. A deleted organization may lie in a file, so the
  disk changes, but only in that a file goes away.
* **`respond_proper`** puts them together for a whole request.
-/

namespace TenantConsole

open Collection Readings

/-! ## Proper roles -/

/-- One role for an organization at most, and no wildcard. -/
structure User.ProperRoles (user : User) : Prop where
  once : (user.roles.map Role.organization).Nodup
  named : ∀ role ∈ user.roles, role.name ≠ .wildcard

namespace User.ProperRoles

variable {user : User}

/-- One role that is no wildcard is proper by itself. -/
theorem single {role : Role} (hrole : role.name ≠ .wildcard) (hroles : user.roles = [role]) :
    user.ProperRoles where
  once := by simp [hroles]
  named other hother := by
    rw [hroles] at hother
    rw [List.mem_singleton.1 hother]
    exact hrole

theorem leaving (h : user.ProperRoles) (organization : String) :
    (user.leaving organization).ProperRoles where
  once := h.once.sublist (List.filter_sublist.map _)
  named role hrole := h.named role (List.mem_filter.1 hrole).1

/-- A role takes the place of the one in its organization. -/
theorem holding (h : user.ProperRoles) {role : Role} (hrole : role.name ≠ .wildcard) :
    (user.holding role).ProperRoles where
  once := by
    have hothers : ((user.rolesOutside role.organization).map Role.organization).Nodup :=
      (h.leaving role.organization).once
    show ((user.rolesOutside role.organization ++ [role]).map Role.organization).Nodup
    rw [List.map_append, List.nodup_append]
    -- the roles outside have other organizations than the one that is put behind them
    refine ⟨hothers, by simp, fun organization houtside other hother => ?_⟩
    obtain ⟨held, hheld, rfl⟩ := List.mem_map.1 houtside
    obtain ⟨-, hne⟩ := List.mem_filter.1 hheld
    rw [List.map_singleton, List.mem_singleton] at hother
    rw [hother]
    exact of_decide_eq_true hne
  named other hother := by
    rcases List.mem_append.1 hother with houtside | hsame
    · exact h.named other (List.mem_filter.1 houtside).1
    · rw [List.mem_singleton.1 hsame]
      exact hrole

end User.ProperRoles

/-- Roles of different organizations, none of them the wildcard. -/
def ProperList (roles : List Role) : Prop :=
  (roles.map Role.organization).Nodup ∧ ∀ role ∈ roles, role.name ≠ .wildcard

theorem User.properRoles_iff {user : User} : user.ProperRoles ↔ ProperList user.roles :=
  ⟨fun h => ⟨h.once, h.named⟩, fun h => ⟨h.1, h.2⟩⟩

/-- An organization whose default role can be given to somebody. -/
def Organization.Proper (organization : Organization) : Prop := organization.defaultRole ≠ .wildcard

/-- The users hold proper roles, and the organizations have proper ones to give, be they in the
primary database or in files. -/
structure ProperRoles (settings : CatalogSettings) (tables : PrimaryTables) (disk : Disk) :
    Prop where
  users : ∀ user ∈ tables.users.rows, user.ProperRoles
  organizations : ∀ organization ∈ tables.organizations.rows, organization.Proper
  overlay : ∀ path listing, settings.resourcesPath = some path →
    Folder.listing ⟨path, "org"⟩ disk = .ok listing →
    ∀ organization ∈ listing, Organization.Proper organization

/-- The stores are still put together over tables, and the roles are proper. -/
def State.Proper (premises : Premises) (state : State) : Prop :=
  ∃ tables : PrimaryTables, state.stores = premises.storesOver tables
    ∧ ProperRoles premises.settings tables state.world.disk

namespace State.Proper

variable {premises : Premises} {state after : State}

theorem users (h : state.Proper premises) :
    ∃ table, state.stores.users = .memory table ∧ ∀ user ∈ table.rows, user.ProperRoles := by
  obtain ⟨tables, hstores, hproper⟩ := h
  exact ⟨tables.users, by rw [hstores]; rfl, hproper.users⟩

/-- A state stays proper when its users are exchanged for others with proper roles. -/
theorem withUsers {table : Table User} (h : state.Proper premises)
    (hwith : state.WithUsers table after) (husers : ∀ user ∈ table.rows, user.ProperRoles) :
    after.Proper premises := by
  obtain ⟨tables, hstores, hproper⟩ := h
  refine ⟨{ tables with users := table }, ?_, ⟨husers, hproper.organizations, ?_⟩⟩
  · rw [hwith.stores, hstores]
    rfl
  · rw [hwith.disk]
    exact hproper.overlay

/-- What the catalog of organizations holds has proper default roles. -/
theorem stacked (h : state.Proper premises) {organization : Organization}
    (horganization : organization ∈ state.stores.organizations.stacked state.world.disk) :
    organization.Proper := by
  obtain ⟨tables, hstores, hproper⟩ := h
  rw [hstores] at horganization
  change organization ∈ ((Catalog.organizations premises.settings.resourcesPath
    (.memory tables.organizations)).store).stacked state.world.disk at horganization
  rw [organizations_eq, Catalog.stacked_over, List.mem_append] at horganization
  -- an organization comes from the primary table or from a file of the overlay
  rcases horganization with hrow | hbelow
  · exact hproper.organizations organization hrow
  · unfold Catalog.stackedBelow Catalog.answersBelow at hbelow
    cases hpath : premises.settings.resourcesPath with
    | none =>
      rw [hpath] at hbelow
      cases hbelow
    | some path =>
      rw [hpath] at hbelow
      cases hlisting : Folder.listing (ρ := Organization) ⟨path, "org"⟩ state.world.disk with
      | error error => simp [hlisting, Except.toOption] at hbelow
      | ok listing =>
        have hmem : organization ∈ listing := by
          simpa [hlisting, Except.toOption] using hbelow
        exact hproper.overlay path listing hpath hlisting organization hmem

/-- **Proper roles are an invariant that speaks of roles.** -/
theorem roleInvariant :
    RoleInvariant (State.Proper premises) ProperList fun role => role.name ≠ .wildcard where
  users h := by
    obtain ⟨table, hstore, husers⟩ := h.users
    exact ⟨table, hstore, fun user huser => User.properRoles_iff.1 (husers user huser)⟩
  withUsers h hwith husers :=
    h.withUsers hwith fun user huser => User.properRoles_iff.2 (husers user huser)
  unscoped h := by
    obtain ⟨tables, hstores, -⟩ := h
    rw [hstores]
    rfl
  found {state id organization} h hget := by
    have hout : (state.stores.organizations.readings state.world.disk).OutOf
        (state.stores.organizations.stacked state.world.disk) := by
      obtain ⟨tables, hstores, -⟩ := h
      rw [hstores]
      exact organizations_read_out tables state.world.disk
    obtain ⟨hmem, hid⟩ := hout.found hget
    exact ⟨hid, h.stacked hmem, fun name hname => hname⟩
  granted honce hnamed := ⟨honce, hnamed⟩
  holding {user role} huser hrole :=
    User.properRoles_iff.1 ((User.properRoles_iff.2 huser).holding hrole)

end State.Proper

/-! ## Calls on the organizations and the mappings -/

section Organizations

variable {premises : Premises}

/-- A write for super admins, from what it makes of the catalog. -/
theorem admins_write_upholds {α : Type} (context : Context) {write : Write Organization α}
    (hkind : write.kind ≠ .update) {gives : α → Prop}
    (hwrite : ∀ (tables : PrimaryTables) (world : World),
      ProperRoles premises.settings tables world.disk →
      ∃ answer table world', (premises.organizationsOver tables.organizations).write write world
          = (answer, premises.organizationsOver table, world')
        ∧ ProperRoles premises.settings { tables with organizations := table } world'.disk
        ∧ ∀ value, answer = .ok value → gives value) :
    (organizations.write context write).Upholds (State.Proper premises) gives := by
  rintro state ⟨tables, hstores, hroles⟩
  obtain ⟨answer, table, world', hmade, hproper, hgives⟩ := hwrite tables state.world hroles
  rcases admins_write context hkind hstores hmade with ⟨error, hrefused⟩ | hwritten
  · rw [hrefused]
    exact ⟨⟨tables, hstores, hroles⟩, nofun⟩
  · rw [hwritten]
    exact ⟨⟨_, rfl, hproper⟩, hgives⟩

/-- An organization that is added can give what it was submitted with. -/
theorem organizations_add_upholds (context : Context) {organization : Organization}
    (horganization : organization.Proper) :
    (organizations.add context organization).Upholds (State.Proper premises)
      Organization.Proper := by
  have hkind : (Write.add organization).kind ≠ .update := nofun
  refine admins_write_upholds context hkind fun tables world hroles => ?_
  obtain ⟨answer, table, world', hmade, hdisk, hsettled⟩ :=
    Catalog.over_add organization world
  refine ⟨answer, table, world', hmade, ?_⟩
  simp only at hdisk hsettled
  -- refused, the table is as it was; added, it has one row more
  rcases hsettled with ⟨⟨error, rfl⟩, rfl⟩ | ⟨value, rfl, drawn, rfl, -, rfl⟩
  · exact ⟨⟨hroles.users, hroles.organizations, hdisk ▸ hroles.overlay⟩, nofun⟩
  · have hnamed : Organization.Proper (drawn.named organization) := by
      unfold World.named
      split <;> exact horganization
    refine ⟨⟨hroles.users, fun other hother => ?_, hdisk ▸ hroles.overlay⟩, fun _ h => ?_⟩
    · rcases Table.mem_putRow hother with rfl | hrow
      · exact hnamed
      · exact hroles.organizations other hrow
    · cases h
      exact hnamed

/-- A deletion brings no organization in, neither from the table nor from a file. -/
theorem organizations_delete_upholds (context : Context) (id : String) :
    (organizations.delete context id).Upholds (State.Proper premises) fun _ => True := by
  have hkind : (Write.delete id : Write Organization Unit).kind ≠ .update := nofun
  refine admins_write_upholds context hkind fun tables world hroles => ?_
  obtain ⟨answer, table, world', hmade, hrows, hlisted⟩ :=
    Catalog.over_delete (ρ := Organization) id world
  refine ⟨answer, table, world', hmade, ⟨hroles.users, ?_, ?_⟩, fun _ _ => trivial⟩
  · exact fun organization h => hroles.organizations organization (hrows organization h)
  · intro path after hpath hafter organization horganization
    obtain ⟨before, hbefore, hmem⟩ := hlisted path hpath hafter organization horganization
    exact hroles.overlay path before hpath hbefore organization hmem

/-- Mappings have no roles and name no default role, so any write to them will do. -/
theorem mappings_write_upholds {α : Type} (context : Context) (write : Write Mapping α) :
    (mappings.write context write).Upholds (State.Proper premises) fun _ => True := by
  rintro state ⟨tables, hstores, hroles⟩
  have hstore : state.stores.mappings = .memory tables.mappings := by
    rw [hstores]
    rfl
  obtain ⟨table, ⟨hafter, hdisk⟩, -⟩ := mappings_write_sat context hstore write
  refine ⟨⟨{ tables with mappings := table }, ?_, ⟨hroles.users, hroles.organizations, ?_⟩⟩,
    fun _ _ => trivial⟩
  · rw [hafter, hstores]
    rfl
  · rw [hdisk]
    exact hroles.overlay

end Organizations

/-! ## Organizations as services -/

section Services

variable {premises : Premises} {context : Context}

/-- Creating an organization refuses a default role that is the wildcard, and enrols the creator as
its admin. -/
theorem createOrganization_upholds (hsession : context.isServerCall = false)
    (organization : Organization) :
    (Organizations.create context organization).Upholds (State.Proper premises)
      fun _ => True := by
  unfold Organizations.create
  split
  · exact .fail
  split
  · exact .fail
  · rename_i hproper
    have hadmin : RoleName.admin ≠ .wildcard := nofun
    exact .bind (organizations_add_upholds context hproper).orFail fun created _ =>
      .bind (enrolCreator_upholds State.Proper.roleInvariant hsession hadmin) fun _ _ =>
        .pure trivial

/-- The pass over the users takes roles away and brings none in. -/
theorem stripRoles_upholds (id : String) {listed : List User}
    (hlisted : ∀ user ∈ listed, ProperList user.roles) :
    (Organizations.stripRoles id listed).Upholds (State.Proper premises) fun _ => True := by
  induction listed with
  | nil => exact .pure trivial
  | cons user rest ih =>
    have huser : user.ProperRoles := User.properRoles_iff.2 (hlisted user List.mem_cons_self)
    have hleaving : ProperList (user.leaving id).roles := User.properRoles_iff.1 (huser.leaving id)
    have hrest := ih fun other h => hlisted other (List.mem_cons_of_mem user h)
    unfold Organizations.stripRoles
    split
    · exact .bind (server_update_upholds State.Proper.roleInvariant hleaving).orFail
        fun _ _ => hrest
    · exact hrest

/-- The pass over the mappings only deletes mappings. -/
theorem dropMappings_upholds (id : String) (listed : List Mapping) :
    (Organizations.dropMappings id listed).Upholds (State.Proper premises) fun _ => True := by
  induction listed with
  | nil => exact .pure trivial
  | cons mapping rest ih =>
    unfold Organizations.dropMappings
    split
    · exact .bind (mappings_write_upholds .server (.delete mapping.id)).orFail fun _ _ => ih
    · exact ih

/-- Deleting an organization is a deletion and two passes, and each of them keeps the roles
proper. -/
theorem deleteOrganization_upholds (context : Context) (id : String) :
    (Organizations.delete context id).Upholds (State.Proper premises) fun _ => True := by
  unfold Organizations.delete
  refine .after_reading (get_readOnly _ _ _).orFail fun organization => ?_
  split
  · exact .fail
  refine .bind (organizations_delete_upholds context id).orFail fun _ _ => ?_
  -- the users are listed when the organization is gone, and proper then too
  refine .bind (users_all_upholds State.Proper.roleInvariant).orFail fun listed hlisted => ?_
  refine .bind (stripRoles_upholds id hlisted) fun _ _ => ?_
  exact .after_reading (all_readOnly _ _).orFail fun found => dropMappings_upholds id found

/-- A mapping is checked, looked up and added, and no role is written. -/
theorem createMapping_upholds (request : Request) :
    (Console.createMapping context request).Upholds (State.Proper premises) fun _ => True := by
  unfold Console.createMapping
  refine .after_reading (.ofExcept _) fun mapping => ?_
  split
  · exact .fail
  · exact .after_reading (get_readOnly _ _ _).orFail fun _ =>
      .bind (mappings_write_upholds context (.add mapping)).orFail fun _ _ => .pure trivial

/-- Proper roles go through every call on the catalog that a request can make. -/
theorem State.Proper.catalogCalls :
    CatalogCalls (State.Proper premises) (State.Proper premises) where
  kept h := h
  mapped _ request := createMapping_upholds request
  created hsession h organization := (createOrganization_upholds hsession organization).sat id h
  deleted {context _} _ h target := (deleteOrganization_upholds context target).sat id h

/-- **A request keeps roles proper**, whoever it is from. -/
theorem respond_proper (console : Console) (h : console.state.Proper premises)
    (request : Request) : (console.respond request).2.state.Proper premises :=
  respond_keeps State.Proper.roleInvariant State.Proper.catalogCalls console h request

end Services

end TenantConsole
