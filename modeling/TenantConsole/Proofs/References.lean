import TenantConsole.Proofs.Sweeps
import TenantConsole.Proofs.UserRecords

/-!
# References to organizations

Every role of a stored user and every mapping names an organization. That the catalog finds it is
kept up by two things, one for each way in which it could come to fail.

* **What comes in has been looked up.** A submitted role and a granted one belong to an organization
  that the console has found, the role of a creator to the organization that has just been added,
  and a mapping to one that its creator has found (`State.Refers.roleInvariant`).
* **What goes away is swept.** Deleting an organization takes one layer's copy of it, and then its
  roles and its mappings, whether or not another layer still has it (`sweep_clears`).

`known` is what the catalog finds. It is fixed while a service runs, grows when an organization is
created (`createOrganization_refers`), and loses at most one id when one is deleted, never that of
the default organization (`deleteOrganization_refers`). The run is in `references_resolve`.
-/

namespace TenantConsole

open Collection Readings

/-- A record is found under this id. -/
def Readings.Finds {ρ : Type} (readings : Readings ρ) (id : String) : Prop :=
  ∃ record, readings.get id = .ok record

section Finding

variable {ρ : Type} [Record ρ] {readings readings' : Readings ρ} {id : String}
  {old new before after : List ρ}

theorem Readings.OutOf.finds_iff {records : List ρ} (h : readings.OutOf records) :
    readings.Finds id ↔ (firstWithId id records).isSome := by
  rw [Option.isSome_iff_exists]
  exact exists_congr fun record => h.get_eq_ok_iff

/-- A swap changes nothing for the other ids. -/
theorem Readings.Swaps.finds_away (h : Swaps id old new before after)
    (hbefore : readings.OutOf before) (hafter : readings'.OutOf after) {other : String}
    (hother : other ≠ id) : readings'.Finds other ↔ readings.Finds other := by
  rw [hbefore.finds_iff, hafter.finds_iff, h.first_away hother]

theorem Readings.Swaps.finds_new {record : ρ} (h : Swaps id old (record :: new) before after)
    (hafter : readings'.OutOf after) : readings'.Finds id := by
  rw [hafter.finds_iff, h.first_after]
  rfl

end Finding

/-- Every role of a stored user and every mapping names an organization that is found. -/
structure Referential (tables : PrimaryTables) (organizations : Readings Organization) :
    Prop where
  roles : ∀ user ∈ tables.users.rows, ∀ role ∈ user.roles, organizations.Finds role.organization
  mappings : ∀ mapping ∈ tables.mappings.rows, organizations.Finds mapping.organization

/-- The catalog of organizations finds this id. -/
def State.Finds (state : State) (id : String) : Prop :=
  (state.stores.organizations.readings state.world.disk).Finds id

/-- The stores are put together over these tables, the catalog finds the known organizations and no
other, and all references are to these. -/
structure State.Refers (premises : Premises) (known : String → Prop) (tables : PrimaryTables)
    (state : State) : Prop where
  stores : state.stores = premises.storesOver tables
  names : state.world.disk.NamesOnce
  finds : ∀ id, state.Finds id ↔ known id
  roles : ∀ user ∈ tables.users.rows, ∀ role ∈ user.roles, known role.organization
  mappings : ∀ mapping ∈ tables.mappings.rows, known mapping.organization

/-- The references are to organizations that the catalog finds, as is the default one. -/
def State.Referential (premises : Premises) (state : State) : Prop :=
  ∃ known : String → Prop, known Organization.defaultId
    ∧ ∃ tables, state.Refers premises known tables

namespace State.Refers

variable {premises : Premises} {known : String → Prop} {tables : PrimaryTables}
  {state after : State}

/-- References stay good when the users are exchanged for others with roles in known
organizations. -/
theorem withUsers {table : Table User} (h : state.Refers premises known tables)
    (hwith : state.WithUsers table after)
    (husers : ∀ user ∈ table.rows, ∀ role ∈ user.roles, known role.organization) :
    after.Refers premises known { tables with users := table } where
  stores := by
    rw [hwith.stores, h.stores]
    rfl
  names := hwith.disk ▸ h.names
  finds id := by
    rw [← h.finds id, State.Finds, State.Finds, hwith.stores, hwith.disk]
  roles := husers
  mappings := h.mappings

theorem withMappings {table : Table Mapping} (h : state.Refers premises known tables)
    (hwith : state.WithMappings table after)
    (hmappings : ∀ mapping ∈ table.rows, known mapping.organization) :
    after.Refers premises known { tables with mappings := table } where
  stores := by
    rw [hwith.stores, h.stores]
    rfl
  names := hwith.disk ▸ h.names
  finds id := by
    rw [← h.finds id, State.Finds, State.Finds, hwith.stores, hwith.disk]
  roles := h.roles
  mappings := hmappings

theorem users (h : state.Refers premises known tables) :
    state.stores.users = .memory tables.users := by
  rw [h.stores]
  rfl

theorem outOf (h : state.Refers premises known tables) :
    (state.stores.organizations.readings state.world.disk).OutOf
      (state.stores.organizations.stacked state.world.disk) := by
  rw [h.stores]
  exact organizations_read_out tables state.world.disk

/-- **References are an invariant that speaks of roles**: those in known organizations are good. -/
theorem roleInvariant :
    RoleInvariant (fun state => ∃ tables, state.Refers premises known tables)
      (fun roles => ∀ role ∈ roles, known role.organization)
      (fun role => known role.organization) where
  users := by
    rintro state ⟨tables, h⟩
    exact ⟨tables.users, h.users, h.roles⟩
  withUsers := by
    rintro state after table ⟨tables, h⟩ hwith husers
    exact ⟨_, h.withUsers hwith husers⟩
  unscoped := by
    rintro state ⟨tables, h⟩
    rw [h.stores]
    rfl
  found := by
    rintro state id organization ⟨tables, h⟩ hget
    obtain ⟨-, hid⟩ := h.outOf.found hget
    have hknown : known organization.id := by
      rw [show organization.id = id from hid]
      exact (h.finds id).1 ⟨organization, hget⟩
    exact ⟨hid, hknown, fun _ _ => hknown⟩
  granted _ hroles := hroles
  holding {user role} huser hrole other hother := by
    rcases List.mem_append.1 hother with houtside | hsame
    · exact huser other (List.mem_filter.1 houtside).1
    · rw [List.mem_singleton.1 hsame]
      exact hrole

end State.Refers

/-! ## Mappings -/

section Services

variable {premises : Premises} {known : String → Prop} {tables : PrimaryTables} {context : Context}
  {state : State}

theorem Mapping.organization_named (mapping : Mapping) (world : World) :
    (world.named mapping).organization = mapping.organization := by
  unfold World.named
  split <;> rfl

/-- A mapping comes in once its organization has been looked up. -/
theorem mappings_add_refers (h : state.Refers premises known tables) {mapping : Mapping}
    (hmapping : known mapping.organization) :
    (mappings.add context mapping).Sat state fun _ after =>
      ∃ tables, after.Refers premises known tables := by
  have hstore : state.stores.mappings = .memory tables.mappings := by
    rw [h.stores]
    rfl
  refine (mappings_write_sat context hstore (.add mapping)).mono ?_
  rintro _ after ⟨table, hwith, rfl | ⟨value, -, world, rfl, -, rfl⟩⟩
  · exact ⟨_, h.withMappings hwith h.mappings⟩
  · refine ⟨_, h.withMappings hwith fun other hother => ?_⟩
    rcases Table.mem_putRow hother with rfl | hrow
    · rw [Mapping.organization_named]
      exact hmapping
    · exact h.mappings other hrow

/-- A mapping is added only if its organization has been found. -/
theorem createMapping_refers (request : Request) :
    (Console.createMapping context request).Upholds
      (fun state => ∃ tables, state.Refers premises known tables) fun _ => True := by
  rintro state ⟨tables, h⟩
  refine ⟨?_, fun _ _ => trivial⟩
  have hkept : ∃ tables, state.Refers premises known tables := ⟨tables, h⟩
  show (Console.createMapping context request).Sat state fun _ after =>
    ∃ tables, after.Refers premises known tables
  unfold Console.createMapping
  refine .after_reading (.ofExcept _) (fun mapping _ => ?_) fun _ _ => hkept
  split
  · exact hkept
  refine .after_reading (get_readOnly _ _ _).orFail (fun organization hfound => ?_) fun _ _ => hkept
  have hmapping : known mapping.organization :=
    (h.finds _).1 ⟨organization, get_organizations (Script.ok_of_orFail hfound)⟩
  refine .then_reading ?_ fun _ => .pure _
  rw [Script.sat_orFail]
  exact mappings_add_refers h hmapping

/-! ## Creating an organization -/

/-- What the catalog finds once it has been written to. -/
theorem finds_over {table : Table Organization} {world : World} {id : String} :
    State.Finds ⟨premises.storesOver { tables with organizations := table }, world⟩ id
      ↔ ((premises.organizationsOver table).readings world.disk).Finds id := by
  rw [State.Finds, organizations_over]

theorem State.Refers.finds_organizations (h : state.Refers premises known tables) (id : String) :
    ((premises.organizationsOver tables.organizations).readings state.world.disk).Finds id
      ↔ known id := by
  rw [← h.finds id, State.Finds, h.stores, organizations_over]

/-- **An organization that is added becomes known.** -/
theorem State.Refers.added (h : state.Refers premises known tables) {world : World}
    (hnames : world.disk.NamesOnce) {table : Table Organization} {created : Organization}
    (hswaps : Swaps created.id [] [created]
      ((premises.organizationsOver tables.organizations).stacked state.world.disk)
      ((premises.organizationsOver table).stacked world.disk)) :
    State.Refers premises (fun id => id = created.id ∨ known id)
      { tables with organizations := table }
      ⟨premises.storesOver { tables with organizations := table }, world⟩ where
  stores := rfl
  names := hnames
  finds id := by
    rw [finds_over]
    -- under the new id the new organization is found, under any other what was found before
    by_cases hid : id = created.id
    · rw [hid]
      have hfound := hswaps.finds_new (Catalog.over_outOf table world.disk)
      exact ⟨fun _ => .inl rfl, fun _ => hfound⟩
    · have haway := hswaps.finds_away (Catalog.over_outOf tables.organizations state.world.disk)
        (Catalog.over_outOf table world.disk) hid
      rw [haway, h.finds_organizations]
      exact ⟨.inr, fun hknown => hknown.resolve_left hid⟩
  roles user huser role hrole := .inr (h.roles user huser role hrole)
  mappings mapping hmapping := .inr (h.mappings mapping hmapping)

/-- Adding an organization is refused, or makes its id known. -/
theorem organizations_add_refers (context : Context)
    (h : state.Refers premises known tables) (organization : Organization) :
    (organizations.add context organization).Sat state fun answer after =>
      (∃ error, answer = .error error) ∧ (∃ tables, after.Refers premises known tables)
        ∨ ∃ created, answer = .ok created
          ∧ ∃ tables, after.Refers premises (fun id => id = created.id ∨ known id) tables := by
  have hkind : (Write.add organization).kind ≠ .update := by simp [Write.kind]
  obtain ⟨answer, table, world, hmade, hnames, hcases⟩ :=
    Catalog.over_write (.add organization) h.names fun h => absurd h hkind
  show (organizations.write context (.add organization)).Sat state _
  unfold Script.Sat
  rcases admins_write context hkind h.stores hmade with ⟨error, hrefused⟩ | hwritten
  · rw [hrefused]
    exact .inl ⟨⟨error, rfl⟩, tables, h⟩
  rw [hwritten]
  -- refused by the catalog or carried out; either way the disk names its entries once
  rcases hcases with ⟨hrefused, rfl, hdisk⟩ | ⟨created, old, new, rfl, hexchange, hswaps⟩
  · refine .inl ⟨hrefused, _, ⟨rfl, hnames, fun id => ?_, h.roles, h.mappings⟩⟩
    rw [finds_over, hdisk, h.finds_organizations]
  · obtain ⟨rfl, rfl, -⟩ := hexchange.of_add
    exact .inr ⟨created, rfl, _, h.added hnames hswaps⟩

/-- **What is created is known**, and its creator's role is in it. -/
theorem createOrganization_refers (hsession : context.isServerCall = false)
    (hdefault : known Organization.defaultId) (h : state.Refers premises known tables)
    (organization : Organization) :
    (Organizations.create context organization).Sat state fun _ after =>
      after.Referential premises := by
  unfold Organizations.create
  split
  · exact ⟨known, hdefault, tables, h⟩
  split
  · exact ⟨known, hdefault, tables, h⟩
  rw [Script.sat_bind, Script.sat_orFail]
  refine (organizations_add_refers context h organization).mono ?_
  rintro _ after (⟨⟨error, rfl⟩, hafter⟩ | ⟨created, rfl, hafter⟩)
  · exact ⟨known, hdefault, hafter⟩
  · -- from here on the new organization counts as known, so its creator's role does not dangle
    let known' : String → Prop := fun id => id = created.id ∨ known id
    have hadmin : known' created.id := .inl rfl
    refine Script.Sat.then_reading ?_ fun _ => .pure _
    have hgood := @State.Refers.roleInvariant premises known'
    have henrolled := enrolCreator_upholds hgood hsession hadmin
    exact henrolled.sat (fun hrefers => ⟨known', .inr hdefault, hrefers⟩) hafter

/-! ## Deleting an organization -/

/-- Deleting an organization is refused, or leaves what is known of the others. -/
theorem organizations_delete_refers (context : Context)
    (h : state.Refers premises known tables) (id : String) :
    (organizations.delete context id).Sat state fun answer after =>
      (∃ error, answer = .error error) ∧ (∃ tables, after.Refers premises known tables)
        ∨ ∃ value, answer = .ok value ∧ after.world.disk.NamesOnce
          ∧ (∃ table, after.stores = premises.storesOver { tables with organizations := table })
          ∧ ∀ other, other ≠ id → (after.Finds other ↔ known other) := by
  have hkind : (Write.delete id : Write Organization Unit).kind ≠ .update := nofun
  obtain ⟨answer, table, world, hmade, hnames, hcases⟩ :=
    Catalog.over_write (.delete id) h.names fun h => absurd h hkind
  show (organizations.write context (.delete id)).Sat state _
  unfold Script.Sat
  rcases admins_write context hkind h.stores hmade with ⟨error, hrefused⟩ | hwritten
  · rw [hrefused]
    exact .inl ⟨⟨error, rfl⟩, tables, h⟩
  rw [hwritten]
  rcases hcases with ⟨hrefused, rfl, hdisk⟩ | ⟨value, old, new, rfl, hexchange, hswaps⟩
  · refine .inl ⟨hrefused, _, ⟨rfl, hnames, fun id => ?_, h.roles, h.mappings⟩⟩
    rw [finds_over, hdisk, h.finds_organizations]
  · refine .inr ⟨value, rfl, hnames, ⟨table, rfl⟩, fun other hother => ?_⟩
    have haway := hswaps.finds_away (Catalog.over_outOf tables.organizations state.world.disk)
      (Catalog.over_outOf table world.disk) hother
    rw [finds_over, haway, h.finds_organizations]

/-- Who has left an organization keeps its roles elsewhere and no other. -/
theorem User.organization_ne_of_mem_leaving {user : User} {id : String} {role : Role}
    (hrole : role ∈ (user.leaving id).roles) : role ∈ user.roles ∧ role.organization ≠ id := by
  obtain ⟨hmem, hne⟩ := List.mem_filter.1 hrole
  exact ⟨hmem, of_decide_eq_true hne⟩

/-- **What the sweep leaves.** It goes through, and what holds of every user that has left and of
every mapping that leads elsewhere holds of all that is left. -/
theorem sweep_clears {users : Table User} {mappings : Table Mapping} (id : String)
    (cleanUser : User → Prop) (cleanMapping : Mapping → Prop)
    (husers : state.stores.users = .memory users)
    (hmappings : state.stores.mappings = .memory mappings)
    (hroles : ∀ user ∈ users.rows, cleanUser (user.leaving id))
    (hmapped : ∀ mapping ∈ mappings.rows, mapping.organization ≠ id → cleanMapping mapping) :
    Script.Sat (do
        Organizations.stripRoles id (← (Collection.users.all .server).orFail .store)
        Organizations.dropMappings id (← (Collection.mappings.all .server).orFail .store))
      state fun answer after => answer = .ok () ∧ ∃ users' mappings',
        after.stores = { state.stores with
          users := .memory users', mappings := .memory mappings' }
        ∧ after.world.disk = state.world.disk ∧ (∀ user ∈ users'.rows, cleanUser user)
        ∧ ∀ mapping ∈ mappings'.rows, cleanMapping mapping := by
  obtain ⟨users', mappings', hleft, hkept, hrun⟩ := run_sweep id husers hmappings
  unfold Script.Sat
  rw [hrun]
  -- both rows that are left come from rows that were swept
  refine ⟨rfl, users', mappings', rfl, rfl, fun user huser => ?_, fun mapping hmapping => ?_⟩
  · rw [hleft] at huser
    obtain ⟨before, hbefore, rfl⟩ := List.mem_map.1 huser
    exact hroles before hbefore
  · rw [hkept] at hmapping
    obtain ⟨hmem, helsewhere⟩ := List.mem_filter.1 hmapping
    exact hmapped mapping hmem (of_decide_eq_true helsewhere)

/-- Once an organization is gone from the catalog, or one layer's copy of it is, its roles and its
mappings go. Whether the catalog still finds it makes no difference. -/
theorem sweep_refers {deleted : State} {table : Table Organization} {id : String}
    (hdefault : known Organization.defaultId) (h : state.Refers premises known tables)
    (hother : Organization.defaultId ≠ id)
    (hnames : deleted.world.disk.NamesOnce)
    (hstores : deleted.stores = premises.storesOver { tables with organizations := table })
    (hfinds : ∀ other, other ≠ id → (deleted.Finds other ↔ known other)) :
    Script.Sat (do
        Organizations.stripRoles id (← (users.all .server).orFail .store)
        Organizations.dropMappings id (← (mappings.all .server).orFail .store))
      deleted fun _ after => after.Referential premises := by
  have husers : deleted.stores.users = .memory tables.users := by
    rw [hstores]
    rfl
  have hmappings : deleted.stores.mappings = .memory tables.mappings := by
    rw [hstores]
    rfl
  have hswept := sweep_clears id
    (fun user => ∀ role ∈ user.roles, deleted.Finds role.organization)
    (fun mapping => deleted.Finds mapping.organization) husers hmappings
    (fun user huser role hrole => by
      obtain ⟨hmem, hne⟩ := User.organization_ne_of_mem_leaving hrole
      exact (hfinds _ hne).2 (h.roles user huser role hmem))
    (fun mapping hmapping hne => (hfinds _ hne).2 (h.mappings mapping hmapping))
  refine hswept.mono ?_
  rintro _ after ⟨-, users', mappings', hafter, hdisk, hroles, hclean⟩
  refine ⟨deleted.Finds, (hfinds _ hother).2 hdefault, { tables with
    organizations := table, users := users', mappings := mappings' }, ?_⟩
  refine ⟨?_, hdisk ▸ hnames, fun other => ?_, hroles, hclean⟩
  · rw [hafter, hstores]
    rfl
  · rw [State.Finds, State.Finds, hafter, hdisk]

/-- **What is deleted leaves no reference behind**, and it is not the default organization. -/
theorem deleteOrganization_refers (context : Context)
    (hdefault : known Organization.defaultId) (h : state.Refers premises known tables)
    (id : String) :
    (Organizations.delete context id).Sat state fun _ after =>
      after.Referential premises := by
  unfold Organizations.delete
  refine .after_reading (get_readOnly _ _ _).orFail (fun organization hfound => ?_)
    fun _ _ => ⟨known, hdefault, tables, h⟩
  split
  · exact ⟨known, hdefault, tables, h⟩
  rename_i hordinary
  -- the organization that was found has the id that was asked for, so it is not the default one
  have hid : organization.id = id :=
    (h.outOf.found (get_organizations (Script.ok_of_orFail hfound))).2
  have hother : Organization.defaultId ≠ id := (ne_defaultId_of_ordinary hid hordinary).symm
  rw [Script.sat_bind, Script.sat_orFail]
  refine (organizations_delete_refers context h id).mono ?_
  rintro _ deleted (⟨⟨error, rfl⟩, hafter⟩ | ⟨value, rfl, hnames, ⟨table, hstores⟩, hfinds⟩)
  · exact ⟨known, hdefault, hafter⟩
  · exact sweep_refers hdefault h hother hnames hstores hfinds

/-- Good references go through every call on the catalog that a request can make. -/
theorem State.Refers.catalogCalls (hdefault : known Organization.defaultId) :
    CatalogCalls (fun state => ∃ tables, state.Refers premises known tables)
      (State.Referential premises) where
  kept h := ⟨known, hdefault, h⟩
  mapped _ request := createMapping_refers request
  created hsession h organization := by
    obtain ⟨tables, h⟩ := h
    exact createOrganization_refers hsession hdefault h organization
  deleted {context _} _ h id := by
    obtain ⟨tables, h⟩ := h
    exact deleteOrganization_refers context hdefault h id

end Services

/-! ## Runs -/

section Runs

variable {premises : Premises}

/-- An organization that is not found has no row in the table either. -/
theorem organization_free (premises : Premises) {table : Table Organization} (world : World)
    {id : String} (h : ¬ ((premises.organizationsOver table).readings world.disk).Finds id) :
    table.get? id = none := by
  rw [(Catalog.over_outOf table world.disk).finds_iff, Catalog.stacked_over] at h
  unfold firstWithId at h
  rw [List.find?_append] at h
  cases hheld : table.get? id with
  | none => rfl
  | some row =>
    unfold Table.get? at hheld
    rw [hheld] at h
    exact absurd rfl h

/-- An organization that is not known can be added under its own id. -/
theorem State.Refers.write_unknown {known : String → Prop} {tables : PrimaryTables} {state : State}
    (h : state.Refers premises known tables) {organization : Organization}
    (hid : organization.id ≠ "") (hunknown : ¬ known organization.id) :
    ∃ table world, state.stores.organizations.write (.add organization) state.world
        = (.ok organization, premises.organizationsOver table, world)
      ∧ State.Refers premises (fun id => id = organization.id ∨ known id)
        { tables with organizations := table }
        ⟨premises.storesOver { tables with organizations := table }, world⟩ := by
  have hnamed : state.world.named organization = organization := by
    have hlacks : World.lacksId organization = false := decide_eq_false hid
    simp only [World.named, hlacks, Bool.false_eq_true, if_false]
  have hfree : tables.organizations.get? (Record.id (state.world.named organization)) = none := by
    rw [hnamed]
    exact organization_free premises state.world fun hfound =>
      hunknown ((h.finds_organizations _).1 hfound)
  have hkind : (Write.add organization).kind ≠ .update := by simp [Write.kind]
  have hsettles : Catalog.SettlesOver "organizations" premises.settings.resourcesPath "org" []
      tables.organizations (.add organization) state.world :=
    Catalog.over_write (.add organization) h.names fun h => absurd h hkind
  obtain ⟨answer, table, world, hmade, hnames, hcases⟩ := hsettles
  have hanswer : Except.ok (state.world.named organization) = answer :=
    congrArg Prod.fst ((Catalog.over_add_free hfree).symm.trans hmade)
  rcases hcases with ⟨⟨refusal, rfl⟩, -, -⟩ | ⟨created, old, new, rfl, hexchange, hswaps⟩
  · cases hanswer
  · cases hanswer
    obtain ⟨rfl, rfl, -⟩ := hexchange.of_add
    rw [hnamed] at hmade hswaps
    refine ⟨table, world, ?_, h.added hnames hswaps⟩
    rw [h.stores, organizations_over]
    exact hmade

/-- **The default organization is found, or there is room for it in the table.** -/
theorem ensure_organization {known : String → Prop} {tables : PrimaryTables} {state : State}
    (h : state.Refers premises known tables) :
    State.Referential premises (organizations.change .server state fun store world =>
      store.ensure Organization.initial world).2 := by
  have hseen : organizations.seen .server state = state.stores.organizations := rfl
  have hinitial : Record.id Organization.initial = Organization.defaultId := rfl
  unfold Collection.change Store.ensure
  simp only [hseen, hinitial]
  cases hget :
      (state.stores.organizations.readings state.world.disk).get Organization.defaultId with
  -- it is there already, in the table or in a file
  | ok found =>
    have hfinds : state.Finds Organization.defaultId := ⟨found, hget⟩
    exact ⟨known, (h.finds _).1 hfinds, tables, h⟩
  | error error =>
    have hmissing : error.isNotFound = true := by
      rw [h.outOf.get] at hget
      revert hget
      cases firstWithId Organization.defaultId (state.stores.organizations.stacked state.world.disk)
        <;> rintro ⟨⟩
      rfl
    have hunknown : ¬ known Organization.initial.id := by
      intro hknown
      obtain ⟨found, hok⟩ := (h.finds _).2 hknown
      cases hget.symm.trans hok
    obtain ⟨table, world, hwrite, hadded⟩ := h.write_unknown (by decide) hunknown
    simp only [hmissing, if_true, hwrite]
    refine ⟨fun id => id = Organization.initial.id ∨ known id, .inl rfl,
      { tables with organizations := table }, ?_⟩
    show State.Refers premises _ _ ⟨organizations.replace state.stores
      (premises.organizationsOver table), world⟩
    rw [h.stores, replace_organizations]
    exact hadded

/-- What comes to stand in a table leaves the disk alone. -/
theorem ensure_memory {ρ : Type} [Record ρ] (table : Table ρ) (record : ρ) (world : World) :
    ∃ answer table' world', (Store.memory table).ensure record world
        = (answer, .memory table', world')
      ∧ world'.disk = world.disk := by
  unfold Store.ensure
  split
  · exact ⟨_, table, world, rfl, rfl⟩
  · split
    · exact ⟨_, _, _, rfl, (table.write_settles (.add record) world).1⟩
    · exact ⟨_, table, world, rfl, rfl⟩

/-- The configuration at the start is no reference. -/
theorem ensure_config {state : State} (h : state.Referential premises) :
    State.Referential premises (config.change .server state fun store world =>
      store.ensure {} world).2 := by
  obtain ⟨known, hdefault, tables, h⟩ := h
  have hseen : config.seen .server state = .memory tables.config := by
    unfold Collection.seen
    rw [h.stores]
    rfl
  obtain ⟨answer, table, world, hensured, hdisk⟩ := ensure_memory tables.config {} state.world
  unfold Collection.change
  simp only [hseen, hensured]
  refine ⟨known, hdefault, { tables with config := table }, ⟨?_, hdisk ▸ h.names, fun id => ?_,
    h.roles, h.mappings⟩⟩
  · show config.replace state.stores _ = _
    rw [h.stores]
    rfl
  · rw [← h.finds id]
    show ((state.stores.organizations.readings world.disk).Finds id) ↔ _
    rw [hdisk]
    rfl

/-- **The start.** -/
theorem startUp_referential {console : Console} {tables : PrimaryTables}
    (hstores : console.state.stores = premises.storesOver tables)
    (hnames : console.state.world.disk.NamesOnce)
    (h : Referential tables
      (console.state.stores.organizations.readings console.state.world.disk)) :
    console.startUp.2.2.security = console.security
      ∧ console.startUp.2.2.state.Referential premises := by
  have hrefers : console.state.Refers premises console.state.Finds tables :=
    ⟨hstores, hnames, fun _ => Iff.rfl, h.roles, h.mappings⟩
  exact ⟨rfl, ensure_config (ensure_organization hrefers)⟩

/-- **The step.** -/
theorem respond_referential (console : Console) (h : console.state.Referential premises)
    (request : Request) : (console.respond request).2.state.Referential premises := by
  obtain ⟨known, hdefault, hrefers⟩ := h
  exact respond_keeps State.Refers.roleInvariant (State.Refers.catalogCalls hdefault) console
    hrefers request

/-- **The run.** -/
theorem respondAll_referential (console : Console) (h : console.state.Referential premises)
    (requests : List Request) : (console.respondAll requests).2.security = console.security
      ∧ (console.respondAll requests).2.state.Referential premises := by
  -- what is known may change with each request, that references are good does not
  induction requests generalizing console with
  | nil => exact ⟨rfl, h⟩
  | cons request rest ih =>
    have hstep := respond_referential console h request
    obtain ⟨known, -, tables, hrefers⟩ := h
    have hsecurity := (respond_effect console hrefers.users request).1
    obtain ⟨hsecurity', hrest⟩ := ih (console.respond request).2 hstep
    exact ⟨hsecurity'.trans hsecurity, hrest⟩

/-- **References resolve for good.** Let the stores be put together over tables, with or without a
directory for records, so that the catalog of organizations finds the organization of every role and
every mapping, and let the console start. After any run of requests it still does, and it finds the
default organization. The disk names the entries of a directory once. -/
theorem references_resolve {settings : CatalogSettings} {tables : PrimaryTables} {stores : Stores}
    (hassembled : Stores.assemble settings tables.stores = .ok stores) {world : World}
    (hnames : world.disk.NamesOnce)
    (href : Referential tables (stores.organizations.readings world.disk))
    (security : SecuritySettings) (requests : List Request) :
    ∃ tables' stores' world',
      ((Console.startUp ⟨security, ⟨stores, world⟩⟩).2.2.respondAll requests).2
          = ⟨security, ⟨stores', world'⟩⟩
        ∧ Stores.assemble settings tables'.stores = .ok stores'
        ∧ Referential tables' (stores'.organizations.readings world'.disk)
        ∧ (stores'.organizations.readings world'.disk).Finds Organization.defaultId := by
  obtain ⟨flagSources, flagServers, hstores, hassembles⟩ := assemble_over hassembled
  let premises : Premises := ⟨settings, flagSources, flagServers⟩
  have hover : stores = premises.storesOver tables := hstores
  obtain ⟨hsecurity, hstarted⟩ := @startUp_referential premises ⟨security, ⟨stores, world⟩⟩ tables
    hover hnames href
  obtain ⟨hsecurity', known, hdefault, tables', hrefers⟩ :=
    respondAll_referential _ hstarted requests
  rcases hafter : ((Console.startUp ⟨security, ⟨stores, world⟩⟩).2.2.respondAll requests).2
    with ⟨security', ⟨stores', world'⟩⟩
  rw [hafter] at hsecurity' hrefers
  cases hsecurity'.trans hsecurity
  obtain ⟨hstores', -, hfinds, hroles, hmappings⟩ := hrefers
  cases hstores'
  refine ⟨tables', _, world', rfl, hassembles tables'.stores, ⟨?_, ?_⟩, (hfinds _).2 hdefault⟩
  · exact fun user huser role hrole => (hfinds _).2 (hroles user huser role hrole)
  · exact fun mapping hmapping => (hfinds _).2 (hmappings mapping hmapping)

end Runs

namespace Visitor

/-- The visitor at home, with a mapping to its organization. -/
def mapped : PrimaryTables :=
  { atHome with mappings := Table.empty.insert (.everyone "o") }

/-- The visitor's role and the mapping lead to the organization of the table. -/
theorem mapped_referential : ∃ stores, Stores.assemble withFiles mapped.stores = .ok stores
    ∧ Referential mapped (stores.organizations.readings homeWorld.disk) := by
  refine ⟨_, rfl, fun stored hstored role hrole => ?_, fun stored hstored => ?_⟩
  · rw [List.mem_singleton.1 hstored] at hrole
    rw [List.mem_singleton.1 hrole]
    exact ⟨organization, rfl⟩
  · rw [List.mem_singleton.1 hstored]
    exact ⟨organization, rfl⟩

end Visitor

/-- The console starts, the visitor logs in and asks for its organization to be deleted, and
references still resolve. -/
theorem references_resolve_visitor : ∃ stores tables' stores' world',
    Stores.assemble Visitor.withFiles Visitor.mapped.stores = .ok stores
      ∧ Visitor.homeWorld.disk.NamesOnce
      ∧ Referential Visitor.mapped (stores.organizations.readings Visitor.homeWorld.disk)
      ∧ ((Console.startUp ⟨Visitor.security, ⟨stores, Visitor.homeWorld⟩⟩).2.2.respondAll
            [Visitor.visit .get, Visitor.asking .delete "/api/organizations/o"]).2
          = ⟨Visitor.security, ⟨stores', world'⟩⟩
      ∧ Stores.assemble Visitor.withFiles tables'.stores = .ok stores'
      ∧ Referential tables' (stores'.organizations.readings world'.disk)
      ∧ (stores'.organizations.readings world'.disk).Finds Organization.defaultId := by
  obtain ⟨stores, hassembled, href⟩ := Visitor.mapped_referential
  have hbare : Disk.NamesOnce [] := fun _ _ => nofun
  have hnames : (Disk.setDirectory "r" [] []).NamesOnce := hbare.setDirectory .nil
  obtain ⟨tables', stores', world', hafter, hassembled', href', hdefault⟩ :=
    @references_resolve _ _ _ hassembled Visitor.homeWorld hnames href Visitor.security
      [Visitor.visit .get, Visitor.asking .delete "/api/organizations/o"]
  exact ⟨stores, tables', stores', world', hassembled, hnames, href, hafter, hassembled', href',
    hdefault⟩

end TenantConsole
