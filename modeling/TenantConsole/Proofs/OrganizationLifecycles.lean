import TenantConsole.Proofs.MappedRoles
import TenantConsole.Proofs.OrganizationCatalog
import TenantConsole.Proofs.UserRecords

/-!
# How organizations come and go

Creating an organization writes to two stores, and deleting one to three. Over tables alone, what
becomes of them can be said as a relation between the tables before and after:

* **`Founding`**: the organization is there, under an id that was free, and its founder has the role
  of an admin in it, after the roles that it had. Nothing else changes (`create_founds`).
* **`Dissolution`**: the organization is gone, no user has a role in it, and no mapping leads to it.
  Nothing else changes (`delete_dissolves`); and what is refused changes nothing, for once the
  organization is gone the sweep goes through (`run_sweep`).

A dissolution undoes a founding where nothing named the organization before (`Founding.undone`).
-/

namespace TenantConsole

open Collection Readings

/-! ## The two changes -/

/-- The tables before and after an organization has been created by a founder. -/
structure Founding (created : Organization) (founder : User) (before after : PrimaryTables) :
    Prop where
  free : before.organizations.get? created.id = none
  organizations : after.organizations = before.organizations.insert created
  users : ∃ above below, before.users.rows = above ++ founder :: below
    ∧ after.users.rows
      = above ++ { founder with roles := founder.roles ++ [⟨created.id, .admin⟩] } :: below
  rest : after = { before with organizations := after.organizations, users := after.users }

/-- The tables before and after an organization has been deleted. -/
structure Dissolution (id : String) (before after : PrimaryTables) : Prop where
  organizations : after.organizations = before.organizations.erase id
  users : after.users.rows = before.users.rows.map (·.leaving id)
  mappings : after.mappings.rows
    = before.mappings.rows.filter fun mapping => mapping.organization ≠ id
  rest : after = { before with
    organizations := after.organizations, users := after.users, mappings := after.mappings }

section Undone

theorem Table.eq_of_rows {ρ : Type} [Record ρ] {table other : Table ρ}
    (h : table.rows = other.rows) : table = other := by
  cases table
  cases other
  cases h
  rfl

/-- A row under an id of its own goes out as it came in. -/
theorem Table.erase_insert {ρ : Type} [Record ρ] {table : Table ρ} {row : ρ}
    (hfree : table.get? (Record.id row) = none) :
    (table.insert row).erase (Record.id row) = table := by
  have hothers := Table.get?_eq_none_iff.1 hfree
  refine Table.eq_of_rows ?_
  show (table.insert row).rows.filter (fun r => Record.id r ≠ Record.id row) = table.rows
  rw [Table.rows_insert_filter (by simp) fun r hr => absurd hr (by simp [hfree])]
  exact List.filter_eq_self.2 fun r hr => decide_eq_true (hothers r hr)

/-- A role at the end is the only one to go, if no other is in the organization. -/
theorem User.leaving_appended {user : User} {role : Role}
    (hroles : ∀ other ∈ user.roles, other.organization ≠ role.organization) :
    ({ user with roles := user.roles ++ [role] } : User).leaving role.organization = user := by
  have houtside : (user.roles ++ [role]).filter (·.organization ≠ role.organization)
      = user.roles := by
    rw [List.filter_append, List.filter_cons_of_neg (by simp), List.filter_nil, List.append_nil]
    exact User.rolesOutside_eq_self hroles
  show { user with roles := (user.roles ++ [role]).filter _ } = user
  rw [houtside]

/-- Users that are not in an organization cannot leave it. -/
theorem User.map_leaving_eq_self {users : List User} {id : String}
    (hroles : ∀ user ∈ users, ∀ role ∈ user.roles, role.organization ≠ id) :
    users.map (·.leaving id) = users := by
  rw [List.map_congr_left fun user huser => User.leaving_eq_self (hroles user huser)]
  exact List.map_id' users

/-- **Back where it began.** -/
theorem Founding.undone {created : Organization} {founder : User}
    {before between after : PrimaryTables} (h : Founding created founder before between)
    (hdissolved : Dissolution created.id between after)
    (hroles : ∀ user ∈ before.users.rows, ∀ role ∈ user.roles, role.organization ≠ created.id)
    (hmappings : ∀ mapping ∈ before.mappings.rows, mapping.organization ≠ created.id) :
    after = before := by
  have horganizations : after.organizations = before.organizations := by
    rw [hdissolved.organizations, h.organizations]
    exact Table.erase_insert h.free
  have husers : after.users = before.users := by
    -- the founder has one more role to lose, and nobody else has any
    obtain ⟨above, below, hbefore, hbetween⟩ := h.users
    rw [hbefore] at hroles
    have hfounder := hroles founder (List.mem_append_right above List.mem_cons_self)
    have habove := User.map_leaving_eq_self fun user huser =>
      hroles user (List.mem_append_left _ huser)
    have hbelow := User.map_leaving_eq_self fun user huser =>
      hroles user (List.mem_append_right above (List.mem_cons_of_mem founder huser))
    refine Table.eq_of_rows ?_
    rw [hdissolved.users, hbetween, hbefore, List.map_append, List.map_cons, habove, hbelow,
      User.leaving_appended hfounder]
  have hkept : after.mappings = before.mappings := by
    refine Table.eq_of_rows ?_
    have hsame : between.mappings = before.mappings := by rw [h.rest]
    rw [hdissolved.mappings, hsame]
    exact List.filter_eq_self.2 fun mapping hmapping => decide_eq_true (hmappings mapping hmapping)
  rw [hdissolved.rest, h.rest, horganizations, husers, hkept]

end Undone

/-! ## Looking up -/

section LookingUp

variable {premises : Premises} {tables : PrimaryTables}

/-- An organization is found in the table, or else among the files of the directory beside it. -/
theorem organization?_over (tables : PrimaryTables) (world : World) (id : String) :
    State.organization? ⟨premises.storesOver tables, world⟩ id
      = (tables.organizations.get? id).or (firstWithId id
          (Catalog.stackedBelow premises.settings.resourcesPath "org" [] world.disk)) := by
  unfold State.organization?
  rw [(organizations_read_out tables world.disk).get, toOption_orMissing, organizations_over,
    Catalog.stacked_over]
  exact List.find?_append

/-- Where no directory lies beside the tables, the organizations that are found are those of the
table. -/
theorem organization?_bare (hbare : premises.settings.resourcesPath = none) (world : World)
    (id : String) :
    State.organization? ⟨premises.storesOver tables, world⟩ id = tables.organizations.get? id := by
  rw [organization?_over, hbare]
  exact Option.or_none

/-- An organization that comes into the table is found, whatever the files say, and the others are
found as before. -/
theorem organization?_inserted {world world' : World} (hdisk : world'.disk = world.disk)
    (created : Organization) (id : String) :
    State.organization? ⟨premises.storesOver { tables with
        organizations := tables.organizations.insert created }, world'⟩ id
      = if created.id = id then some created
        else State.organization? ⟨premises.storesOver tables, world⟩ id := by
  have hid : Record.id created = created.id := rfl
  rw [organization?_over, organization?_over, hdisk, Table.get?_insert, hid]
  split <;> rfl

end LookingUp

/-! ## Creating -/

/-- A super admin in a session, whose user is stored. -/
structure Context.OfStoredAdmin (context : Context) (table : Table User) (founder : User) :
    Prop where
  session : context.isServerCall = false
  superAdmin : context.isSuperAdmin = true
  user : ∃ creator, context.user = some creator ∧ creator.identity = founder.identity
  stored : founder ∈ table.rows

/-- Where identities are stored once, a user is the one that its identity stands for. -/
theorem DistinctIdentities.knownAs?_eq {table : Table User} (h : DistinctIdentities table)
    {user : User} (huser : user ∈ table.rows) : table.knownAs? user.identity = some user := by
  unfold Table.knownAs?
  -- the first user of the identity is the user itself
  cases hfound : table.rows.find? fun other => other.identity = user.identity with
  | none => exact absurd (List.find?_eq_none.1 hfound user huser) (by simp)
  | some first =>
    have hsame : first.identity = user.identity := by simpa using List.find?_some hfound
    rw [h first (List.mem_of_find?_eq_some hfound) user huser hsame]

/-- An admin with that role alone submits it. -/
theorem submittedRole_singleton (user : User) (role : Role) :
    Scoping.submittedRole role.organization { user with roles := [role] } = .ok role := by
  simp [Scoping.submittedRole, User.roleIn?]

section Creating

variable {context : Context} {acting : String} {state : State} {table : Table User}
  {user existing : User} {role : Role}

/-- **A known user joins**, with the role that is submitted after those that it has; a member is not
admitted again. -/
theorem run_add_known (hsession : context.isServerCall = false)
    (hacting : context.organization = some acting) (hstore : state.stores.users = .memory table)
    (hrole : Scoping.submittedRole acting user = .ok role)
    (hknown : table.knownAs? user.identity = some existing) :
    existing.hasRoleIn acting = true
        ∧ (users.add context user).run state = (.error (.taken User existing.id), state)
      ∨ existing.hasRoleIn acting = false
        ∧ (users.add context user).run state = (.ok { existing with roles := [role] },
            ⟨{ state.stores with users := .memory (table.insert (existing.holding role)) },
              state.world⟩) := by
  have haccess := access_of_acting hsession hacting
  have hfound : (Readings.ofListing (.ok table.rows)).find (Scoping.identityQuery user.identity)
      = .ok existing := by
    rw [Table.find_ofListing, hknown]
    rfl
  unfold Collection.add
  -- a member is a conflict, anybody else joins
  cases hmember : existing.hasRoleIn acting with
  | true =>
    have hrefused : (Scoping.membership acting).plan
        ((users.store state.stores).readings state.world.disk) (.add user)
        = .refuse (.taken User existing.id) := by
      rw [show users.store state.stores = .memory table from hstore]
      simp only [Scoping.plan, Scoping.membership, Store.readings, hrole, hfound, hmember, if_true]
    exact .inl ⟨rfl, run_write_refused users_lawful haccess hrefused⟩
  | false =>
    have hheld : table.get? (existing.holding role).id = some existing :=
      Table.get?_of_mem (List.mem_of_find?_eq_some hknown)
    have hseen := User.holding_seenIn? existing (submittedRole_ok hrole).2.1
    refine .inr ⟨rfl, ?_⟩
    rw [run_write_memory users_lawful hstore, haccess]
    simp only [Access.outcome, Scoping.plan, Scoping.membership, hrole, hfound, hmember,
      Bool.false_eq_true, if_false, Plan.carriedOut, write_update_of_get? hheld,
      Scoping.seenMember, hseen]
    rfl

/-- **Whoever creates an organization joins it**, if it is not a member already. -/
theorem enrolCreator_enrols {founder : User} (hdistinct : DistinctIdentities table)
    (hadmin : context.OfStoredAdmin table founder) (hstore : state.stores.users = .memory table)
    (organization : Organization) :
    (Organizations.enrolCreator context organization).Sat state fun answer after =>
      answer = .ok () → founder.hasRoleIn organization.id = false
        ∧ after = ⟨{ state.stores with
            users := .memory (table.insert (founder.holding ⟨organization.id, .admin⟩)) },
          state.world⟩ := by
  obtain ⟨creator, huser, hidentity⟩ := hadmin.user
  let inside := context.actingIn organization.id
  have hsession : inside.isServerCall = false := hadmin.session
  have hacting : inside.organization = some organization.id := rfl
  have hrole := submittedRole_singleton creator ⟨organization.id, .admin⟩
  have hknown : table.knownAs? creator.identity = some founder := by
    rw [hidentity]
    exact hdistinct.knownAs?_eq hadmin.stored
  unfold Organizations.enrolCreator
  rw [huser]
  rcases run_add_known hsession hacting hstore hrole hknown with
    ⟨-, hrefused⟩ | ⟨houtside, hjoined⟩
  · exact .after_failure hrefused nofun
  · exact .after_call hjoined fun _ => ⟨houtside, rfl⟩

variable {premises : Premises} {tables : PrimaryTables}

/-- An organization is added under a free id, or not at all. -/
theorem run_add_organization (premises : Premises) (tables : PrimaryTables) (context : Context)
    (organization : Organization) (world : World) :
    (∃ error after, (organizations.add context organization).run
        ⟨premises.storesOver tables, world⟩ = (.error error, after))
      ∨ tables.organizations.get? (world.named organization).id = none
        ∧ (organizations.add context organization).run ⟨premises.storesOver tables, world⟩
          = (.ok (world.named organization), ⟨premises.storesOver { tables with
              organizations := tables.organizations.insert (world.named organization) },
            world.afterNaming organization⟩) := by
  let before : State := ⟨premises.storesOver tables, world⟩
  have hstores : before.stores = premises.storesOver tables := rfl
  have hkind : (Write.add organization).kind ≠ .update := nofun
  -- a held id is a conflict; a caller that may not write is refused in either case
  cases hheld : tables.organizations.get? (world.named organization).id with
  | some row =>
    rcases admins_write context hkind hstores (Catalog.over_add_taken hheld) with
      ⟨error, hrefused⟩ | htaken
    · exact .inl ⟨_, _, hrefused⟩
    · exact .inl ⟨_, _, htaken⟩
  | none =>
    rcases admins_write context hkind hstores (Catalog.over_add_free hheld) with
      ⟨error, hrefused⟩ | hadded
    · exact .inl ⟨_, _, hrefused⟩
    · exact .inr ⟨rfl, hadded⟩

/-- Who joins an organization that has come in is its founder. -/
theorem founding_of_enrolment {created : Organization} {founder : User}
    (hfree : tables.organizations.get? created.id = none) (hstored : founder ∈ tables.users.rows)
    (houtside : founder.hasRoleIn created.id = false) :
    Founding created founder tables { tables with
      organizations := tables.organizations.insert created
      users := tables.users.insert (founder.holding ⟨created.id, .admin⟩) } where
  free := hfree
  organizations := rfl
  users := by
    obtain ⟨above, below, hrows⟩ := List.append_of_mem hstored
    -- nothing gives way to the new role, so it goes behind all others
    have hroles : founder.rolesOutside created.id = founder.roles :=
      User.rolesOutside_eq_self fun _ => User.organization_ne_of_hasRoleIn houtside
    refine ⟨above, below, hrows, ?_⟩
    rw [← hroles]
    exact Table.rows_insert_of_split hrows rfl
  rest := rfl

/-- **Creating an organization founds it.** -/
theorem create_founds (premises : Premises) {founder : User}
    (hdistinct : DistinctIdentities tables.users)
    (hadmin : context.OfStoredAdmin tables.users founder) (organization : Organization)
    (world : World) :
    (Organizations.create context organization).Sat ⟨premises.storesOver tables, world⟩
      fun answer after => ∀ created, answer = .ok created → created = world.named organization
        ∧ ∃ tables', Founding created founder tables tables'
          ∧ after = ⟨premises.storesOver tables', world.afterNaming organization⟩ := by
  unfold Organizations.create
  split
  · nofun
  split
  · nofun
  -- the organization is added before its creator is enrolled
  rcases run_add_organization premises tables context organization world with
    ⟨error, after, hrefused⟩ | ⟨hfree, hadded⟩
  · exact .after_failure hrefused nofun
  · refine .after_call hadded ?_
    rw [Script.sat_bind]
    refine (enrolCreator_enrols hdistinct hadmin rfl (world.named organization)).mono ?_
    rintro (error | _) after h
    · nofun
    · obtain ⟨houtside, rfl⟩ := h rfl
      rintro created ⟨rfl⟩
      exact ⟨rfl, _, founding_of_enrolment hfree hadmin.stored houtside, rfl⟩

end Creating

/-! ## Deleting -/

section Deleting

variable {premises : Premises} {tables : PrimaryTables}

/-- **Deleting an organization dissolves it, or does nothing.** -/
theorem delete_dissolves (hbare : premises.settings.resourcesPath = none) (context : Context)
    (id : String) (world : World) :
    (Organizations.delete context id).Sat ⟨premises.storesOver tables, world⟩ fun answer after =>
      (∃ error, answer = .error error) ∧ after = ⟨premises.storesOver tables, world⟩
        ∨ answer = .ok () ∧ id ≠ Organization.defaultId ∧ ∃ tables', Dissolution id tables tables'
          ∧ after = ⟨premises.storesOver tables', world⟩ := by
  unfold Organizations.delete
  refine .after_reading (get_readOnly _ _ _).orFail (fun organization hget => ?_)
    fun _ _ => .inl ⟨⟨_, rfl⟩, rfl⟩
  let before : State := ⟨premises.storesOver tables, world⟩
  have hstores : before.stores = premises.storesOver tables := rfl
  have hkind : (Write.delete (ρ := Organization) id).kind ≠ .update := nofun
  have hstored : tables.organizations.get? id = some organization := by
    rw [← organization?_bare hbare world]
    exact State.organization?_eq_some_iff.2 (get_organizations (Script.ok_of_orFail hget))
  split
  · exact .inl ⟨⟨_, rfl⟩, rfl⟩
  rename_i hordinary
  have hid : organization.id = id := Table.id_of_get?_eq_some hstored
  have hother : id ≠ Organization.defaultId := ne_defaultId_of_ordinary hid hordinary
  have hheld : tables.organizations.contains id = true := Option.isSome_of_eq_some hstored
  rcases admins_write context hkind hstores (Catalog.over_delete_held hheld) with
    ⟨error, hrefused⟩ | hdeleted
  · exact .after_failure hrefused (.inl ⟨⟨_, rfl⟩, rfl⟩)
  · -- the organization is gone, and from here on no call is refused
    refine .after_call hdeleted ?_
    obtain ⟨members, routes, hmembers, hroutes, hswept⟩ := @run_sweep
      ⟨premises.storesOver { tables with organizations := tables.organizations.erase id }, world⟩
      tables.users tables.mappings id rfl rfl
    unfold Script.Sat
    rw [hswept]
    exact .inr ⟨rfl, hother, { tables with
      organizations := tables.organizations.erase id, users := members, mappings := routes },
      ⟨rfl, hmembers, hroutes, rfl⟩, rfl⟩

end Deleting

/-! ## Both -/

/-- **Organizations come and go, and nothing else does.** In the console's stores over tables, with
no directory beside them and each identity stored once, an organization that a stored super admin
creates has been founded by it. Whoever deletes an organization dissolves it, which is not the
default one, or is refused and changes nothing. And where no role and no mapping named an
organization before it was created, its deletion restores the stores. -/
theorem organizations_come_and_go {settings : CatalogSettings} {tables : PrimaryTables}
    {stores : Stores} (hassembled : Stores.assemble settings tables.stores = .ok stores)
    (hbare : settings.resourcesPath = none) (hdistinct : DistinctIdentities tables.users)
    (world : World) :
    (∀ context founder organization, Context.OfStoredAdmin context tables.users founder →
      (Organizations.create context organization).Sat ⟨stores, world⟩ fun answer after =>
        ∀ created, answer = .ok created → created = world.named organization
          ∧ ∃ tables' stores', Founding created founder tables tables'
            ∧ Stores.assemble settings tables'.stores = .ok stores'
            ∧ after = ⟨stores', world.afterNaming organization⟩)
    ∧ (∀ context id, (Organizations.delete context id).Sat ⟨stores, world⟩ fun answer after =>
        (∃ error, answer = .error error) ∧ after = ⟨stores, world⟩
          ∨ answer = .ok () ∧ id ≠ Organization.defaultId ∧ after.organization? id = none
            ∧ ∃ tables' stores', Dissolution id tables tables'
              ∧ Stores.assemble settings tables'.stores = .ok stores'
              ∧ after = ⟨stores', world⟩)
    ∧ ∀ context founder organization created between remover after,
        Context.OfStoredAdmin context tables.users founder →
        (Organizations.create context organization).run ⟨stores, world⟩ = (.ok created, between) →
        (∀ user ∈ tables.users.rows, ∀ role ∈ user.roles, role.organization ≠ created.id) →
        (∀ mapping ∈ tables.mappings.rows, mapping.organization ≠ created.id) →
        (Organizations.delete remover created.id).run between = (.ok (), after) →
        after = ⟨stores, world.afterNaming organization⟩ := by
  obtain ⟨flagSources, flagServers, rfl, hassembles⟩ := assemble_over hassembled
  let premises : Premises := ⟨settings, flagSources, flagServers⟩
  have hbare : premises.settings.resourcesPath = none := hbare
  refine ⟨fun context founder organization hadmin => ?_, fun context id => ?_, ?_⟩
  · refine (create_founds premises hdistinct hadmin organization world).mono ?_
    intro answer after h created hcreated
    obtain ⟨hnamed, tables', hfounding, hafter⟩ := h created hcreated
    exact ⟨hnamed, tables', _, hfounding, hassembles tables'.stores, hafter⟩
  · refine (delete_dissolves hbare context id world).mono ?_
    rintro answer after (hrefused | ⟨hdone, hother, tables', hdissolution, rfl⟩)
    · exact .inl hrefused
    · refine .inr ⟨hdone, hother, ?_, tables', _, hdissolution, hassembles tables'.stores, rfl⟩
      rw [organization?_bare hbare, hdissolution.organizations, Table.get?_erase, if_pos rfl]
  · intro context founder organization created between remover after hadmin hcreate hroles
      hmappings hdelete
    -- what was created is founded, what was deleted dissolved, and one undoes the other
    obtain ⟨-, between, hfounding, rfl⟩ :=
      (create_founds premises hdistinct hadmin organization world).of_run hcreate created rfl
    obtain ⟨⟨error, hrefused⟩, -⟩ | ⟨-, -, tables', hdissolution, rfl⟩ :=
      (delete_dissolves hbare remover created.id _).of_run hdelete
    · cases hrefused
    · rw [hfounding.undone hdissolution hroles hmappings]
      rfl

namespace Office

/-- Whoever has founded the office; a super admin. -/
def founder : User :=
  { id := "r", name := "r", provider := "b", scheme := "c", superAdmin := true
    roles := [⟨"o", .admin⟩] }

/-- The founder and a visitor at home, where engineers are admitted. -/
def founded : PrimaryTables :=
  { organizations := .ofList [.initial, home]
    users := .ofList [founder, { founder with id := "s", name := "s", superAdmin := false }]
    mappings := .ofList [engineers] }

def foundedStores : Stores := .layeredOver {} [] [] founded.stores

/-- A draft, with no id of its own. -/
def branch : Organization := { id := "", name := "B" }

def expanding : World := { ids := fun _ => "x" }

def expander : Context := .forUser founder (some "o")

/-- The console once there is the branch. -/
def expanded : State :=
  ((Organizations.create expander branch).run ⟨foundedStores, expanding⟩).2

theorem distinct_founded : DistinctIdentities founded.users := by
  show ∀ a ∈ founded.users.rows, ∀ b ∈ founded.users.rows, a.identity = b.identity → a = b
  decide

theorem stored_founder : Context.OfStoredAdmin expander founded.users founder where
  session := rfl
  superAdmin := rfl
  user := ⟨founder, rfl, rfl⟩
  stored := by decide

/-- The branch can be given up. -/
theorem run_closing : (Organizations.delete .server "x").run expanded
    = (.ok (), ((Organizations.delete .server "x").run expanded).2) := by
  have hdone : ((Organizations.delete .server "x").run expanded).1.toOption = some () := by
    decide +kernel
  rcases hrun : (Organizations.delete .server "x").run expanded with ⟨error | _, after⟩
  · rw [hrun] at hdone
    cases hdone
  · rfl

end Office

/-- A branch is founded and given up again. -/
theorem organizations_come_and_go_office :
    Stores.assemble {} Office.founded.stores = .ok Office.foundedStores
      ∧ DistinctIdentities Office.founded.users
      ∧ Context.OfStoredAdmin Office.expander Office.founded.users Office.founder
      ∧ ∃ tables', Founding { Office.branch with id := "x" } Office.founder Office.founded tables'
        ∧ Stores.assemble {} tables'.stores = .ok Office.expanded.stores
        ∧ (Organizations.create Office.expander Office.branch).run
            ⟨Office.foundedStores, Office.expanding⟩
          = (.ok { Office.branch with id := "x" }, Office.expanded)
        ∧ (Organizations.delete .server "x").run Office.expanded
          = (.ok (), ⟨Office.foundedStores, { Office.expanding with drawn := 1 }⟩) := by
  have hassembled : Stores.assemble {} Office.founded.stores = .ok Office.foundedStores := rfl
  obtain ⟨hcreates, -, hrestores⟩ :=
    organizations_come_and_go hassembled rfl Office.distinct_founded Office.expanding
  have hcreate : (Organizations.create Office.expander Office.branch).run
      ⟨Office.foundedStores, Office.expanding⟩
      = (.ok { Office.branch with id := "x" }, Office.expanded) := Prod.ext rfl rfl
  have hroles : ∀ user ∈ Office.founded.users.rows, ∀ role ∈ user.roles,
      role.organization ≠ "x" := by decide
  have hmappings : ∀ mapping ∈ Office.founded.mappings.rows, mapping.organization ≠ "x" := by decide
  obtain ⟨-, tables', stores', hfounding, hassembled', hafter⟩ :=
    (hcreates _ _ Office.branch Office.stored_founder).of_run hcreate _ rfl
  have hrestored : ((Organizations.delete .server "x").run Office.expanded).2
      = ⟨Office.foundedStores, { Office.expanding with drawn := 1 }⟩ :=
    hrestores _ _ _ _ _ .server _ Office.stored_founder hcreate hroles hmappings Office.run_closing
  refine ⟨hassembled, Office.distinct_founded, Office.stored_founder, tables', hfounding, ?_,
    hcreate, ?_⟩
  · rw [hafter]
    exact hassembled'
  · rw [Office.run_closing, hrestored]

end TenantConsole
