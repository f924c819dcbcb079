import TenantConsole.Proofs.References

/-!
# What organizations leave behind

Sources, servers and dashboards name the organization that they belong to. That the catalog finds
it is not looked after by anyone: no service writes to these records at all, and an organization can
be deleted with all that it owns still there.

* **`State.Catalogs`**: what the catalogs come from, tables and a disk, while the users and the
  mappings change. Most of what a service does leaves it alone (`provision_rests`, `sweep_rests`).
* **The step** (`ServiceCall.settles`): a call keeps all that is owned, and finds all that has been
  found, unless it deletes an organization. Then it loses that one, if the deleted copy of it was
  the only one.
* **The run** (`tenancies_settle`): the organizations that own something are found for good exactly
  as long as none of them is deleted that has an only copy (`ServiceCall.Orphans`).
-/

namespace TenantConsole

open Collection Readings

/-! ## What is owned -/

/-- All the sources, servers and dashboards there are, in any layer. -/
structure Holdings where
  sources : List Source
  servers : List Server
  dashboards : List Dashboard

/-- The organizations that they belong to. -/
def Holdings.owners (holdings : Holdings) : List String :=
  holdings.sources.map Owned.owner ++ holdings.servers.map Owned.owner
    ++ holdings.dashboards.map Owned.owner

/-- What is owned according to some stores over a disk. -/
def Stores.holdings (stores : Stores) (disk : Disk) : Holdings where
  sources := stores.sources.stacked disk
  servers := stores.servers.stacked disk
  dashboards := stores.dashboards.stacked disk

def State.holdings (state : State) : Holdings := state.stores.holdings state.world.disk

/-- Whatever is owned belongs to an organization that the catalog finds. -/
def State.Tenanted (state : State) : Prop := ∀ id ∈ state.holdings.owners, state.Finds id

/-- How many layers have this organization. -/
def State.copies (state : State) (id : String) : Nat :=
  (namesakes id (state.stores.organizations.stacked state.world.disk)).length

/-! ## What the catalogs come from -/

/-- The catalogs are those over these tables and this disk, whatever the users and the mappings. -/
structure State.Catalogs (premises : Premises) (tables : PrimaryTables) (disk : Disk)
    (state : State) : Prop where
  stores : ∃ users mappings, state.stores = premises.storesOver { tables with users, mappings }
  disk : state.world.disk = disk

namespace State.Catalogs

variable {premises : Premises} {tables : PrimaryTables} {disk : Disk} {state after : State}

theorem users (h : state.Catalogs premises tables disk) :
    ∃ users, state.stores.users = .memory users := by
  obtain ⟨users, mappings, hstores⟩ := h.stores
  exact ⟨users, by rw [hstores]; rfl⟩

theorem mappings (h : state.Catalogs premises tables disk) :
    ∃ mappings, state.stores.mappings = .memory mappings := by
  obtain ⟨users, mappings, hstores⟩ := h.stores
  exact ⟨mappings, by rw [hstores]; rfl⟩

/-- Other users make no difference to the catalogs. -/
theorem withUsers {table : Table User} (h : state.Catalogs premises tables disk)
    (hwith : state.WithUsers table after) : after.Catalogs premises tables disk := by
  obtain ⟨users, mappings, hstores⟩ := h.stores
  refine ⟨⟨table, mappings, ?_⟩, hwith.disk.trans h.disk⟩
  rw [hwith.stores, hstores]
  rfl

/-- What is owned is read off the catalogs, so it stays while they do. -/
theorem holdings (h : state.Catalogs premises tables disk) :
    state.holdings = (premises.storesOver tables).holdings disk := by
  obtain ⟨users, mappings, hstores⟩ := h.stores
  rw [State.holdings, hstores, h.disk]
  rfl

theorem organizations (h : state.Catalogs premises tables disk) :
    state.stores.organizations = premises.organizationsOver tables.organizations := by
  obtain ⟨users, mappings, hstores⟩ := h.stores
  rw [hstores, organizations_over]

theorem finds (h : state.Catalogs premises tables disk) (id : String) :
    state.Finds id
      ↔ ((premises.organizationsOver tables.organizations).readings disk).Finds id := by
  rw [State.Finds, h.organizations, h.disk]

theorem copies (h : state.Catalogs premises tables disk) (id : String) :
    state.copies id = (namesakes id
      ((premises.organizationsOver tables.organizations).stacked disk)).length := by
  rw [State.copies, h.organizations, h.disk]

end State.Catalogs

/-- What is owned does not depend on the organizations, except for the files beside theirs. -/
theorem holdings_over (premises : Premises) (tables : PrimaryTables) (disk : Disk) :
    (premises.storesOver tables).holdings disk =
      { sources := tables.sources.rows ++ Catalog.stackedBelow premises.settings.resourcesPath
          "src" [("flag sources", premises.flagSources)] disk
        servers := tables.servers.rows ++ Catalog.stackedBelow premises.settings.resourcesPath
          "kap" [("flag kapacitors", premises.flagServers)] disk
        dashboards := tables.dashboards.rows ++ Catalog.stackedBelow
          premises.settings.resourcesPath "dashboard" [] disk } := by
  have hsources : (premises.storesOver tables).sources = _ := sourcesOver_eq _ _ tables.sources
  have hservers : (premises.storesOver tables).servers = _ := serversOver_eq _ _ tables.servers
  have hdashboards : (premises.storesOver tables).dashboards = _ :=
    dashboards_eq _ tables.dashboards
  rw [Stores.holdings, hsources, hservers, hdashboards, Catalog.stacked_over, Catalog.stacked_over,
    Catalog.stacked_over]

/-! ## Services that let the catalogs rest

Users and mappings lie in tables of their own. Whatever is written to them, by a service or by the
sweep that follows a deletion, the catalogs stay those over the same tables and the same disk. -/

section Resting

variable {premises : Premises} {tables : PrimaryTables} {disk : Disk} {context : Context}

/-- A write to the users, whoever makes it. -/
theorem users_write_rests {α : Type} (context : Context) (write : Write User α) :
    (users.write context write).Upholds (State.Catalogs premises tables disk) fun _ => True := by
  intro state h
  refine ⟨?_, fun _ _ => trivial⟩
  obtain ⟨table, hstore⟩ := h.users
  -- a tenant's write goes through a scope, a server's goes to the table itself
  cases hserver : context.isServerCall with
  | false =>
    obtain ⟨table', hwith, -⟩ := session_write_sat hserver hstore write
    exact h.withUsers hwith
  | true =>
    have haccess : users.access context = .full := by
      simp only [users, Access.ofUsers, Context.scope, hserver]
      rfl
    have hsettles : table.Settles state.world (table.Change write)
        ((users.access context).outcome write table state.world) := by
      rw [haccess]
      exact Table.write_settles table write state.world
    obtain ⟨table', hwith, -⟩ := users_write_sat hstore hsettles
    exact h.withUsers hwith

/-- Creating a user lets the catalogs rest. -/
theorem createUser_rests (submission : UserSubmission) :
    (Users.create context submission).Upholds (State.Catalogs premises tables disk)
      fun _ => True := by
  unfold Users.create
  split
  · exact .fail
  refine .after_reading (Roles.validate_readOnly _ _ _ _).orFail fun roles => ?_
  refine .after_reading (find?_readOnly _ _ _).orFail fun found => ?_
  cases found with
  | some existing => exact .fail
  | none => exact (users_write_rests context _).orFail

theorem updateUser_rests (id : String) (patch : UserPatch) :
    (Users.update context id patch).Upholds (State.Catalogs premises tables disk)
      fun _ => True := by
  unfold Users.update
  refine .after_reading (get_readOnly _ _ _).orFail fun current => ?_
  refine .after_reading (Roles.validate_readOnly _ _ _ _).orFail fun roles => ?_
  exact .bind (users_write_rests context _).orFail fun _ _ => .looks (get_readOnly _ _ _).orFail

theorem promote_rests (adminGroup : Option String) (principal : Principal) (user : User) :
    (Login.promote adminGroup principal user).Upholds (State.Catalogs premises tables disk)
      fun _ => True := by
  unfold Login.promote
  split
  · exact .bind (users_write_rests .server _) fun _ _ => .pure trivial
  · exact .pure trivial

theorem register_rests (principal : Principal) (granted : List Role) (superAdmin : Bool) :
    (register principal granted superAdmin).Upholds (State.Catalogs premises tables disk)
      fun _ => True := by
  unfold register
  split
  · exact .fail
  · exact .after_reading (firstRoles_readOnly granted) fun roles => users_write_rests .server _

/-- A login lets the catalogs rest, whether its user is known or not. -/
theorem provision_rests (adminGroup : Option String) (principal : Principal) :
    (Login.provision adminGroup principal).Upholds (State.Catalogs premises tables disk)
      fun _ => True := by
  unfold Login.provision
  -- a known user may be promoted, an unknown one is registered
  have huser : (Login.userOf adminGroup principal).Upholds (State.Catalogs premises tables disk)
      fun _ => True := by
    refine .after_reading (find?_readOnly _ _ _) fun found => ?_
    cases found with
    | some user => exact promote_rests adminGroup principal user
    | none =>
      show (Login.createUser adminGroup principal).Upholds _ _
      rw [login_createUser_eq]
      refine .after_reading (Roles.ofPrincipal_readOnly principal) fun granted => ?_
      exact .after_reading (firstFlag_readOnly adminGroup principal) fun superAdmin =>
        register_rests principal granted superAdmin
  exact .bind huser.orFail fun user _ => .looks (.bind (.ofExcept _) fun _ => .pure _)

theorem enrolCreator_rests (organization : Organization) :
    (Organizations.enrolCreator context organization).Upholds
      (State.Catalogs premises tables disk) fun _ => True := by
  unfold Organizations.enrolCreator
  cases context.user with
  | none => exact .pure trivial
  | some creator => exact .bind (users_write_rests _ _).orFail fun _ _ => .pure trivial

/-- The sweep goes through, and takes users and mappings only. -/
theorem sweep_rests {state : State} (h : state.Catalogs premises tables disk) (id : String) :
    Script.Sat (do
        Organizations.stripRoles id (← (users.all .server).orFail .store)
        Organizations.dropMappings id (← (mappings.all .server).orFail .store))
      state fun answer after => answer = .ok () ∧ after.Catalogs premises tables disk := by
  obtain ⟨users, husers⟩ := h.users
  obtain ⟨mappings, hmappings⟩ := h.mappings
  obtain ⟨users', mappings', -, -, hrun⟩ := run_sweep id husers hmappings
  obtain ⟨_, _, hstores⟩ := h.stores
  unfold Script.Sat
  rw [hrun]
  refine ⟨rfl, ⟨users', mappings', ?_⟩, h.disk⟩
  rw [hstores]
  rfl

end Resting

/-! ## Creating and deleting organizations

Only these two services write to a catalog, the one of organizations. Nothing that is owned changes
by it, and of the organizations one is added, or one copy of one is taken away. -/

/-- All that is owned is as it was, and what was found is found. -/
structure State.Grown (before after : State) : Prop where
  holdings : after.holdings = before.holdings
  finds : ∀ id, before.Finds id → after.Finds id

/-- All that is owned is as it was, and one layer has lost an organization. -/
structure State.Shed (before : State) (id : String) (after : State) : Prop where
  holdings : after.holdings = before.holdings
  others : ∀ other, other ≠ id → (after.Finds other ↔ before.Finds other)
  itself : after.Finds id ↔ before.copies id ≠ 1

section Catalogs

variable {premises : Premises} {tables : PrimaryTables} {disk : Disk} {context : Context}
  {state after : State}

/-- Between two states of the same catalogs nothing has changed hands or gone missing. -/
theorem State.Catalogs.grown (h : state.Catalogs premises tables disk)
    (hafter : after.Catalogs premises tables disk) : state.Grown after where
  holdings := by rw [h.holdings, hafter.holdings]
  finds id hfound := (hafter.finds id).2 ((h.finds id).1 hfound)

/-- **Under its own id the last of the copies takes the organization along.** -/
theorem finds_after_delete {id : String} {organization : Organization}
    {stacked stacked' : List Organization} {readings' : Readings Organization}
    (hswaps : Swaps id [organization] [] stacked stacked') (hout : readings'.OutOf stacked') :
    readings'.Finds id ↔ (namesakes id stacked).length ≠ 1 := by
  obtain ⟨rest, hbefore, hafter⟩ := hswaps.namesakes
  -- the deleted copy was on top, and what is found now is the next one
  rw [hout.finds_iff, firstWithId_eq_head?, hbefore, hafter]
  cases rest with
  | nil => simp
  | cons next below => simp

/-- What the catalog of organizations finds comes first in its stacked listing. -/
theorem Premises.organizationsOver_outOf (premises : Premises) (table : Table Organization)
    (disk : Disk) : ((premises.organizationsOver table).readings disk).OutOf
      ((premises.organizationsOver table).stacked disk) :=
  Catalog.over_outOf table disk

/-- An organization that is added lies in the table, and no file changes. -/
theorem organizations_add_grows (context : Context) (h : state.Catalogs premises tables disk)
    (organization : Organization) :
    (organizations.add context organization).Sat state fun _ after =>
      (∃ table, after.Catalogs premises { tables with organizations := table } disk)
        ∧ state.Grown after := by
  have hkind : (Write.add organization).kind ≠ .update := nofun
  have hsame : (∃ table, state.Catalogs premises { tables with organizations := table } disk)
      ∧ state.Grown state := ⟨⟨tables.organizations, h⟩, h.grown h⟩
  obtain ⟨users, mappings, hstores⟩ := h.stores
  obtain ⟨answer, table, world, hmade, hdisk, hsettled⟩ :=
    Catalog.over_add organization state.world
  show (organizations.write context (.add organization)).Sat state _
  unfold Script.Sat
  rcases admins_write context hkind hstores hmade with ⟨error, hrefused⟩ | hwritten
  · rw [hrefused]
    exact hsame
  rw [hwritten]
  let added : State :=
    ⟨premises.storesOver { tables with users, mappings, organizations := table }, world⟩
  have hadded : added.Catalogs premises { tables with organizations := table } disk :=
    ⟨⟨users, mappings, rfl⟩, hdisk.trans h.disk⟩
  refine ⟨⟨table, hadded⟩, ?_, fun id hfound => ?_⟩
  · rw [h.holdings, hadded.holdings]
    rfl
  rw [h.finds] at hfound
  rw [hadded.finds]
  -- a refused addition leaves the table, another one puts the organization on top
  rcases hsettled with ⟨-, hsame⟩ | ⟨created, -, hchange⟩
  · simp only at hsame
    rw [hsame]
    exact hfound
  · obtain ⟨old, new, hexchange, hrows⟩ := hchange.exchange
    obtain ⟨rfl, rfl, -⟩ := hexchange.of_add
    have hswaps : Swaps (Record.id created) [] [created]
        ((premises.organizationsOver tables.organizations).stacked disk)
        ((premises.organizationsOver table).stacked disk) := by
      rw [Catalog.stacked_over, Catalog.stacked_over]
      exact hrows.append_right _
    have hbefore := premises.organizationsOver_outOf tables.organizations disk
    have hafter := premises.organizationsOver_outOf table disk
    -- under its own id the new one is found, if nothing else was there
    by_cases hid : id = Record.id created
    · rw [hid]
      exact hswaps.finds_new hafter
    · exact (hswaps.finds_away hbefore hafter hid).2 hfound

/-- Creating an organization loses none, even if the creator cannot be enrolled and the service
fails. -/
theorem createOrganization_grows (context : Context) (h : state.Catalogs premises tables disk)
    (organization : Organization) :
    (Organizations.create context organization).Sat state fun _ after =>
      (∃ table, after.Catalogs premises { tables with organizations := table } disk)
        ∧ state.Grown after := by
  have hsame : (∃ table, state.Catalogs premises { tables with organizations := table } disk)
      ∧ state.Grown state := ⟨⟨tables.organizations, h⟩, h.grown h⟩
  unfold Organizations.create
  split
  · exact hsame
  split
  · exact hsame
  rw [Script.sat_bind, Script.sat_orFail]
  refine (organizations_add_grows context h organization).mono ?_
  rintro answer added ⟨⟨table, hadded⟩, hgrown⟩
  cases answer with
  | error error => exact ⟨⟨table, hadded⟩, hgrown⟩
  | ok created =>
    -- what comes after the addition are writes to the users
    refine Script.Sat.then_reading ?_ fun _ => .pure _
    refine (enrolCreator_rests created).sat (fun {after} hafter => ?_) hadded
    have hlast := hadded.grown hafter
    exact ⟨⟨table, hafter⟩, hlast.holdings.trans hgrown.holdings,
      fun id hfound => hlast.finds id (hgrown.finds id hfound)⟩

/-- The files of other catalogs stay where they are. -/
theorem holdings_after_delete {table : Table Organization} {world world' : World} {id : String}
    {answer : Except StoreError Unit} {after : Store Organization}
    (hwrite : (premises.organizationsOver table).write (.delete id) world
      = (answer, after, world')) :
    (premises.storesOver tables).holdings world'.disk
      = (premises.storesOver tables).holdings world.disk := by
  have hbeside {σ : Type} [Record σ] {extension : String} (hextension : extension ≠ "org")
      (lists : List (String × List σ)) :=
    Catalog.over_delete_apart hextension hwrite lists
  rw [holdings_over, holdings_over, hbeside (by decide), hbeside (by decide),
    hbeside (by decide)]

/-- A deletion takes one copy away, from the table or from the files. -/
theorem organizations_delete_sheds (context : Context) (h : state.Catalogs premises tables disk)
    (hnames : disk.NamesOnce) (id : String) :
    (organizations.delete context id).Sat state fun answer after =>
      (∃ error, answer = .error error) ∧ after.Catalogs premises tables disk
        ∨ answer = .ok () ∧ state.Shed id after ∧ ∃ table disk', disk'.NamesOnce
          ∧ after.Catalogs premises { tables with organizations := table } disk' := by
  have hkind : (Write.delete id : Write Organization Unit).kind ≠ .update := nofun
  obtain ⟨users, mappings, hstores⟩ := h.stores
  obtain ⟨answer, table, world, hmade, hnames', hcases⟩ : Catalog.SettlesOver "organizations"
      premises.settings.resourcesPath "org" [] tables.organizations (.delete id) state.world :=
    Catalog.over_write (.delete id) (h.disk ▸ hnames) fun h => absurd h hkind
  show (organizations.write context (.delete id)).Sat state _
  unfold Script.Sat
  rcases admins_write context hkind hstores hmade with ⟨error, hrefused⟩ | hwritten
  · rw [hrefused]
    exact .inl ⟨⟨error, rfl⟩, h⟩
  rw [hwritten]
  let deleted : State :=
    ⟨premises.storesOver { tables with users, mappings, organizations := table }, world⟩
  -- the deletion may be refused in the catalog, or it takes one copy off the listing
  rcases hcases with ⟨hrefused, rfl, hdisk⟩ | ⟨value, old, new, rfl, hexchange, hswaps⟩
  · exact .inl ⟨hrefused, ⟨users, mappings, rfl⟩, hdisk.trans h.disk⟩
  have hdeleted : deleted.Catalogs premises { tables with organizations := table } world.disk :=
    ⟨⟨users, mappings, rfl⟩, rfl⟩
  refine .inr ⟨rfl, ⟨?_, fun other hother => ?_, ?_⟩, table, world.disk, hnames', hdeleted⟩
  · rw [h.holdings, ← h.disk, hdeleted.holdings]
    exact holdings_after_delete hmade
  all_goals
    have hbefore := premises.organizationsOver_outOf tables.organizations state.world.disk
    have hafter := premises.organizationsOver_outOf table world.disk
  · rw [h.finds, ← h.disk, hdeleted.finds]
    exact hswaps.finds_away hbefore hafter hother
  · obtain ⟨⟨gone, rfl⟩, rfl⟩ := hexchange.of_delete
    rw [h.copies, ← h.disk, hdeleted.finds]
    exact finds_after_delete hswaps hafter

/-- **What is owned by a deleted organization stays**, and only the users and the mappings go with
it. A deletion that is refused changes nothing in the catalogs. -/
theorem deleteOrganization_sheds (context : Context) (h : state.Catalogs premises tables disk)
    (hnames : disk.NamesOnce) (id : String) :
    (Organizations.delete context id).Sat state fun answer after =>
      (∃ error, answer = .error error) ∧ after.Catalogs premises tables disk
        ∨ answer = .ok () ∧ state.Shed id after ∧ ∃ table disk', disk'.NamesOnce
          ∧ after.Catalogs premises { tables with organizations := table } disk' := by
  unfold Organizations.delete
  refine .after_reading (get_readOnly _ _ _).orFail (fun organization _ => ?_)
    fun error _ => .inl ⟨⟨error, rfl⟩, h⟩
  -- the default organization is refused
  split
  · exact .inl ⟨⟨_, rfl⟩, h⟩
  rw [Script.sat_bind, Script.sat_orFail]
  refine (organizations_delete_sheds context h hnames id).mono ?_
  rintro _ deleted (⟨⟨error, rfl⟩, hafter⟩ | ⟨rfl, hshed, table, disk', hnames', hdeleted⟩)
  · exact .inl ⟨⟨_, rfl⟩, hafter⟩
  · refine (sweep_rests hdeleted id).mono ?_
    rintro answer after ⟨hanswer, hafter⟩
    -- the sweep is among users and mappings, and the catalogs find what they have found before it
    have hlast := hdeleted.grown hafter
    have hback := hafter.grown hdeleted
    have hfinds (other : String) : after.Finds other ↔ deleted.Finds other :=
      ⟨hback.finds other, hlast.finds other⟩
    refine .inr ⟨hanswer, ⟨hlast.holdings.trans hshed.holdings, fun other hother => ?_, ?_⟩,
      table, disk', hnames', hafter⟩
    · exact (hfinds other).trans (hshed.others other hother)
    · exact (hfinds id).trans hshed.itself

end Catalogs

/-! ## Runs -/

/-- What the services are asked for, by whom. -/
inductive ServiceCall where
  | createOrganization (context : Context) (organization : Organization)
  | deleteOrganization (context : Context) (id : String)
  | createUser (context : Context) (submission : UserSubmission)
  | updateUser (context : Context) (id : String) (patch : UserPatch)
  | provision (adminGroup : Option String) (principal : Principal)

namespace ServiceCall

/-- The state that a call leaves, whatever it answers. -/
def leaves (state : State) : ServiceCall → State
  | createOrganization context organization =>
    ((Organizations.create context organization).run state).2
  | deleteOrganization context id => ((Organizations.delete context id).run state).2
  | createUser context submission => ((Users.create context submission).run state).2
  | updateUser context id patch => ((Users.update context id patch).run state).2
  | provision adminGroup principal => ((Login.provision adminGroup principal).run state).2

/-- The call deletes the only copy of an organization that owns something. -/
def Orphans (state : State) : ServiceCall → Prop
  | deleteOrganization context id =>
    ((Organizations.delete context id).run state).1 = .ok ()
      ∧ id ∈ state.holdings.owners ∧ state.copies id = 1
  | _ => False

end ServiceCall

/-- The state after a run of service calls. -/
def State.afterServices (state : State) (calls : List ServiceCall) : State :=
  calls.foldl ServiceCall.leaves state

section Runs

variable {premises : Premises} {tables : PrimaryTables} {disk : Disk} {state : State}

/-- Where more organizations are found than before and nothing else is owned, all owners are still
found. -/
theorem State.Grown.tenanted {before after : State} (h : before.Grown after)
    (htenanted : before.Tenanted) : after.Tenanted := by
  intro id howner
  rw [h.holdings] at howner
  exact h.finds id (htenanted id howner)

/-- Losing a copy of one organization harms exactly if it was the only copy and owned something. -/
theorem State.Shed.tenanted_iff {before after : State} {id : String} (h : before.Shed id after)
    (htenanted : before.Tenanted) :
    after.Tenanted ↔ ¬ (id ∈ before.holdings.owners ∧ before.copies id = 1) := by
  constructor
  · rintro hafter ⟨howner, hone⟩
    rw [← h.holdings] at howner
    exact h.itself.1 (hafter id howner) hone
  · intro hspared other howner
    rw [h.holdings] at howner
    -- the organization itself is found as long as another copy is left, all others as before
    by_cases hother : other = id
    · subst hother
      exact h.itself.2 fun hone => hspared ⟨howner, hone⟩
    · exact (h.others other hother).2 (htenanted other howner)

/-- **The step.** A call leaves all that is owned as it is. Where the owners have been found they
are found afterwards, unless the call orphans some of it. -/
theorem ServiceCall.settles (h : state.Catalogs premises tables disk) (hnames : disk.NamesOnce)
    (call : ServiceCall) :
    (∃ tables disk, disk.NamesOnce ∧ (call.leaves state).Catalogs premises tables disk)
      ∧ (call.leaves state).holdings = state.holdings
      ∧ (state.Tenanted → ((call.leaves state).Tenanted ↔ ¬ call.Orphans state)) := by
  have hrests {α : Type} {script : ServiceScript α}
      (hscript : script.Upholds (State.Catalogs premises tables disk) fun _ => True) :
      (∃ tables disk, disk.NamesOnce ∧ (script.run state).2.Catalogs premises tables disk)
        ∧ (script.run state).2.holdings = state.holdings
        ∧ (state.Tenanted → ((script.run state).2.Tenanted ↔ ¬ False)) := by
    -- a call that lets the catalogs rest orphans nothing
    have hafter := (hscript state h).1
    have hgrown := h.grown hafter
    exact ⟨⟨tables, disk, hnames, hafter⟩, hgrown.holdings,
      fun htenanted => iff_of_true (hgrown.tenanted htenanted) not_false⟩
  -- only the last two write to the catalogs, and only the deletion can lose an owner
  cases call with
  | createUser context submission => exact hrests (createUser_rests submission)
  | updateUser context id patch => exact hrests (updateUser_rests id patch)
  | provision adminGroup principal => exact hrests (provision_rests adminGroup principal)
  | createOrganization context organization =>
    obtain ⟨⟨table, hafter⟩, hgrown⟩ := createOrganization_grows context h organization
    exact ⟨⟨_, disk, hnames, hafter⟩, hgrown.holdings,
      fun htenanted => iff_of_true (hgrown.tenanted htenanted) not_false⟩
  | deleteOrganization context id =>
    rcases deleteOrganization_sheds context h hnames id with
      ⟨⟨error, hrefused⟩, hafter⟩ | ⟨hmade, hshed, table, disk', hnames', hafter⟩
    · have hgrown := h.grown hafter
      refine ⟨⟨tables, disk, hnames, hafter⟩, hgrown.holdings,
        fun htenanted => iff_of_true (hgrown.tenanted htenanted) ?_⟩
      rintro ⟨hok, -⟩
      cases hrefused.symm.trans hok
    · refine ⟨⟨_, disk', hnames', hafter⟩, hshed.holdings, fun htenanted => ?_⟩
      refine (hshed.tenanted_iff htenanted).trans (not_congr ?_)
      exact ⟨fun horphans => ⟨hmade, horphans⟩, And.right⟩

/-- No call of a run touches what is owned. -/
theorem afterServices_holdings (h : state.Catalogs premises tables disk) (hnames : disk.NamesOnce)
    (calls : List ServiceCall) : (state.afterServices calls).holdings = state.holdings := by
  induction calls generalizing state tables disk with
  | nil => rfl
  | cons call rest ih =>
    obtain ⟨⟨tables', disk', hnames', hafter⟩, hholdings, -⟩ := call.settles h hnames
    exact (ih hafter hnames').trans hholdings

/-- What is so at every point of a run is so at its start and at every point of the rest. -/
theorem forall_prefix_cons {α : Type} {holds : List α → Prop} {first : α} {rest : List α} :
    (∀ before, before <+: first :: rest → holds before)
      ↔ holds [] ∧ ∀ before, before <+: rest → holds (first :: before) := by
  simp only [List.prefix_cons_iff]
  constructor
  · intro h
    exact ⟨h [] (.inl rfl), fun before hbefore => h _ (.inr ⟨before, rfl, hbefore⟩)⟩
  · rintro ⟨hstart, hlater⟩ before (rfl | ⟨later, rfl, hbefore⟩)
    · exact hstart
    · exact hlater later hbefore

/-- What holds of every call with those before it holds of the first one and of each of the rest
with one more before it. -/
theorem forall_call_cons {α : Type} {holds : List α → α → Prop} {first : α} {rest : List α} :
    (∀ before call, before ++ [call] <+: first :: rest → holds before call)
      ↔ holds [] first
        ∧ ∀ before call, before ++ [call] <+: rest → holds (first :: before) call := by
  constructor
  · intro h
    refine ⟨h [] first (by simp), fun before call hbefore => h _ call ?_⟩
    exact (List.prefix_cons_inj first).2 hbefore
  · rintro ⟨hstart, hlater⟩ before call hbefore
    cases before with
    | nil =>
      obtain ⟨rfl, -⟩ := List.cons_prefix_cons.1 hbefore
      exact hstart
    | cons head before =>
      obtain ⟨rfl, hrest⟩ := List.cons_prefix_cons.1 hbefore
      exact hlater before call hrest

/-- **The run.** The owners are found at every point of it exactly if no call orphans anything. -/
theorem afterServices_tenanted (h : state.Catalogs premises tables disk) (hnames : disk.NamesOnce)
    (htenanted : state.Tenanted) (calls : List ServiceCall) :
    (∀ before, before <+: calls → (state.afterServices before).Tenanted)
      ↔ ∀ before call, before ++ [call] <+: calls →
          ¬ call.Orphans (state.afterServices before) := by
  -- along the calls, each of which starts from catalogs of its own
  induction calls generalizing state tables disk with
  | nil =>
    refine iff_of_true (fun before hbefore => ?_) fun before call hbefore => ?_
    · rw [List.prefix_nil.1 hbefore]
      exact htenanted
    · cases List.append_eq_nil_iff.1 (List.prefix_nil.1 hbefore) with
      | intro _ hcall => cases hcall
  | cons call rest ih =>
    obtain ⟨⟨tables', disk', hnames', hafter⟩, -, hstep⟩ := call.settles h hnames
    have hstep := hstep htenanted
    rw [forall_prefix_cons, forall_call_cons]
    by_cases horphans : call.Orphans state
    · -- the point right after this call is one where an owner is missing
      refine iff_of_false (fun hstays => ?_) fun hspared => hspared.1 horphans
      exact hstep.1 (hstays.2 [] List.nil_prefix) horphans
    · have hrest := ih hafter hnames' (hstep.2 horphans)
      exact ⟨fun hstays => ⟨horphans, hrest.1 hstays.2⟩,
        fun hspared => ⟨htenanted, hrest.2 hspared.2⟩⟩

/-- **When nothing is left to the next tenant.** Let the stores be put together over tables, with or
without a directory and connections, so that the catalog of organizations finds the owner of every
source, server and dashboard. Whatever the services are asked for, all that is owned stays with its
owner. The owners are found at every point of a run exactly if no call deletes an organization that
owns something and of which there is one copy. The disk names the entries of a directory once. -/
theorem tenancies_settle {settings : CatalogSettings} {tables : PrimaryTables} {stores : Stores}
    (hassembled : Stores.assemble settings tables.stores = .ok stores) {world : World}
    (hnames : world.disk.NamesOnce) (htenanted : State.Tenanted ⟨stores, world⟩)
    (calls : List ServiceCall) :
    (State.afterServices ⟨stores, world⟩ calls).holdings = State.holdings ⟨stores, world⟩
      ∧ ((∀ before, before <+: calls → (State.afterServices ⟨stores, world⟩ before).Tenanted)
        ↔ ∀ before call, before ++ [call] <+: calls →
            ¬ call.Orphans (State.afterServices ⟨stores, world⟩ before)) := by
  obtain ⟨flagSources, flagServers, hstores, -⟩ := assemble_over hassembled
  let premises : Premises := ⟨settings, flagSources, flagServers⟩
  have hcatalogs : State.Catalogs premises tables world.disk ⟨stores, world⟩ :=
    ⟨⟨tables.users, tables.mappings, hstores⟩, rfl⟩
  exact ⟨afterServices_holdings hcatalogs hnames calls,
    afterServices_tenanted hcatalogs hnames htenanted calls⟩

end Runs

namespace Estate

def world : World := { ids := fun _ => "" }

/-- A member of the organization. -/
def member : Context := { organization := some "o" }

/-- An organization that owns a source. -/
def organization : Organization := { id := "o", name := "O", defaultRole := .viewer }

/-- An organization that owns nothing. -/
def bare : Organization := { id := "p", name := "P", defaultRole := .viewer }

def owned : Source := { id := "s", name := "", url := "", organization := "o" }

/-- Two organizations, one of which owns something. -/
def tables : PrimaryTables :=
  { sources := Table.empty.insert owned
    organizations := (Table.empty.insert organization).insert bare }

/-- The stores over these tables, without files and connections. -/
def stores : Stores := .layeredOver {} [] [] tables.stores

theorem assembled : Stores.assemble {} tables.stores = .ok stores := rfl

theorem tenanted : State.Tenanted ⟨stores, world⟩ := by
  intro id howner
  have hid : id = "o" := List.mem_singleton.1 howner
  exact ⟨organization, hid ▸ rfl⟩

end Estate

/-- An organization that owns nothing can be deleted. -/
theorem tenancies_settle_bare :
    Stores.assemble {} Estate.tables.stores = .ok Estate.stores
      ∧ Estate.world.disk.NamesOnce ∧ State.Tenanted ⟨Estate.stores, Estate.world⟩
      ∧ ∀ before, before <+: [.deleteOrganization .server "p"] →
          (State.afterServices ⟨Estate.stores, Estate.world⟩ before).Tenanted := by
  have hnames : Estate.world.disk.NamesOnce := fun _ _ => nofun
  refine ⟨Estate.assembled, hnames, Estate.tenanted, ?_⟩
  refine (tenancies_settle Estate.assembled hnames Estate.tenanted _).2.2 ?_
  rintro before call hbefore
  -- the run has one call, which deletes an organization that owns nothing
  cases before with
  | nil =>
    obtain ⟨rfl, -⟩ := List.cons_prefix_cons.1 hbefore
    rintro ⟨-, howner, -⟩
    exact absurd (List.mem_singleton.1 howner) (by decide)
  | cons head before =>
    have hrest := (List.cons_prefix_cons.1 hbefore).2
    exact absurd (List.prefix_nil.1 hrest) (by simp)

/-- A deletion succeeds and the source of the organization stays. It is no one's then, until an
organization is created under the old id, and is listed to its members. -/
theorem deleted_source_inherited :
    State.Tenanted ⟨Estate.stores, Estate.world⟩
      ∧ ∃ deleted recreated,
        (Organizations.delete .server "o").run ⟨Estate.stores, Estate.world⟩ = (.ok (), deleted)
          ∧ Estate.owned ∈ deleted.holdings.sources ∧ ¬ deleted.Tenanted
          ∧ (Organizations.create .server Estate.organization).run deleted
            = (.ok Estate.organization, recreated)
          ∧ (Collection.sources.readings Estate.member recreated).all = .ok [Estate.owned] := by
  refine ⟨Estate.tenanted, _, _, rfl, .head _, fun htenanted => ?_, rfl, rfl⟩
  obtain ⟨found, hfound⟩ := htenanted "o" (.head _)
  cases hfound

end TenantConsole
