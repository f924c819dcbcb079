import TenantConsole.Proofs.AkinStores
import TenantConsole.Proofs.InMemory
import TenantConsole.Proofs.UserServices
import TenantConsole.Service.Organizations

/-!
# Services on failing stores

Two states are akin if their stores are, one by one, and the world around them is the same. A script
is `Discreet` if from akin states it makes the same steps, to akin states, and ends with the same
value or with errors that differ in the texts of failures only.

Every service is discreet. The calls on collections are, because akin stores are read and written
alike (`discreet_write` and the like); what a service puts around them takes values, which are the
same, and errors, of which it asks at most whether something is missing. The proofs follow the text
of the services.
-/

namespace TenantConsole

/-! ## States -/

/-- Primary stores that are akin one by one. -/
structure PrimaryStores.Akin (one other : PrimaryStores) : Prop where
  sources : one.sources.Akin other.sources
  servers : one.servers.Akin other.servers
  users : one.users.Akin other.users
  dashboards : one.dashboards.Akin other.dashboards
  organizations : one.organizations.Akin other.organizations
  config : one.config.Akin other.config
  mappings : one.mappings.Akin other.mappings
  layouts : one.layouts.Akin other.layouts

/-- The stores that the console works on, akin one by one. The protoboards and the templates are not
kept in primary stores, but they are stores like any other. -/
structure Stores.Akin (one other : Stores) : Prop where
  sources : one.sources.Akin other.sources
  servers : one.servers.Akin other.servers
  users : one.users.Akin other.users
  dashboards : one.dashboards.Akin other.dashboards
  organizations : one.organizations.Akin other.organizations
  config : one.config.Akin other.config
  mappings : one.mappings.Akin other.mappings
  layouts : one.layouts.Akin other.layouts
  protoboards : one.protoboards.Akin other.protoboards
  templates : one.templates.Akin other.templates

/-- Akin stores in the same world: the same disk, and the same ids to draw. -/
structure State.Akin (one other : State) : Prop where
  stores : one.stores.Akin other.stores
  world : one.world = other.world

section Assembly

variable {ρ : Type} [Record ρ]

/-- The layers below the primary store are the same on both sides. Induction on the chain. -/
theorem Layers.paired_refl : (layers : Layers ρ) → layers.Paired Store.Akin layers
  | .nil => .nil
  | .cons name store rest => .cons name (.same store) (paired_refl rest)

/-- Two chains that differ in the primary store at their top. -/
theorem akin_over {primary primary' : Store ρ} (h : primary.Akin primary') (catalog : String)
    (below : List (String × Store ρ)) :
    (Chain.store ⟨catalog, Catalog.databaseLayer primary ++ below⟩).Akin
      (Chain.store ⟨catalog, Catalog.databaseLayer primary' ++ below⟩) :=
  .layered catalog (fun h => h) (.cons "database" h (Layers.paired_refl (.ofList below)))

end Assembly

/-- **Akin primary stores make akin stores.** -/
theorem assemble_akin {settings : CatalogSettings} {primary primary' : PrimaryStores}
    (h : primary.Akin primary') {stores : Stores}
    (hstores : Stores.assemble settings primary = .ok stores) :
    ∃ stores', Stores.assemble settings primary' = .ok stores' ∧ stores.Akin stores' := by
  -- whether the stores can be put together depends on the settings, not on the primary stores
  obtain ⟨sources, servers, rfl, hassembles⟩ := assemble_over hstores
  refine ⟨_, hassembles primary', ?_⟩
  exact
    { sources := akin_over h.sources _ _
      servers := akin_over h.servers _ _
      users := h.users
      dashboards := akin_over h.dashboards _ _
      organizations := akin_over h.organizations _ _
      config := h.config
      mappings := h.mappings
      layouts := akin_over h.layouts _ _
      protoboards := .same _
      templates := .same _ }

/-! ## Errors of the services -/

/-- The guard only hands on what a look-up has run into; its own refusals are the same. -/
inductive GuardError.Akin : GuardError → GuardError → Prop where
  | same (error : GuardError) : Akin error error
  | store {error error' : StoreError} (h : error.Akin error') : Akin (.store error) (.store error')

/-- Errors of the services are akin if they are the same, or hand on akin errors of the stores or
of the guard. -/
inductive ServiceError.Akin : ServiceError → ServiceError → Prop where
  | same (error : ServiceError) : Akin error error
  | store {error error' : StoreError} (h : error.Akin error') : Akin (.store error) (.store error')
  | guard {error error' : GuardError} (h : error.Akin error') : Akin (.guard error) (.guard error')

/-! ## Discreet scripts -/

/-- A script that goes the same way from akin states; its own errors may be related again. -/
abbrev Script.Discreet {ε α : Type} (errors : ε → ε → Prop) (script : Script State ε α) : Prop :=
  script.Matches State.Akin errors script

/-! ### Calls -/

/-- What a caller sees a store through. Only a scope has to be discreet: without one the store is
seen as it is, or not at all. -/
def Access.Discreet {ρ : Type} [Record ρ] : Access ρ → Prop
  | .within scope => scope.Discreet
  | .full | .nothing => True

section Access

variable {ρ : Type} [Record ρ] {access : Access ρ} {store store' seen seen' : Store ρ}

/-- What is seen of akin stores is akin. -/
theorem Access.Discreet.view (haccess : access.Discreet) (h : store.Akin store') :
    (access.view store).Akin (access.view store') := by
  cases access with
  | full => exact h
  | within scope => exact .behind haccess h
  | nothing => exact .same _

/-- Putting back what became of the seen store keeps stores akin. The scope that was put around one
store comes off again, and it comes off the other one as well. -/
theorem Access.akin_back (access : Access ρ) (h : store.Akin store') (hseen : seen.Akin seen') :
    (access.back store seen).Akin (access.back store' seen') := by
  cases access with
  | full => exact hseen
  | nothing => exact h
  | within scope =>
    -- only a scope on the outside is taken off, and akin stores have theirs in the same place
    cases hseen with
    | same seen => cases seen <;> first | exact h | exact .same _
    | faulty herror refused hinner => exact h
    | layered catalog hrelated hlayers => exact h
    | behind hscope hinner => exact hinner

end Access

/-- A collection that reads and replaces one of the stores, for callers that see it through a
discreet scope, if through any. -/
structure Collection.Discreet {ρ : Type} [Record ρ] (collection : Collection ρ) : Prop where
  access : ∀ context, (collection.access context).Discreet
  store : ∀ {stores stores' : Stores}, stores.Akin stores' →
    (collection.store stores).Akin (collection.store stores')
  replace : ∀ {stores stores' : Stores} {store store' : Store ρ}, stores.Akin stores' →
    store.Akin store' → (collection.replace stores store).Akin (collection.replace stores' store')

namespace Collection

/-- The scope of a tenant asks for the owner of a record, and records are the same on both sides. -/
theorem discreet_ofOwned {ρ : Type} [Owned ρ] (context : Context) :
    (Access.ofOwned context : Access ρ).Discreet := by
  unfold Access.ofOwned
  cases context.scope .tenant with
  | tenant organization => exact Scoping.discreet_owned organization
  | _ => trivial

theorem discreet_ofGlobal {ρ : Type} [Record ρ] (context : Context) :
    (Access.ofGlobal context : Access ρ).Discreet := by
  unfold Access.ofGlobal
  cases context.scope .global <;> trivial

/-- The scope of the members asks for their roles. -/
theorem discreet_ofUsers (context : Context) : (Access.ofUsers context).Discreet := by
  unfold Access.ofUsers
  cases context.scope .tenant with
  | tenant organization => exact Scoping.discreet_membership organization
  | _ => trivial

/-- The scope of an organization asks for the id. -/
theorem discreet_ofOrganizations (context : Context) :
    (Access.ofOrganizations context).Discreet := by
  unfold Access.ofOrganizations
  cases context.scope .global with
  | tenant organization => exact Scoping.discreet_itself organization
  | _ => trivial

/-- The ten collections differ in the store that they name and in the scope that they are seen
through, and in nothing else. -/
theorem sources_discreet : sources.Discreet :=
  ⟨discreet_ofOwned, fun h => h.sources, fun h hstore => { h with sources := hstore }⟩

theorem servers_discreet : servers.Discreet :=
  ⟨discreet_ofOwned, fun h => h.servers, fun h hstore => { h with servers := hstore }⟩

theorem dashboards_discreet : dashboards.Discreet :=
  ⟨discreet_ofOwned, fun h => h.dashboards, fun h hstore => { h with dashboards := hstore }⟩

theorem users_discreet : users.Discreet :=
  ⟨discreet_ofUsers, fun h => h.users, fun h hstore => { h with users := hstore }⟩

theorem organizations_discreet : organizations.Discreet :=
  ⟨discreet_ofOrganizations, fun h => h.organizations,
    fun h hstore => { h with organizations := hstore }⟩

theorem config_discreet : config.Discreet :=
  ⟨discreet_ofGlobal, fun h => h.config, fun h hstore => { h with config := hstore }⟩

theorem mappings_discreet : mappings.Discreet :=
  ⟨discreet_ofGlobal, fun h => h.mappings, fun h hstore => { h with mappings := hstore }⟩

theorem layouts_discreet : layouts.Discreet :=
  ⟨fun _ => trivial, fun h => h.layouts, fun h hstore => { h with layouts := hstore }⟩

theorem protoboards_discreet : protoboards.Discreet :=
  ⟨fun _ => trivial, fun h => h.protoboards, fun h hstore => { h with protoboards := hstore }⟩

theorem templates_discreet : templates.Discreet :=
  ⟨fun _ => trivial, fun h => h.templates, fun h hstore => { h with templates := hstore }⟩

section Calls

variable {ρ : Type} [Record ρ] {collection : Collection ρ} (hdiscreet : collection.Discreet)
  (context : Context)

include hdiscreet

/-- A collection is seen alike in akin states. -/
theorem seen_akin {state state' : State} (h : state.Akin state') :
    (collection.seen context state).Akin (collection.seen context state') :=
  (hdiscreet.access context).view (hdiscreet.store h.stores)

/-- A collection reads alike in akin states: its store is akin and the disk is the same. -/
theorem readings_akin {state state' : State} (h : state.Akin state') :
    (collection.readings context state).Akin (collection.readings context state') := by
  unfold readings
  rw [← h.world]
  exact (seen_akin hdiscreet context h).readings state.world.disk

theorem discreet_all : (collection.all context).Discreet StoreError.Akin :=
  .look fun h => (readings_akin hdiscreet context h).all

theorem discreet_get (id : String) : (collection.get context id).Discreet StoreError.Akin :=
  .look fun h => (readings_akin hdiscreet context h).get id

theorem discreet_find (query : Query ρ) :
    (collection.find context query).Discreet StoreError.Akin :=
  .look fun h => (readings_akin hdiscreet context h).find query

/-- **A write answers alike and leaves akin states.** -/
theorem discreet_write {α : Type} (write : Write ρ α) :
    (collection.write context write).Discreet StoreError.Akin := by
  -- a write is one call, so it is enough to compare the two outcomes
  refine .call fun {state state'} h => ?_
  have houtcomes := (seen_akin hdiscreet context h).write write state.world
  unfold change
  rw [← h.world]
  refine ⟨houtcomes.answers, ?_, houtcomes.world⟩
  exact hdiscreet.replace h.stores
    (Access.akin_back _ (hdiscreet.store h.stores) houtcomes.left)

omit hdiscreet [Record ρ] in
/-- Taking a missing record for an answer asks of an error only whether something is missing. -/
theorem matches_orNone {found found' : Except StoreError ρ} : UpTo StoreError.Akin found found' →
    (match found with
      | .ok record => pure (some record)
      | .error error => if error.isNotFound then pure none else .fail error :
      StoreScript (Option ρ)).Matches State.Akin StoreError.Akin
    (match found' with
      | .ok record => pure (some record)
      | .error error => if error.isNotFound then pure none else .fail error :
      StoreScript (Option ρ)) := by
  intro h
  cases h with
  | ok record => exact .pure _
  | error herror =>
    -- both sides take the same branch: akin errors are missing records together
    simp only [herror.isNotFound]
    split
    · exact .pure _
    · exact .fail herror

/-- A look-up that takes a missing record for an answer is discreet: a record is missing on both
sides or on neither. -/
theorem discreet_get? (id : String) : (collection.get? context id).Discreet StoreError.Akin :=
  (discreet_get hdiscreet context id).bind_attempt matches_orNone

theorem discreet_find? (query : Query ρ) :
    (collection.find? context query).Discreet StoreError.Akin :=
  (discreet_find hdiscreet context query).bind_attempt matches_orNone

end Calls

end Collection

/-! ### Roles -/

section Services

open Collection

/-- What is handed on as another kind of error stays akin. -/
theorem Script.Discreet.service {α : Type} {script : StoreScript α}
    (h : script.Discreet StoreError.Akin) :
    (script.orFail ServiceError.store).Discreet ServiceError.Akin :=
  h.orFail .store

/-- A discreet guard is still discreet when a service hands on its errors. -/
theorem Script.Discreet.guard {α : Type} {script : Script State GuardError α}
    (h : script.Discreet GuardError.Akin) :
    (script.orFail ServiceError.guard).Discreet ServiceError.Akin :=
  h.orFail .guard

/-- Induction on the mappings. Whether one is passed over is decided by the principal and by the
organizations found so far, which are the same; the look-up is discreet. -/
theorem granted_discreet (principal : Principal) (seen : List String) (mappings : List Mapping) :
    (Roles.granted principal seen mappings).Discreet StoreError.Akin := by
  induction mappings generalizing seen with
  | nil => exact .pure _
  | cons mapping rest ih =>
    unfold Roles.granted
    split
    · exact ih seen
    · refine .bind (discreet_get? organizations_discreet _ _) fun found => ?_
      cases found with
      | none => exact ih seen
      | some organization => exact .bind (ih _) fun roles => .pure _

/-- The mappings are listed first, and granted after that. -/
theorem ofPrincipal_discreet (principal : Principal) :
    (Roles.ofPrincipal principal).Discreet StoreError.Akin :=
  .bind (discreet_all mappings_discreet _) fun found => granted_discreet principal [] found

/-- Induction on the roles, with one look-up for each. -/
theorem resolve_discreet (roles : List Role) :
    (Roles.resolve roles).Discreet GuardError.Akin := by
  induction roles with
  | nil => exact .pure _
  | cons role rest ih =>
    unfold Roles.resolve
    have hlooked : ((organizations.get? .server role.organization).orFail GuardError.store).Discreet
        GuardError.Akin := (discreet_get? organizations_discreet _ _).orFail .store
    refine .bind hlooked fun found => ?_
    cases found with
    | none => exact .fail (.same _)
    | some organization => exact .bind ih fun roles => .pure _

/-- The check itself looks at no store, so it is the same on both sides. -/
theorem validate_discreet (caller : Context) (target : Option User) (requests : List RoleRequest)
    (superAdmin : Bool) :
    (Roles.validate caller target requests superAdmin).Discreet GuardError.Akin :=
  .bind (.ofExcept (.refl .same _)) resolve_discreet

/-! ### Users -/

theorem createUser_discreet (context : Context) (submission : UserSubmission) :
    (Users.create context submission).Discreet ServiceError.Akin := by
  unfold Users.create
  split
  · exact .fail (.same _)
  · -- the submission is complete: the guard, the look-up and the addition follow one another
    refine .bind (validate_discreet ..).guard fun roles => ?_
    refine .bind (discreet_find? users_discreet _ _).service fun found => ?_
    cases found with
    | some existing => exact .fail (.same _)
    | none => exact (discreet_write users_discreet _ _).service

/-- Four steps, each of them discreet, in the order of the service. -/
theorem updateUser_discreet (context : Context) (id : String) (patch : UserPatch) :
    (Users.update context id patch).Discreet ServiceError.Akin := by
  unfold Users.update
  refine .bind (discreet_get users_discreet _ _).service fun current => ?_
  refine .bind (validate_discreet ..).guard fun roles => ?_
  refine .bind (discreet_write users_discreet _ _).service fun _ => ?_
  exact (discreet_get users_discreet _ _).service

/-! ### Organizations -/

/-- A caller without a user makes no call at all. -/
theorem enrolCreator_discreet (context : Context) (organization : Organization) :
    (Organizations.enrolCreator context organization).Discreet ServiceError.Akin := by
  unfold Organizations.enrolCreator
  cases context.user with
  | none => exact .pure _
  | some creator => exact .bind (discreet_write users_discreet _ _).service fun _ => .pure _

/-- The two refusals are decided by the context and by the organization alone. -/
theorem createOrganization_discreet (context : Context) (organization : Organization) :
    (Organizations.create context organization).Discreet ServiceError.Akin := by
  unfold Organizations.create
  split
  · exact .fail (.same _)
  split
  · exact .fail (.same _)
  · refine .bind (discreet_write organizations_discreet _ _).service fun created => ?_
    exact .bind (enrolCreator_discreet context created) fun _ => .pure _

/-- Induction on the users that were listed; which of them are written is decided by their roles. -/
theorem stripRoles_discreet (id : String) (found : List User) :
    (Organizations.stripRoles id found).Discreet ServiceError.Akin := by
  induction found with
  | nil => exact .pure _
  | cons user rest ih =>
    unfold Organizations.stripRoles
    split
    · exact .bind (discreet_write users_discreet _ _).service fun _ => ih
    · exact ih

/-- Induction on the mappings that were listed, as with the users. -/
theorem dropMappings_discreet (id : String) (found : List Mapping) :
    (Organizations.dropMappings id found).Discreet ServiceError.Akin := by
  induction found with
  | nil => exact .pure _
  | cons mapping rest ih =>
    unfold Organizations.dropMappings
    split
    · exact .bind (discreet_write mappings_discreet _ _).service fun _ => ih
    · exact ih

theorem deleteOrganization_discreet (context : Context) (id : String) :
    (Organizations.delete context id).Discreet ServiceError.Akin := by
  unfold Organizations.delete
  -- the users and the mappings are listed once the organization is gone, and then swept
  refine .bind (discreet_get organizations_discreet _ _).service fun organization => ?_
  split
  · exact .fail (.same _)
  · refine .bind (discreet_write organizations_discreet _ _).service fun _ => ?_
    refine .bind (discreet_all users_discreet _).service fun found => ?_
    refine .bind (stripRoles_discreet id found) fun _ => ?_
    refine .bind (discreet_all mappings_discreet _).service fun found => ?_
    exact dropMappings_discreet id found

/-! ### Logins -/

/-- A missing configuration counts as one without the setting. -/
theorem superAdminNewUsers_discreet : Login.superAdminNewUsers.Discreet StoreError.Akin := by
  unfold Login.superAdminNewUsers
  refine .bind (discreet_get? config_discreet _ _) fun found => ?_
  cases found <;> exact .pure _

/-- The default organization is read from the stores directly and not through a scope. -/
theorem defaultOrganization_discreet : Login.defaultOrganization.Discreet StoreError.Akin := by
  refine .look fun {state state'} h => ?_
  -- read past the scope, where there is one
  have hunscoped := (seen_akin organizations_discreet .server h).unscoped
  rw [← h.world]
  exact (hunscoped.readings state.world.disk).get Organization.defaultId

/-- The group decides first, and then nothing is read. -/
theorem firstFlag_discreet (adminGroup : Option String) (principal : Principal) :
    (firstFlag adminGroup principal).Discreet StoreError.Akin := by
  unfold firstFlag
  split
  · exact .pure _
  · exact superAdminNewUsers_discreet

theorem firstRoles_discreet (granted : List Role) :
    (firstRoles granted).Discreet StoreError.Akin := by
  unfold firstRoles
  split
  · exact .bind defaultOrganization_discreet fun organization => .pure _
  · exact .pure _

/-- A first login in the form in which its parts are named: the grants, the flag, and then the
registration. -/
theorem firstLogin_discreet (adminGroup : Option String) (principal : Principal) :
    (Login.createUser adminGroup principal).Discreet StoreError.Akin := by
  rw [login_createUser_eq]
  refine .bind (ofPrincipal_discreet principal) fun granted => ?_
  refine .bind (firstFlag_discreet adminGroup principal) fun superAdmin => ?_
  unfold register
  -- the refusal names the principal, and that is the same on both sides
  split
  · exact .fail (.same _)
  · exact .bind (firstRoles_discreet granted) fun roles => discreet_write users_discreet _ _

/-- One write, or none where the flag is on or not due. -/
theorem promote_discreet (adminGroup : Option String) (principal : Principal) (user : User) :
    (Login.promote adminGroup principal user).Discreet StoreError.Akin := by
  unfold Login.promote
  split
  · exact .bind (discreet_write users_discreet _ _) fun _ => .pure _
  · exact .pure _

theorem provision_discreet (adminGroup : Option String) (principal : Principal) :
    (Login.provision adminGroup principal).Discreet ServiceError.Akin := by
  have huser : (Login.userOf adminGroup principal).Discreet StoreError.Akin := by
    refine .bind (discreet_find? users_discreet _ _) fun found => ?_
    cases found with
    | some user => exact promote_discreet adminGroup principal user
    | none => exact firstLogin_discreet adminGroup principal
  -- all calls are made by then; the context is made of the user alone
  unfold Login.provision
  refine .bind huser.service fun user => ?_
  exact .bind (.ofExcept (.refl .same _)) fun context => .pure _

/-- The context of a session takes one look-up. -/
theorem contextOf_discreet (principal : Principal) :
    (Login.contextOf principal).Discreet ServiceError.Akin := by
  unfold Login.contextOf
  refine .bind (discreet_find? users_discreet _ _).service fun found => ?_
  cases found with
  | none => exact .pure _
  | some user => exact .ofExcept (.refl .same _)

end Services

end TenantConsole
