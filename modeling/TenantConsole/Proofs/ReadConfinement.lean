import TenantConsole.Proofs.Authority
import TenantConsole.Proofs.Isolation
import TenantConsole.Proofs.Responses

/-!
# What a session gets to read

A session that is no super admin acts in an organization of its own, or in none. What it reads over
the routes is what the scopes let through, and each kind of record has a scope of its own: sources,
servers and dashboards go by their owner, users by their roles, an organization by its id, and
mappings not at all. None of this depends on where a record comes from. The catalogs are read out of
all their layers (`Readings.OutOf`), and the scope stands over the whole.

`ReadsWithin` collects what is read, route by route. The statement that holds it together is
`reads_confined`; the lemmas before it say of one collection at a time what a listing shows, and of
the two submissions which user comes back.
-/

namespace TenantConsole

open Collection Readings

/-! ## Whose organization it is -/

/-- A user as it is seen from the organization that a session acts in: with its one role there. -/
def User.SeenFrom (acting : Option String) (user : User) : Prop :=
  ∃ role, user.roles = [role] ∧ acting = some role.organization

theorem User.seenFrom_of_seenIn? {organization : String} {user seen : User}
    (h : user.seenIn? organization = some seen) : seen.SeenFrom (some organization) := by
  obtain ⟨role, hrole, rfl⟩ := User.seenIn?_eq_some h
  have horganization : role.organization = organization := User.roleIn?_organization hrole
  exact ⟨role, rfl, by rw [horganization]⟩

/-- What is admitted is seen from the organization that admits it. -/
theorem Admission.seenFrom {organization : String} {table after : Table User} {user answer : User}
    (h : Admission organization table user answer after) : answer.SeenFrom (some organization) := by
  cases h with
  | @joined existing role hrole hfound houtside =>
    have horganization : role.organization = organization := (submittedRole_ok hrole).2.1
    exact ⟨role, rfl, by rw [horganization]⟩
  | @created role id hrole hunknown hfree =>
    have horganization : role.organization = organization := (submittedRole_ok hrole).2.1
    exact ⟨role, rfl, by rw [horganization]⟩

/-- **An ordinary user acts where it has a role, or nowhere.** -/
theorem member_of_contextOf {state : State} {table : Table User} {principal : Principal}
    {user : User} {context : Context} (hstore : state.stores.users = .memory table)
    (hknown : table.knownAs? principal.identity = some user) (hordinary : user.superAdmin = false)
    (hderived : ((Login.contextOf principal).run state).1 = .ok context) :
    context.isServerCall = false ∧ context.isSuperAdmin = false
      ∧ ∀ organization, context.organization = some organization →
          user.hasRoleIn organization = true := by
  rw [run_contextOf hstore, hknown] at hderived
  simp only [contextFrom, Login.contextFor] at hderived
  split at hderived
  · -- no organization is asked for, and the first role decides
    cases hderived
    refine ⟨rfl, hordinary, fun organization hacting => ?_⟩
    simp only [Context.forUser] at hacting
    obtain ⟨role, hrole, rfl⟩ := Option.map_eq_some_iff.1 hacting
    unfold User.hasRoleIn User.roleIn?
    rw [List.find?_isSome]
    exact ⟨role, List.mem_of_mem_head? hrole, by simp⟩
  · -- an organization that is asked for is given to a member, and here only to one
    split at hderived
    · rename_i hmember
      cases hderived
      refine ⟨rfl, hordinary, fun organization hacting => ?_⟩
      cases hacting
      simpa [hordinary] using hmember
    · cases hderived

/-! ## Listings -/

section Listings

variable {context : Context} (state : State)

/-- **A session lists the records of the organization that it acts in**, whatever the store below
holds. -/
theorem all_owned {ρ : Type} [Owned ρ] {collection : Collection ρ}
    (haccess : ∀ context, collection.access context = Access.ofOwned context)
    (hsession : context.isServerCall = false) {records : List ρ}
    (hbelow : ((collection.store state.stores).readings state.world.disk).OutOf records) :
    ∃ shown, (collection.readings context state).all = .ok shown
      ∧ ∀ record ∈ shown, context.organization = some (Owned.owner record) := by
  -- who acts nowhere is shown nothing, whatever is stored
  cases hacting : context.organization with
  | none =>
    refine ⟨[], ?_, nofun⟩
    unfold Collection.readings Collection.seen
    rw [haccess]
    simp only [Access.ofOwned, Context.scope, hsession, hacting]
    rfl
  | some organization =>
    have hreader : context.ActsIn organization := ⟨hsession, hacting⟩
    refine ⟨(distinct records).filterMap (Scoping.ownedView organization), ?_, ?_⟩
    · rw [readings_owned haccess hreader]
      exact (viewed_outOf hbelow organization).1
    · intro record hrecord
      rw [filterMap_ownedView, List.mem_filter] at hrecord
      rw [of_decide_eq_true hrecord.2]

/-- It lists the members of the organization, each with its role there. -/
theorem all_users {table : Table User} (hsession : context.isServerCall = false)
    (hstore : state.stores.users = .memory table) :
    ∃ shown, (users.readings context state).all = .ok shown
      ∧ ∀ user ∈ shown, user.SeenFrom context.organization := by
  unfold Collection.readings Collection.seen
  rw [access_of_session hsession, show users.store state.stores = .memory table from hstore]
  cases context.organization with
  | none => exact ⟨[], rfl, nofun⟩
  | some organization =>
    refine ⟨table.rows.filterMap fun user => user.seenIn? organization, rfl, fun user huser => ?_⟩
    obtain ⟨stored, -, hseen⟩ := List.mem_filterMap.1 huser
    exact User.seenFrom_of_seenIn? hseen

/-- It lists the organization itself, if there is one of that id. -/
theorem all_organizations (hsession : context.isServerCall = false)
    (hordinary : context.isSuperAdmin = false) {records : List Organization}
    (hbelow : (state.stores.organizations.readings state.world.disk).OutOf records) :
    ∃ shown, (organizations.readings context state).all = .ok shown ∧ shown.length ≤ 1
      ∧ ∀ organization ∈ shown, context.organization = some organization.id := by
  unfold Collection.readings Collection.seen
  rw [access_organizations_of_ordinary hsession hordinary]
  cases context.organization with
  | none => exact ⟨[], rfl, Nat.zero_le 1, nofun⟩
  | some id =>
    have hget : (state.stores.organizations.readings state.world.disk).get id
        = orMissing id (firstWithId id records) := hbelow.get id
    simp only [Access.view, Store.readings, Scoping.itself, organizations, hget]
    cases hfirst : firstWithId id records with
    | none => exact ⟨[], rfl, Nat.zero_le 1, nofun⟩
    | some organization =>
      have hid : organization.id = id := (of_firstWithId hfirst).2
      refine ⟨[organization], rfl, Nat.le_refl 1, fun shown hshown => ?_⟩
      rw [List.mem_singleton.1 hshown, hid]

/-- It lists no mapping. -/
theorem all_mappings (hsession : context.isServerCall = false)
    (hordinary : context.isSuperAdmin = false) :
    (mappings.readings context state).all = .ok [] := by
  have haccess : mappings.access context = .nothing := by
    simp only [mappings, Access.ofGlobal, Context.scope, hsession, hordinary]
    cases context.organization <;> rfl
  unfold Collection.readings Collection.seen
  rw [haccess]
  rfl

end Listings

/-! ## Submissions -/

section Submissions

variable {context : Context} {state : State} {table : Table User}

/-- A refusal shows nothing. -/
theorem refusal_shows {ε α : Type} {shown : α → Prop} (error : ε) :
    ∀ value, (.error error : Except ε α) = .ok value → shown value := by
  intro value h
  cases h

/-- Whoever creates a user gets it back as it is seen from there. -/
theorem create_seenFrom (hsession : context.isServerCall = false)
    (hstore : state.stores.users = .memory table) (submission : UserSubmission) :
    (Users.create context submission).Sat state fun answer _ =>
      ∀ user, answer = .ok user → user.SeenFrom context.organization := by
  unfold Users.create
  split
  · exact refusal_shows _
  -- the guard and the search only read, and their refusals show nothing
  refine .after_reading (Roles.validate_readOnly _ _ _ _).orFail (fun roles _ => ?_)
    fun error _ => refusal_shows error
  refine .after_reading (find?_readOnly _ _ _).orFail (fun found _ => ?_)
    fun error _ => refusal_shows error
  cases found with
  | some existing => exact refusal_shows _
  | none =>
    simp only [Script.sat_orFail]
    refine (session_write_sat hsession hstore _).mono ?_
    rintro answer _ ⟨_, -, ⟨⟨error, rfl⟩, -⟩ | ⟨value, rfl, organization, hacting, hchange⟩⟩
    · exact refusal_shows _
    · intro user huser
      cases huser
      rw [hacting]
      exact Admission.seenFrom hchange

/-- Whoever changes a user gets it back likewise, read again after the change. -/
theorem update_seenFrom (hsession : context.isServerCall = false)
    (hstore : state.stores.users = .memory table) (id : String) (patch : UserPatch) :
    (Users.update context id patch).Sat state fun answer _ =>
      ∀ user, answer = .ok user → user.SeenFrom context.organization := by
  unfold Users.update
  refine .after_reading (get_readOnly _ _ _).orFail (fun current _ => ?_)
    fun error _ => refusal_shows error
  refine .after_reading (Roles.validate_readOnly _ _ _ _).orFail (fun roles _ => ?_)
    fun error _ => refusal_shows error
  rw [Script.sat_bind, Script.sat_orFail]
  refine (session_write_sat hsession hstore _).mono ?_
  -- what is answered is read again in the state after the write
  rintro (error | value) after ⟨table', hwith, -⟩
  · exact refusal_shows _
  · show ((users.get context id).orFail ServiceError.store).Sat after _
    rw [Script.sat_orFail]
    intro user huser
    rw [mapError_eq_ok] at huser
    obtain ⟨organization, stored, hacting, -, hseen⟩ := session_get hsession hwith.users huser
    rw [hacting]
    exact User.seenFrom_of_seenIn? hseen

/-- A handler that answers with what a service has returned. -/
theorem answers_with {α : Type} {service : ServiceScript α} {shown : α → Prop}
    {respond : α → Response} {shown' : Response → Prop}
    (h : service.Sat state fun answer _ => ∀ value, answer = .ok value → shown value)
    (hshown : ∀ value, shown value → shown' (respond value)) :
    (do let value ← service.orFail Console.serviceFailure; return respond value :
      Console.Handler).Sat state fun answer _ => Succeeds shown' answer := by
  rw [Script.sat_bind, Script.sat_orFail]
  refine h.mono fun {answer after} hvalue => ?_
  cases answer with
  | error error => exact (ApiError.ofService error).not_isSuccess
  | ok value => exact hshown value (hvalue value rfl)

/-- A response that shows one user, as it is seen from an organization. -/
def Response.ShowsUser (acting : Option String) (response : Response) : Prop :=
  ∃ user : User, user.SeenFrom acting
    ∧ (response = .created (Record.toJson user) ∨ response = .success (Record.toJson user))

theorem createUser_shows (hsession : context.isServerCall = false)
    (hstore : state.stores.users = .memory table) (request : Request) :
    (Console.createUser context request).Sat state fun answer _ =>
      Succeeds (Response.ShowsUser context.organization) answer := by
  unfold Console.createUser
  refine .after_reading (.ofExcept _) (fun submission _ => ?_)
    fun response hresponse => Intake.body_not_isSuccess hresponse
  exact answers_with (create_seenFrom hsession hstore submission)
    fun user hseen => ⟨user, hseen, .inl rfl⟩

theorem updateUser_shows (hsession : context.isServerCall = false)
    (hstore : state.stores.users = .memory table) (segment : String) (request : Request) :
    (Console.updateUser context segment request).Sat state fun answer _ =>
      Succeeds (Response.ShowsUser context.organization) answer := by
  unfold Console.updateUser
  refine .after_reading (.ofExcept _) (fun id _ => ?_)
    fun response hresponse => Intake.pathId_not_isSuccess hresponse
  refine .after_reading (.ofExcept _) (fun patch _ => ?_)
    fun response hresponse => Intake.body_not_isSuccess hresponse
  exact answers_with (update_seenFrom hsession hstore id patch)
    fun user hseen => ⟨user, hseen, .inr rfl⟩

end Submissions

/-! ## All routes -/

/-- A listing in the envelope of a success, with records of which this holds. -/
def Response.Lists {ρ : Type} [Record ρ] (response : Response) (shown : List ρ → Prop) : Prop :=
  ∃ records : List ρ, response = .success (.arr (records.map Record.toJson)) ∧ shown records

/-- What is answered on a route that is only to be read: the records of an organization, and nothing
to a method other than `GET`. -/
structure Response.ReadsOwned (ρ : Type) [Owned ρ] (acting : Option String) (request : Request)
    (response : Response) : Prop where
  listing : request.method = .get → response.Lists fun records : List ρ =>
    ∀ record ∈ records, acting = some (Owned.owner record)
  nothing : request.method ≠ .get → response.body = .empty

/-- What a request gets to read for a session that acts in this organization, or in none. -/
structure ReadsWithin (acting : Option String) (request : Request) (response : Response) :
    Prop where
  sources : Route.ofTarget? request.target = some .sources →
    response.ReadsOwned Source acting request
  servers : Route.ofTarget? request.target = some .servers →
    response.ReadsOwned Server acting request
  dashboards : Route.ofTarget? request.target = some .dashboards →
    response.ReadsOwned Dashboard acting request
  users : Route.ofTarget? request.target = some .users → request.method = .get →
    response.Lists fun users : List User => ∀ user ∈ users, user.SeenFrom acting
  submissions : request.Submits → response.IsSuccess → response.ShowsUser acting
  organizations : Route.ofTarget? request.target = some .organizations → request.method = .get →
    response.Lists fun organizations : List Organization =>
      organizations.length ≤ 1 ∧ ∀ organization ∈ organizations, acting = some organization.id
  mappings : Route.ofTarget? request.target = some .mappings → request.method = .get →
    response.Lists fun mappings : List Mapping => mappings = []

section Routes

variable {console : Console} {request : Request} {principal : Principal} {context : Context}

theorem Collection.Tenanted.access {ρ : Type} [Owned ρ] {collection : Collection ρ}
    {table : PrimaryTables → Table ρ} (h : collection.Tenanted table) (context : Context) :
    collection.access context = Access.ofOwned context := by
  cases h <;> rfl

/-- The catalogs of owned records are read out of all that their layers hold. -/
theorem Collection.Tenanted.outOf {ρ : Type} [Owned ρ] {collection : Collection ρ}
    {table : PrimaryTables → Table ρ} (h : collection.Tenanted table) {settings : CatalogSettings}
    {flagSources : List Source} {flagServers : List Server} {tables : PrimaryTables}
    {stores : Stores}
    (hstores : stores = .layeredOver settings flagSources flagServers tables.stores)
    (disk : Disk) :
    ((collection.store stores).readings disk).OutOf ((collection.store stores).stacked disk) := by
  subst hstores
  -- each of the three is a catalog over its table, with layers below that differ
  cases h with
  | sources =>
    show ((Stores.sourcesOver _ _ (.memory tables.sources)).readings disk).OutOf
      ((Stores.sourcesOver _ _ (.memory tables.sources)).stacked disk)
    rw [sourcesOver_eq]
    exact Catalog.over_outOf tables.sources disk
  | servers =>
    show ((Stores.serversOver _ _ (.memory tables.servers)).readings disk).OutOf
      ((Stores.serversOver _ _ (.memory tables.servers)).stacked disk)
    rw [serversOver_eq]
    exact Catalog.over_outOf tables.servers disk
  | dashboards =>
    show ((Catalog.dashboards _ (.memory tables.dashboards)).store.readings disk).OutOf
      ((Catalog.dashboards _ (.memory tables.dashboards)).store.stacked disk)
    rw [dashboards_eq]
    exact Catalog.over_outOf tables.dashboards disk

/-- A route that lists owned records answers with those of the organization. -/
theorem respond_owned (console : Console) {ρ : Type} [Owned ρ] {collection : Collection ρ}
    {table : PrimaryTables → Table ρ} (hcollection : collection.Tenanted table)
    {settings : CatalogSettings} {flagSources : List Source} {flagServers : List Server}
    {tables : PrimaryTables}
    (hstores : console.state.stores
      = .layeredOver settings flagSources flagServers tables.stores)
    (hsession : Intake.principal console.security request = .ok principal)
    (hderived : ((Login.contextOf principal).run console.state).1 = .ok context)
    (hcaller : context.isServerCall = false) {route : Route} (hmethods : route.methods = [.get])
    (hhealth : route ≠ .health)
    (hlists : Console.handle console.security principal context request route
      = Console.list collection context)
    (hroute : Route.ofTarget? request.target = some route) :
    (console.respond request).1.ReadsOwned ρ context.organization request where
  listing hget := by
    obtain ⟨shown, hall, hshown⟩ :=
      all_owned console.state hcollection.access hcaller
        (hcollection.outOf hstores console.state.world.disk)
    have htakes : route.takes .get = true := by simp [Route.takes, hmethods]
    refine ⟨shown, ?_, hshown⟩
    exact respond_listing console hroute hhealth hsession hderived htakes hlists hall hget
  nothing := respond_body_empty hroute hhealth hsession hderived hmethods

/-- A submission that is answered with a success shows the user that it was about. -/
theorem respond_submission {table : Table User}
    (hstore : console.state.stores.users = .memory table)
    (hsession : Intake.principal console.security request = .ok principal)
    (hderived : ((Login.contextOf principal).run console.state).1 = .ok context)
    (hcaller : context.isServerCall = false) (hsubmits : request.Submits)
    (hsuccess : (console.respond request).1.IsSuccess) :
    (console.respond request).1.ShowsUser context.organization := by
  -- both submissions take the same way to their handler
  have hsubmission {route : Route} (hroute : Route.ofTarget? request.target = some route)
      (hhealth : route ≠ .health) (htakes : route.takes request.method = true)
      (hhead : request.method ≠ .head)
      (hshows : (Console.handle console.security principal context request route).Sat console.state
        fun answer _ => Succeeds (Response.ShowsUser context.organization) answer) :
      (console.respond request).1.ShowsUser context.organization := by
    rw [respond_eq_serve hroute hhealth (not_options_of_takes htakes),
      serve_of_session hsession hderived, if_pos htakes, if_neg hhead] at hsuccess ⊢
    exact hshows.of_isSuccess hsuccess
  rcases hsubmits with ⟨hroute, hmethod⟩ | ⟨segment, hroute, hmethod⟩
  · have htakes : Route.users.takes request.method = true := by rw [hmethod]; rfl
    have hhead : request.method ≠ .head := by rw [hmethod]; decide
    refine hsubmission hroute (by decide) htakes hhead ?_
    simp only [Console.handle, if_pos hmethod]
    exact createUser_shows hcaller hstore request
  · have htakes : (Route.user segment).takes request.method = true := by rw [hmethod]; rfl
    have hhead : request.method ≠ .head := by rw [hmethod]; decide
    have hhealth : Route.user segment ≠ .health := fun h => by cases h
    refine hsubmission hroute hhealth htakes hhead ?_
    exact updateUser_shows hcaller hstore segment request

end Routes

/-- **A session reads within its organization.** In the stores that are put together over tables,
with or without directories and connections, a session of a stored user that is no super admin acts
in an organization where the user has a role, or in none; and of all records that belong to
organizations, and of the mappings, it reads no others than those of the organization it acts in. -/
theorem reads_confined {settings : CatalogSettings} {tables : PrimaryTables} {stores : Stores}
    (hassembled : Stores.assemble settings tables.stores = .ok stores)
    {security : SecuritySettings} {request : Request} {principal : Principal}
    (hsession : Intake.principal security request = .ok principal) {user : User}
    (hknown : tables.users.knownAs? principal.identity = some user)
    (hordinary : user.superAdmin = false) {world : World} {context : Context}
    (hderived : ((Login.contextOf principal).run ⟨stores, world⟩).1 = .ok context) :
    (∀ organization, context.organization = some organization →
        user.hasRoleIn organization = true)
      ∧ ReadsWithin context.organization request
          (Console.respond ⟨security, ⟨stores, world⟩⟩ request).1 := by
  obtain ⟨flagSources, flagServers, hstores, -⟩ := assemble_over hassembled
  have hstore : stores.users = .memory tables.users := users_of_assemble hassembled
  obtain ⟨hcaller, hadmin, hmember⟩ := member_of_contextOf hstore hknown hordinary hderived
  refine ⟨hmember, ?_⟩
  let console : Console := ⟨security, ⟨stores, world⟩⟩
  -- a `GET` is not a `POST`, so on the routes that take both the handler is the listing
  have hlisted {α : Type} {post list : α} (hget : request.method = .get) :
      (if request.method = .post then post else list) = list :=
    if_neg (by rw [hget]; decide)
  constructor
  case sources =>
    exact respond_owned console .sources hstores hsession hderived hcaller rfl nofun rfl
  case servers =>
    exact respond_owned console .servers hstores hsession hderived hcaller rfl nofun rfl
  case dashboards =>
    exact respond_owned console .dashboards hstores hsession hderived hcaller rfl nofun rfl
  case users =>
    intro hroute hget
    obtain ⟨shown, hall, hshown⟩ := all_users ⟨stores, world⟩ hcaller hstore
    have hanswer :=
      respond_listing console hroute nofun hsession hderived rfl (hlisted hget) hall hget
    exact ⟨shown, hanswer, hshown⟩
  case submissions =>
    exact respond_submission hstore hsession hderived hcaller
  case organizations =>
    intro hroute hget
    have hbelow : (stores.organizations.readings world.disk).OutOf
        (stores.organizations.stacked world.disk) := by
      rw [hstores]
      exact organizations_outOf _ _ _ tables world.disk
    obtain ⟨shown, hall, hshown⟩ := all_organizations ⟨stores, world⟩ hcaller hadmin hbelow
    have hanswer :=
      respond_listing console hroute nofun hsession hderived rfl (hlisted hget) hall hget
    exact ⟨shown, hanswer, hshown⟩
  case mappings =>
    intro hroute hget
    have hall := all_mappings ⟨stores, world⟩ hcaller hadmin
    have hanswer :=
      respond_listing console hroute nofun hsession hderived rfl (hlisted hget) hall hget
    exact ⟨[], hanswer, rfl⟩

namespace Visitor

/-- Sources of the visitor's organization and of another one. -/
def withSources : PrimaryTables :=
  { tables with
    sources := (Table.empty.insert { id := "1", name := "", url := "", organization := "o" }).insert
      { id := "2", name := "", url := "", organization := "b" } }

end Visitor

theorem reads_confined_visitor : ∃ stores context,
    Stores.assemble {} Visitor.withSources.stores = .ok stores
      ∧ ((Login.contextOf Visitor.principal).run ⟨stores, Visitor.world⟩).1 = .ok context
      ∧ context.organization = some "o" ∧ Visitor.user.hasRoleIn "o" = true
      ∧ (Console.respond ⟨Visitor.security, ⟨stores, Visitor.world⟩⟩
          (Visitor.asking .get "/api/sources")).1.Lists
          fun records : List Source => ∀ record ∈ records, some "o" = some record.organization := by
  have hassembled : Stores.assemble {} Visitor.withSources.stores = .ok _ := rfl
  have hknown : Visitor.withSources.users.knownAs? Visitor.principal.identity
      = some Visitor.user := rfl
  have hderived : ((Login.contextOf Visitor.principal).run
      ⟨.layeredOver {} [] [] Visitor.withSources.stores, Visitor.world⟩).1
        = .ok (.forUser Visitor.user (some "o")) := rfl
  have hroute : Route.ofTarget? (Visitor.asking .get "/api/sources").target = some .sources := by
    decide +kernel
  obtain ⟨hmember, hreads⟩ :=
    reads_confined hassembled (Visitor.session_asking .get _) hknown rfl hderived
  exact ⟨_, _, hassembled, hderived, rfl, hmember "o" rfl, (hreads.sources hroute).listing rfl⟩

end TenantConsole
