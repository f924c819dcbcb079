import TenantConsole.Proofs.Authority
import TenantConsole.Proofs.Responses

/-!
# Callers without claims

A caller that is not stored, or is stored without a role and without the flag, acts nowhere. All
that it can reach by a route of the organizations is a closed store, and what is more, it is not
looked up anything for: the guard refuses its roles before their organizations are read. So its
answers are the same whatever the console holds, and they are refusals and empty lists.

`Script.Blind` is the judgement that carries this. It says of a script that one answer comes from
every state, and every state stays; there is one rule for each way to put scripts together, and the
calls on a closed collection (`blind_all` and the like) are the leaves. Two routes are not blind for
such a caller, and they are left out by `Route.Shared`: its own, which stores it, and those of the
catalogs that everyone reads.
-/

namespace TenantConsole

open Collection

/-! ## Scripts that take no notice of the state -/

namespace Script

variable {σ ε ε' α β : Type}

/-- One answer from every state, of which this holds, and every state as it was. -/
def Blind (script : Script σ ε α) (shown : Except ε α → Prop) : Prop :=
  ∃ answer, shown answer ∧ ∀ state, script.run state = (answer, state)

namespace Blind

variable {script : Script σ ε α} {shown shown' : Except ε α → Prop}

/-- What is said of the answer may be weakened. -/
theorem mono (h : script.Blind shown) (hshown : ∀ {answer}, shown answer → shown' answer) :
    script.Blind shown' := by
  obtain ⟨answer, hanswer, hrun⟩ := h
  exact ⟨answer, hshown hanswer, hrun⟩

theorem ofExcept {result : Except ε α} (h : shown result) : (Script.ofExcept result :
    Script σ ε α).Blind shown :=
  ⟨result, h, fun _ => rfl⟩

theorem pure {value : α} (h : shown (.ok value)) : (Pure.pure value : Script σ ε α).Blind shown :=
  ⟨.ok value, h, fun _ => rfl⟩

theorem fail {error : ε} (h : shown (.error error)) : (Script.fail error : Script σ ε α).Blind
    shown :=
  ⟨.error error, h, fun _ => rfl⟩

/-- **The rule for a sequence.** The answer of the first part is the same from every state, so the
rest starts in the same way from all of them. -/
theorem bind {next : α → Script σ ε β} {shown' : Except ε β → Prop} (h : script.Blind shown)
    (hok : ∀ value, shown (.ok value) → (next value).Blind shown')
    (herror : ∀ error, shown (.error error) → shown' (.error error)) :
    (script >>= next).Blind shown' := by
  obtain ⟨answer, hanswer, hrun⟩ := h
  cases answer with
  | error error =>
    exact ⟨.error error, herror error hanswer, fun state => by rw [run_bind, hrun]⟩
  | ok value =>
    obtain ⟨last, hlast, hrest⟩ := hok value hanswer
    exact ⟨last, hlast, fun state => by rw [run_bind, hrun]; exact hrest state⟩

/-- Renamed errors are as blind as the errors. -/
theorem orFail {f : ε → ε'} {shown : Except ε' α → Prop}
    (h : script.Blind fun answer => shown (answer.mapError f)) : (script.orFail f).Blind shown := by
  obtain ⟨answer, hanswer, hrun⟩ := h
  exact ⟨answer.mapError f, hanswer, fun state => by rw [run_orFail, hrun]⟩

/-- The rest of a script after a part of it whose errors are renamed. -/
theorem bind_orFail {f : ε → ε'} {next : α → Script σ ε' β} {shown' : Except ε' β → Prop}
    (h : script.Blind shown) (hok : ∀ value, shown (.ok value) → (next value).Blind shown')
    (herror : ∀ error, shown (.error error) → shown' (.error (f error))) :
    (script.orFail f >>= next).Blind shown' := by
  obtain ⟨answer, hanswer, hrun⟩ := h
  cases answer with
  | error error =>
    refine ⟨.error (f error), herror error hanswer, fun state => ?_⟩
    rw [run_bind, run_orFail, hrun]
    rfl
  | ok value =>
    obtain ⟨last, hlast, hrest⟩ := hok value hanswer
    refine ⟨last, hlast, fun state => ?_⟩
    rw [run_bind, run_orFail, hrun]
    exact hrest state

end Blind

end Script

/-! ## Closed collections -/

namespace Collection

variable {ρ : Type} [Record ρ] {collection : Collection ρ} {context : Context}

/-- What a caller without access reads is an empty listing, whatever is stored. -/
theorem readings_nothing (haccess : collection.access context = .nothing) (state : State) :
    collection.readings context state = .ofListing (.ok []) := by
  unfold readings seen
  rw [haccess]
  rfl

/-- A collection without access is listed as empty, from every state. -/
theorem blind_all (haccess : collection.access context = .nothing) :
    (collection.all context).Blind fun answer => answer = .ok [] :=
  ⟨.ok [], rfl, fun state => by rw [run_all, readings_nothing haccess]; rfl⟩

theorem blind_get (haccess : collection.access context = .nothing) (id : String) :
    (collection.get context id).Blind fun answer => answer = .error (.missing ρ id) :=
  ⟨_, rfl, fun state => by rw [run_get, readings_nothing haccess]; rfl⟩

theorem blind_find? (haccess : collection.access context = .nothing) (query : Query ρ) :
    (collection.find? context query).Blind fun answer => answer = .ok none := by
  refine ⟨.ok none, rfl, fun state => ?_⟩
  simp only [find?, Script.run_bind, Script.run_attempt, run_find, readings_nothing haccess]
  rfl

/-- Without access every write is denied, from every state. -/
theorem blind_write {α : Type} (hlawful : collection.Lawful)
    (haccess : collection.access context = .nothing) (write : Write ρ α) :
    (collection.write context write).Blind fun answer =>
      answer = .error (denied ρ write.kind) :=
  ⟨_, rfl, fun _ => run_write_nothing hlawful haccess write⟩

end Collection

/-! ## Contexts without claims -/

/-- A caller without a flag that acts nowhere. -/
structure Context.Claimless (context : Context) : Prop where
  session : context.isServerCall = false
  ordinary : context.isSuperAdmin = false
  nowhere : context.organization = none

namespace Context.Claimless

variable {context : Context}

/-- Without the flag and without an organization every scope is denied. -/
theorem scope (h : context.Claimless) (partition : Partition) :
    context.scope partition = .denied := by
  simp [Context.scope, h.session, h.ordinary, h.nowhere]

/-- The resources are closed. -/
theorem ofOwned {ρ : Type} [Owned ρ] (h : context.Claimless) :
    (Access.ofOwned context : Access ρ) = .nothing := by
  simp [Access.ofOwned, h.scope]

theorem ofUsers (h : context.Claimless) : Access.ofUsers context = .nothing := by
  simp [Access.ofUsers, h.scope]

theorem ofOrganizations (h : context.Claimless) : Access.ofOrganizations context = .nothing := by
  simp [Access.ofOrganizations, h.scope]

theorem ofGlobal {ρ : Type} [Record ρ] (h : context.Claimless) :
    (Access.ofGlobal context : Access ρ) = .nothing := by
  simp [Access.ofGlobal, h.scope]

end Context.Claimless

/-- A user without claims: it has no role, and is no super admin. -/
structure User.Claimless (user : User) : Prop where
  roles : user.roles = []
  flag : user.superAdmin = false

/-- A caller without claims gets a context without claims, or none. -/
theorem claimless_of_contextFrom {principal : Principal} {caller : Option User} {context : Context}
    (hcaller : ∀ user, caller = some user → user.Claimless)
    (h : contextFrom principal caller = .ok context) : context.Claimless := by
  cases caller with
  | none =>
    cases h
    exact ⟨rfl, rfl, rfl⟩
  | some user =>
    obtain ⟨hroles, hflag⟩ := hcaller user rfl
    simp only [contextFrom, Login.contextFor] at h
    split at h
    · cases h
      exact ⟨rfl, hflag, by simp [Context.forUser, hroles]⟩
    · -- it is a member of no organization that it might ask for
      rw [if_neg (by simp [hflag, User.hasRoleIn, User.roleIn?, hroles])] at h
      cases h

/-! ## The role guard -/

namespace RoleGuard

variable {requests : List RoleRequest} {roles : List Role}

/-- **Without claims, no role passes the guard**, for the caller acts in no organization that it
could belong to. -/
theorem roles_of_check {caller : Context} (hcaller : caller.Claimless) {target : Option User}
    {superAdmin : Bool} (h : check caller target requests superAdmin = .ok roles) : roles = [] := by
  cases roles with
  | nil => rfl
  | cons role rest =>
    have hacting := acting_of_check hcaller.session hcaller.ordinary h List.mem_cons_self
    rw [hcaller.nowhere] at hacting
    cases hacting

end RoleGuard

/-! ## Services -/

/-- An answer that is an error. -/
def Refused {ε α : Type} (answer : Except ε α) : Prop := ∃ error, answer = .error error

theorem refused_error {ε α : Type} (error : ε) : Refused (.error error : Except ε α) :=
  ⟨error, rfl⟩

section Services

variable {context : Context} (hclaimless : context.Claimless)

include hclaimless

/-- No organization is looked up for the roles that such a caller submits. -/
theorem validate_blind (target : Option User) (requests : List RoleRequest) (superAdmin : Bool) :
    (Roles.validate context target requests superAdmin).Blind fun _ => True := by
  unfold Roles.validate
  cases hcheck : RoleGuard.check context target requests superAdmin with
  | error error => exact .bind (.ofExcept rfl) (fun _ h => by cases h) fun _ _ => trivial
  -- there are no roles left to look up
  | ok roles =>
    obtain rfl : roles = [] := RoleGuard.roles_of_check hclaimless hcheck
    exact .pure trivial

/-- Whatever is submitted is refused, without a look at the users. -/
theorem create_blind (submission : UserSubmission) :
    (Users.create context submission).Blind Refused := by
  unfold Users.create
  split
  · exact .fail (refused_error _)
  refine .bind_orFail (validate_blind hclaimless _ _ _) (fun roles _ => ?_)
    fun error _ => refused_error _
  refine .bind_orFail (blind_find? hclaimless.ofUsers _) (fun found hfound => ?_)
    fun error _ => refused_error _
  -- nothing is found, and what is not found is not added either
  cases hfound
  refine .orFail ((blind_write users_lawful hclaimless.ofUsers _).mono ?_)
  rintro _ rfl
  exact refused_error _

/-- Nobody can be changed that cannot be found. -/
theorem update_blind (id : String) (patch : UserPatch) :
    (Users.update context id patch).Blind Refused := by
  unfold Users.update
  exact .bind_orFail (blind_get hclaimless.ofUsers id) (fun _ h => by cases h)
    fun error _ => refused_error _

/-- An organization that cannot be added is not created, and then nobody is enrolled. -/
theorem createOrganization_blind (organization : Organization) :
    (Organizations.create context organization).Blind Refused := by
  unfold Organizations.create
  split
  · exact .fail (refused_error _)
  split
  · exact .fail (refused_error _)
  exact .bind_orFail (blind_write organizations_lawful hclaimless.ofOrganizations _)
    (fun _ h => by cases h) fun error _ => refused_error _

theorem deleteOrganization_blind (id : String) :
    (Organizations.delete context id).Blind Refused := by
  unfold Organizations.delete
  exact .bind_orFail (blind_get hclaimless.ofOrganizations id) (fun _ h => by cases h)
    fun error _ => refused_error _

end Services

/-! ## Handlers -/

/-- The routes that answer to every session: its own user, and what everyone reads. -/
def Route.isShared : Route → Bool
  | me | layouts | protoboards | templates => true
  | _ => false

/-- A response that is an empty list, or no success. -/
abbrev Barren : Except Response Response → Prop :=
  Succeeds fun response => response = .success (.arr [])

section Handlers

/-- A handler goes no further than a service that refuses. -/
theorem refused_blind {ε α : Type} {service : Script State ε α} {f : ε → Response}
    {rest : α → Console.Handler} (h : service.Blind Refused) (hf : ∀ error, ¬ (f error).IsSuccess) :
    (service.orFail f >>= rest).Blind Barren :=
  .bind_orFail h (fun _ h => by obtain ⟨_, h⟩ := h; cases h) fun error _ => hf error

/-- No failure of a service is a success to the client. -/
theorem serviceFailure_not_isSuccess (error : ServiceError) :
    ¬ (Console.serviceFailure error).IsSuccess :=
  (ApiError.ofService error).not_isSuccess

theorem storeFailure_not_isSuccess (error : StoreError) :
    ¬ (Console.storeFailure error).IsSuccess :=
  (ApiError.ofStore error).not_isSuccess

/-- A closed collection is listed as an empty one. -/
theorem list_blind {ρ : Type} [Record ρ] {collection : Collection ρ} {context : Context}
    (haccess : collection.access context = .nothing) :
    (Console.list collection context).Blind Barren := by
  refine .bind_orFail (blind_all haccess) (fun records hrecords => ?_) fun error herror => ?_
  · cases hrecords
    exact .pure rfl
  · cases herror

/-- What the intake refuses is refused whatever the console holds. -/
theorem intake_blind {α : Type} {result : Except Response α} {rest : α → Console.Handler}
    (hresult : ∀ response, result = .error response → ¬ response.IsSuccess)
    (hrest : ∀ value, (rest value).Blind Barren) :
    (Script.ofExcept result >>= rest).Blind Barren := by
  have hblind : (Script.ofExcept result : Script State Response α).Blind
      fun answer => result = answer := .ofExcept rfl
  exact hblind.bind (fun value _ => hrest value) hresult

variable {context : Context} (hclaimless : context.Claimless)

include hclaimless

/-- A mapping names an organization, and that is not found. -/
theorem createMapping_blind (request : Request) :
    (Console.createMapping context request).Blind Barren := by
  refine intake_blind (fun _ => Intake.body_not_isSuccess) fun mapping => ?_
  split
  · exact .fail (ApiError.not_isSuccess _)
  · exact .bind_orFail (blind_get hclaimless.ofOrganizations mapping.organization)
      (fun _ h => by cases h) fun error _ => storeFailure_not_isSuccess error

/-- **A caller without claims is answered blindly** on every route of the organizations. -/
theorem handle_blind (security : SecuritySettings) (principal : Principal) (request : Request)
    {route : Route} (hroute : route.isShared = false) :
    (Console.handle security principal context request route).Blind Barren := by
  -- each route of the organizations comes down to one of the services above, or to an empty list
  cases route with
  | organizations =>
    simp only [Console.handle]
    split
    · refine intake_blind (fun _ => Intake.body_not_isSuccess) fun organization => ?_
      exact refused_blind (createOrganization_blind hclaimless organization)
        serviceFailure_not_isSuccess
    · exact list_blind hclaimless.ofOrganizations
  | organization segment =>
    refine intake_blind (fun _ => Intake.pathId_not_isSuccess) fun id => ?_
    exact refused_blind (deleteOrganization_blind hclaimless id) serviceFailure_not_isSuccess
  | users =>
    simp only [Console.handle]
    split
    · refine intake_blind (fun _ => Intake.body_not_isSuccess) fun submission => ?_
      exact refused_blind (create_blind hclaimless submission) serviceFailure_not_isSuccess
    · exact list_blind hclaimless.ofUsers
  | user segment =>
    refine intake_blind (fun _ => Intake.pathId_not_isSuccess) fun id => ?_
    refine intake_blind (fun _ => Intake.body_not_isSuccess) fun patch => ?_
    exact refused_blind (update_blind hclaimless id patch) serviceFailure_not_isSuccess
  | mappings =>
    simp only [Console.handle]
    split
    · exact createMapping_blind hclaimless request
    · exact list_blind hclaimless.ofGlobal
  | sources => exact list_blind hclaimless.ofOwned
  | servers => exact list_blind hclaimless.ofOwned
  | dashboards => exact list_blind hclaimless.ofOwned
  | health => exact .fail (show ¬ (⟨404, .empty⟩ : Response).IsSuccess by decide)
  | me => cases hroute
  | layouts => cases hroute
  | protoboards => cases hroute
  | templates => cases hroute

end Handlers

/-! ## Whole requests -/

section Requests

variable {security : SecuritySettings} {request : Request}

/-- **One answer from all consoles.** With a token or without, what is answered to a caller without
claims depends on the request and the caller alone, and nothing is changed. -/
theorem serve_blind (security : SecuritySettings) (request : Request) {caller : Option User}
    (hcaller : ∀ user, caller = some user → user.Claimless) {route : Route}
    (hroute : route.takes request.method = true → route.isShared = false) :
    ∃ answer, Barren answer ∧ ∀ (state : State) (table : Table User),
      state.stores.users = .memory table →
      (∀ principal, Intake.principal security request = .ok principal →
        table.knownAs? principal.identity = caller) →
      (Console.serve security request route).run state = (answer, state) := by
  cases hsession : Intake.principal security request with
  | error error =>
    -- without a session: the refusal depends on the request alone
    refine ⟨.error error.response, error.not_isSuccess, fun state table _ _ => ?_⟩
    unfold Console.serve
    rw [hsession]
    rfl
  | ok principal =>
    cases hcontext : contextFrom principal caller with
    | error error =>
      refine ⟨.error (Console.serviceFailure error), serviceFailure_not_isSuccess error,
        fun state table hstore hknown => ?_⟩
      -- without a context: the caller asks for an organization that it is not a member of
      have hrefused : (Login.contextOf principal).run state = (.error error, state) := by
        rw [run_contextOf hstore, hknown principal rfl, hcontext]
      unfold Console.serve
      rw [hsession, Script.run_bind]
      show ((Login.contextOf principal).orFail Console.serviceFailure >>= _).run state = _
      rw [Script.run_bind, Script.run_orFail, hrefused]
      rfl
    | ok context =>
      -- with a context, which has no claims
      have hclaimless : context.Claimless := claimless_of_contextFrom hcaller hcontext
      have hderived {state : State} {table : Table User}
          (hstore : state.stores.users = .memory table)
          (hknown : table.knownAs? principal.identity = caller) :
          ((Login.contextOf principal).run state).1 = .ok context := by
        rw [run_contextOf hstore, hknown, hcontext]
      cases htakes : route.takes request.method with
      | false =>
        have hrefused : ¬ (⟨405, .empty⟩ : Response).IsSuccess := by decide
        refine ⟨.error ⟨405, .empty⟩, hrefused, fun state table hstore hknown => ?_⟩
        rw [serve_of_session hsession (hderived hstore (hknown principal rfl)), htakes]
        rfl
      | true =>
        -- the method fits the route, and the handler is blind
        obtain ⟨answer, hbarren, hrun⟩ :=
          handle_blind hclaimless security principal request (hroute htakes)
        refine ⟨answer, hbarren, fun state table hstore hknown => ?_⟩
        rw [serve_of_session hsession (hderived hstore (hknown principal rfl)), if_pos htakes]
        exact hrun state

/-- **Without claims the console is closed.** To a caller that is not stored, or is stored without a
role and without the flag, or has no session at all, every route but the shared ones answers with
one response, whatever stores are put together and whatever they hold, and changes nothing. Where
the response is a success it is an empty list, or it has no body because none was asked for. -/
theorem closed_without_claims {caller : Option User}
    (hcaller : ∀ user, caller = some user → user.Claimless)
    (hroute : ∀ route, Route.ofTarget? request.target = some route →
      route ≠ .health ∧ (route.takes request.method = true → route.isShared = false)) :
    ∃ response : Response,
      (response.IsSuccess → response = .success (.arr [])
        ∨ (request.method = .head ∨ request.method = .options) ∧ response.body = .empty)
      ∧ ∀ {settings : CatalogSettings} {tables : PrimaryTables} {stores : Stores},
        Stores.assemble settings tables.stores = .ok stores →
        (∀ principal, Intake.principal security request = .ok principal →
          tables.users.knownAs? principal.identity = caller) →
        ∀ world, Console.respond ⟨security, ⟨stores, world⟩⟩ request
          = (response, ⟨security, ⟨stores, world⟩⟩) := by
  by_cases hoptions : request.method = .options
  · exact ⟨⟨200, .empty⟩, fun _ => .inr ⟨.inr hoptions, rfl⟩,
      fun _ _ world => respond_options _ hoptions⟩
  cases htarget : Route.ofTarget? request.target with
  | none =>
    -- an unknown path is answered before the session is looked at
    refine ⟨⟨404, .empty⟩, fun h => absurd h (by decide), fun _ _ world => ?_⟩
    unfold Console.respond Console.answer
    rw [if_neg hoptions, htarget]
    simp only [Response.bare, ite_self]
  | some route =>
    obtain ⟨hhealth, hshared⟩ := hroute route htarget
    obtain ⟨answer, hbarren, hrun⟩ := serve_blind security request hcaller hshared
    refine ⟨if request.method = .head then (ended answer).bare else ended answer, ?_, ?_⟩
    · -- a success is an empty list, unless its body is left out
      intro hsuccess
      by_cases hhead : request.method = .head
      · rw [if_pos hhead]
        exact .inr ⟨.inl hhead, rfl⟩
      · rw [if_neg hhead] at hsuccess ⊢
        exact .inl (hbarren.of_isSuccess hsuccess)
    · intro settings tables stores hassembled hknown world
      have hstore : stores.users = .memory tables.users := users_of_assemble hassembled
      rw [respond_eq_serve htarget hhealth hoptions,
        hrun ⟨stores, world⟩ tables.users hstore hknown]

end Requests

namespace Visitor

/-- Somebody else's organization and source, and nothing of the visitor. -/
def elsewhere : PrimaryTables :=
  { sources := Table.empty.insert { id := "1", name := "", url := "", organization := "b" },
    organizations := Table.empty.insert { id := "b", name := "" } }

/-- The visitor without its role. -/
def roleless : User := { user with roles := [] }

def rolelessTables : PrimaryTables := { users := Table.empty.insert roleless }

end Visitor

/-- Nobody's stores and somebody else's give the visitor one answer, since it is stored in
neither. -/
theorem closed_without_claims_visitor : ∃ response,
    (∃ stores, Stores.assemble {} ({} : PrimaryTables).stores = .ok stores
      ∧ Console.respond ⟨Visitor.security, ⟨stores, Visitor.world⟩⟩
          (Visitor.asking .get "/api/sources")
        = (response, ⟨Visitor.security, ⟨stores, Visitor.world⟩⟩))
      ∧ ∃ stores, Stores.assemble {} Visitor.elsewhere.stores = .ok stores
      ∧ Console.respond ⟨Visitor.security, ⟨stores, Visitor.world⟩⟩
          (Visitor.asking .get "/api/sources")
        = (response, ⟨Visitor.security, ⟨stores, Visitor.world⟩⟩) := by
  have htarget : Route.ofTarget? (Visitor.asking .get "/api/sources").target = some .sources := by
    decide +kernel
  have hroute : ∀ route, Route.ofTarget? (Visitor.asking .get "/api/sources").target = some route →
      route ≠ .health ∧ (route.takes (Visitor.asking .get "/api/sources").method = true →
        route.isShared = false) := by
    intro route h
    cases htarget.symm.trans h
    exact ⟨nofun, fun _ => rfl⟩
  have hempty : Stores.assemble {} ({} : PrimaryTables).stores = .ok _ := rfl
  have helsewhere : Stores.assemble {} Visitor.elsewhere.stores = .ok _ := rfl
  obtain ⟨response, -, hresponds⟩ :=
    @closed_without_claims Visitor.security _ none nofun hroute
  exact ⟨response, ⟨_, hempty, hresponds hempty (fun _ _ => rfl) Visitor.world⟩,
    ⟨_, helsewhere, hresponds helsewhere (fun _ _ => rfl) Visitor.world⟩⟩

/-- The head of a visit turns on the flag of a visitor without a role, and a success without a body
is no list: to `HEAD` as to `OPTIONS`. -/
theorem claimless_head_and_options : ∃ stores,
    Stores.assemble {} Visitor.rolelessTables.stores = .ok stores
      ∧ (∀ method target,
          Intake.principal Visitor.security (Visitor.asking method target) = .ok Visitor.principal)
      ∧ Visitor.rolelessTables.users.knownAs? Visitor.principal.identity = some Visitor.roleless
      ∧ Visitor.roleless.Claimless
      ∧ (Console.respond ⟨Visitor.security, ⟨stores, Visitor.world⟩⟩
          (Visitor.asking .head "/api/me")).2.state.stores.users ≠ stores.users
      ∧ (Console.respond ⟨Visitor.security, ⟨stores, Visitor.world⟩⟩
          (Visitor.asking .head "/api/sources")).1 = ⟨200, .empty⟩
      ∧ (Console.respond ⟨Visitor.security, ⟨stores, Visitor.world⟩⟩
          (Visitor.asking .options "/api/sources")).1 = ⟨200, .empty⟩ := by
  have hme : Route.ofTarget? (Visitor.asking .head "/api/me").target = some .me := by
    decide +kernel
  have hsources : Route.ofTarget? (Visitor.asking .head "/api/sources").target
      = some .sources := by
    decide +kernel
  refine ⟨_, rfl, Visitor.session_asking, rfl, ⟨rfl, rfl⟩, ?_, ?_, ?_⟩
  · rw [respond_of_session ⟨Visitor.security, ⟨_, Visitor.world⟩⟩ hme (by decide) (by decide)
      (Visitor.session_asking .head _) rfl]
    intro h
    have hrows := congrArg Table.rows (Store.memory.inj h)
    exact absurd hrows (by decide)
  · rw [respond_eq_serve hsources (by decide) (by decide),
      serve_of_session (Visitor.session_asking .head _) rfl]
    rfl
  · rw [respond_options _ rfl]

end TenantConsole
