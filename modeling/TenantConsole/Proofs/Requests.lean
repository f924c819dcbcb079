import TenantConsole.Http.Console
import TenantConsole.Proofs.OrganizationServices

/-!
# What one request can do to stored users

A request is answered without a session, or it is served in the context of a session. Of the routes
that are served, five can change a stored user, each in its own way; `RequestEffect` names them, and
`respond_effect` says that there is no other. Whatever is to be known about the users after a
request is read off these five.

The super admins' routes aside, a request leaves all but the users as it was: that part of the state
is carried along in `State.AfterRequest`.
-/

namespace TenantConsole

open Collection

/-! ## Contexts -/

/-- The context of a principal, whose user is stored or not. -/
def contextFrom (principal : Principal) : Option User → Except ServiceError Context
  | some user => Login.contextFor user (some principal.organization)
  | none => .ok .anonymous

/-- **The context of a session depends on its stored user alone.** -/
theorem run_contextOf {state : State} {table : Table User}
    (hstore : state.stores.users = .memory table) (principal : Principal) :
    (Login.contextOf principal).run state
      = (contextFrom principal (table.knownAs? principal.identity), state) := by
  unfold Login.contextOf
  rw [Script.run_bind, Script.run_orFail, run_find?_knownAs hstore]
  cases table.knownAs? principal.identity <;> rfl

/-- The context of a session is that of its stored user; without one it is nobody's. -/
theorem contextOf_ok {state : State} {table : Table User} {principal : Principal}
    {context : Context} (hstore : state.stores.users = .memory table)
    (h : ((Login.contextOf principal).run state).1 = .ok context) :
    (table.knownAs? principal.identity = none ∧ context = .anonymous)
      ∨ ∃ user organization, table.knownAs? principal.identity = some user
        ∧ context = .forUser user organization := by
  rw [run_contextOf hstore] at h
  cases hknown : table.knownAs? principal.identity with
  | none =>
    rw [hknown] at h
    cases h
    exact .inl ⟨rfl, rfl⟩
  | some user =>
    rw [hknown] at h
    simp only [contextFrom, Login.contextFor] at h
    -- the organization that the token names is one of the user's, or none is named
    split at h
    · cases h
      exact .inr ⟨user, _, rfl, rfl⟩
    · split at h
      · cases h
        exact .inr ⟨user, _, rfl, rfl⟩
      · cases h

/-- The context of a session that is served. -/
structure ServedBy (table : Table User) (principal : Principal) (context : Context) : Prop where
  session : context.isServerCall = false
  user : ∀ {user}, context.user = some user → table.knownAs? principal.identity = some user
  superAdmin : context.isSuperAdmin = true → ∃ user, context.user = some user
    ∧ user.superAdmin = true

/-- A context that a session is given is one for its principal. -/
theorem servedBy_of_contextOf {state : State} {table : Table User} {principal : Principal}
    {context : Context} (hstore : state.stores.users = .memory table)
    (h : ((Login.contextOf principal).run state).1 = .ok context) :
    ServedBy table principal context := by
  rcases contextOf_ok hstore h with ⟨-, rfl⟩ | ⟨user, organization, hknown, rfl⟩
  · exact ⟨rfl, nofun, nofun⟩
  · exact ⟨rfl, fun h => by cases h; exact hknown, fun h => ⟨user, rfl, h⟩⟩

theorem contextOf_readOnly (principal : Principal) : (Login.contextOf principal).ReadOnly := by
  refine .bind (find?_readOnly _ _ _).orFail fun found => ?_
  cases found with
  | none => exact .pure _
  | some user => exact .ofExcept _

/-! ## The five changes -/

/-- What a request does to the stored users where it does anything. -/
inductive RequestEffect (security : SecuritySettings) (principal : Principal) (context : Context)
    (method : Method) (table : Table User) : Route → Table User → Prop where
  /-- The user of the session sees itself. -/
  | visited {after : Table User} (hvisit : Visit security.superAdminGroup principal table after) :
      RequestEffect security principal context method table .me after
  /-- A user is submitted. -/
  | admitted {organization : String} {user answer : User} {after : Table User}
      (hmethod : method = .post)
      (hauthorized : Authorized context organization none user.superAdmin)
      (hadmission : Admission organization table user answer after) :
      RequestEffect security principal context method table .users after
  /-- A change to a user is submitted. -/
  | reassigned {segment organization : String} {user current : User} {after : Table User}
      (hsegment : Intake.pathId segment = .ok user.id)
      (hauthorized : Authorized context organization (some current) user.superAdmin)
      (hfound : table.get? user.id = some current)
      (hreassignment : Reassignment organization table user after) :
      RequestEffect security principal context method table (.user segment) after
  /-- An organization is created, and its creator joins it. -/
  | enrolled {creator answer : User} {organization : String} {after : Table User}
      (hadmin : context.isSuperAdmin = true) (hcreator : context.user = some creator)
      (hadmission : Admission organization table
        { creator with roles := [⟨organization, .admin⟩] } answer after) :
      RequestEffect security principal context method table .organizations after
  /-- An organization is deleted, and its members leave it. -/
  | stripped {segment id : String} {after : Table User} (hadmin : context.isSuperAdmin = true)
      (hsegment : Intake.pathId segment = .ok id) (hstripping : Stripping id table after) :
      RequestEffect security principal context method table (.organization segment) after

/-- The state after a request, as far as it matters here: the users are changed in one of these
ways, and nothing else is unless a super admin has asked. -/
def State.AfterRequest (before : State) (context : Context) (change : Table User → Prop)
    (after : State) : Prop :=
  ∃ table, after.stores.users = .memory table ∧ change table
    ∧ (context.isSuperAdmin = false → before.WithUsers table after)

section Handlers

variable {security : SecuritySettings} {principal : Principal} {context : Context}
  {request : Request} {state : State} {table : Table User}

theorem State.UsersBecome.afterRequest {before after : State} {change change' : Table User → Prop}
    (h : before.UsersBecome change after) (hchange : ∀ {table}, change table → change' table) :
    before.AfterRequest context change' after := by
  obtain ⟨table, hwith, h⟩ := h
  exact ⟨table, hwith.users, hchange h, fun _ => hwith⟩

theorem State.AfterRequest.same {change : Table User → Prop}
    (hstore : state.stores.users = .memory table) (hsame : change table) :
    state.AfterRequest context change state :=
  ⟨table, hstore, hsame, fun _ => .refl hstore⟩

theorem list_readOnly {ρ : Type} [Record ρ] (collection : Collection ρ) (context : Context) :
    (Console.list collection context).ReadOnly :=
  .bind (all_readOnly _ _).orFail fun _ => .pure _

/-- Asking for the own account is a visit. -/
theorem me_sat (hstore : state.stores.users = .memory table) :
    (Console.me security principal).Sat state fun _ => state.AfterRequest context fun after =>
      after = table ∨ RequestEffect security principal context request.method table .me after := by
  unfold Console.me
  refine .then_reading ?_ fun _ => .pure _
  rw [Script.sat_orFail]
  exact (provision_sat _ principal hstore).mono fun h =>
    h.afterRequest (.imp_right .visited)

/-- Submitting a user is an admission, or changes nothing. -/
theorem createUser_sat (hsession : context.isServerCall = false)
    (hstore : state.stores.users = .memory table) (hmethod : request.method = .post) :
    (Console.createUser context request).Sat state fun _ => state.AfterRequest context fun after =>
      after = table
        ∨ RequestEffect security principal context request.method table .users after := by
  unfold Console.createUser
  refine .after_reading (.ofExcept _) (fun submission _ => ?_) fun _ _ => .same hstore (.inl rfl)
  refine .then_reading ?_ fun _ => .pure _
  rw [Script.sat_orFail]
  refine (create_sat hsession hstore submission).mono fun h => h.afterRequest (.imp_right ?_)
  rintro ⟨organization, user, answer, hauthorized, hadmission⟩
  exact .admitted hmethod hauthorized hadmission

/-- Submitting a change to a user is a reassignment, or changes nothing. -/
theorem updateUser_sat (hsession : context.isServerCall = false)
    (hstore : state.stores.users = .memory table) (segment : String) :
    (Console.updateUser context segment request).Sat state fun _ =>
      state.AfterRequest context fun after => after = table
        ∨ RequestEffect security principal context request.method table (.user segment) after := by
  unfold Console.updateUser
  refine .after_reading (.ofExcept _) (fun id hid => ?_) fun _ _ => .same hstore (.inl rfl)
  refine .after_reading (.ofExcept _) (fun patch _ => ?_) fun _ _ => .same hstore (.inl rfl)
  refine .then_reading ?_ fun _ => .pure _
  rw [Script.sat_orFail]
  refine (update_sat hsession hstore id patch).mono fun h => h.afterRequest (.imp_right ?_)
  rintro ⟨organization, user, current, hauthorized, rfl, hfound, hreassignment⟩
  exact .reassigned hid hauthorized hfound hreassignment

/-- Creating an organization enrols its creator, if that is a super admin. -/
theorem createOrganization_sat (hsession : context.isServerCall = false)
    (hstore : state.stores.users = .memory table) :
    (Console.createOrganization context request).Sat state fun _ =>
      state.AfterRequest context fun after => after = table
        ∨ RequestEffect security principal context request.method table .organizations after := by
  unfold Console.createOrganization
  refine .after_reading (.ofExcept _) (fun organization _ => ?_) fun _ _ => .same hstore (.inl rfl)
  refine .then_reading ?_ fun _ => .pure _
  rw [Script.sat_orFail]
  -- who is no super admin is refused by the scope, so nothing has changed
  cases hadmin : context.isSuperAdmin with
  | false =>
    refine (create_organization_ordinary hsession hadmin organization).mono ?_
    rintro _ _ rfl
    exact .same hstore (.inl rfl)
  | true =>
    refine (create_organization_sat hsession hstore organization).mono ?_
    rintro _ after ⟨table', hafter, hchange⟩
    refine ⟨table', hafter, hchange.imp_right ?_, fun h => by cases hadmin.symm.trans h⟩
    rintro ⟨creator, acting, answer, hcreator, hadmission⟩
    exact .enrolled hadmin hcreator hadmission

/-- Deleting an organization lets its members leave, if the caller is a super admin. -/
theorem deleteOrganization_sat (hsession : context.isServerCall = false)
    (hstore : state.stores.users = .memory table) (segment : String) :
    (Console.deleteOrganization context segment).Sat state fun _ =>
      state.AfterRequest context fun after => after = table
        ∨ RequestEffect security principal context request.method table (.organization segment)
          after := by
  unfold Console.deleteOrganization
  refine .after_reading (.ofExcept _) (fun id hid => ?_) fun _ _ => .same hstore (.inl rfl)
  refine .then_reading ?_ fun _ => .pure _
  rw [Script.sat_orFail]
  -- who is no super admin is refused by the scope, so nothing has changed
  cases hadmin : context.isSuperAdmin with
  | false =>
    refine (delete_organization_ordinary hsession hadmin id).mono ?_
    rintro _ _ rfl
    exact .same hstore (.inl rfl)
  | true =>
    refine (delete_organization_sat context hstore id).mono ?_
    rintro _ after ⟨table', hafter, hchange⟩
    exact ⟨table', hafter, .inr (.stripped hadmin hid hchange),
      fun h => by cases hadmin.symm.trans h⟩

/-- A mapping is for super admins, and it is not a user. -/
theorem createMapping_sat (hsession : context.isServerCall = false)
    (hstore : state.stores.users = .memory table) :
    (Console.createMapping context request).Sat state fun _ =>
      state.AfterRequest context fun after => after = table := by
  unfold Console.createMapping
  refine .after_reading (.ofExcept _) (fun mapping _ => ?_) fun _ _ => .same hstore rfl
  split
  · exact .same hstore rfl
  refine .after_reading (get_readOnly _ _ _).orFail (fun _ _ => ?_) fun _ _ => .same hstore rfl
  refine .then_reading ?_ fun _ => .pure _
  rw [Script.sat_orFail]
  unfold Script.Sat
  cases hadmin : context.isSuperAdmin with
  | false =>
    have haccess : mappings.access context = .nothing := by
      simp only [mappings, Access.ofGlobal, Context.scope, hsession, hadmin]
      cases context.organization <;> rfl
    rw [show (mappings.add context mapping).run state = _ from
      run_write_nothing mappings_lawful haccess (.add mapping)]
    exact .same hstore rfl
  | true =>
    exact ⟨table, (mappings_keep_users context (.add mapping) state).trans hstore, rfl,
      fun h => by cases hadmin.symm.trans h⟩

/-- **A request that is handled has one of the five effects, or none.** -/
theorem handle_sat {route : Route} (hsession : context.isServerCall = false)
    (hstore : state.stores.users = .memory table) :
    (Console.handle security principal context request route).Sat state fun _ =>
      state.AfterRequest context fun after => after = table
        ∨ RequestEffect security principal context request.method table route after := by
  have hlist {ρ : Type} [Record ρ] (collection : Collection ρ) :
      (Console.list collection context).Sat state fun _ =>
        state.AfterRequest context fun after => after = table
          ∨ RequestEffect security principal context request.method table route after :=
    (list_readOnly collection context).sat fun _ => .same hstore (.inl rfl)
  -- five routes can write to users; the others list a collection or add a mapping
  cases route with
  | me => exact me_sat hstore
  | organizations =>
    simp only [Console.handle]
    split
    · exact createOrganization_sat hsession hstore
    · exact hlist _
  | organization segment => exact deleteOrganization_sat hsession hstore segment
  | users =>
    simp only [Console.handle]
    split
    · exact createUser_sat hsession hstore ‹_›
    · exact hlist _
  | user segment => exact updateUser_sat hsession hstore segment
  | mappings =>
    simp only [Console.handle]
    split
    · refine (createMapping_sat hsession hstore).mono ?_
      rintro _ _ ⟨after, hafter, hsame, hwith⟩
      exact ⟨after, hafter, .inl hsame, hwith⟩
    · exact hlist _
  | sources => exact hlist _
  | servers => exact hlist _
  | dashboards => exact hlist _
  | layouts => exact hlist _
  | protoboards => exact hlist _
  | templates => exact hlist _
  | health => exact .same hstore (.inl rfl)

end Handlers

/-! ## A whole request -/

/-- A request that gets as far as being handled: its route, its session and what it leaves. -/
structure Served (security : SecuritySettings) (before : State) (table : Table User)
    (request : Request) (route : Route) (principal : Principal) (context : Context)
    (after : State) : Prop where
  method : route.takes request.method = true
  session : Intake.principal security request = .ok principal
  derived : ((Login.contextOf principal).run before).1 = .ok context
  caller : ServedBy table principal context
  left : before.AfterRequest context (fun users => users = table
    ∨ RequestEffect security principal context request.method table route users) after

/-- Serving a request ends before the session has its context, or handles the request in it. -/
theorem serve_sat {state : State} {table : Table User}
    (hstore : state.stores.users = .memory table) (security : SecuritySettings) (request : Request)
    (route : Route) :
    (Console.serve security request route).Sat state fun _ after => after = state
      ∨ ∃ principal context, Served security state table request route principal context after := by
  unfold Console.serve
  refine .after_reading (.ofExcept _) (fun principal hprincipal => ?_) fun _ _ => .inl rfl
  refine .after_reading (contextOf_readOnly principal).orFail (fun context hcontext => ?_)
    fun _ _ => .inl rfl
  have hderived := Script.ok_of_orFail hcontext
  have hcaller := servedBy_of_contextOf hstore hderived
  -- a method that the route does not take is refused
  split
  · rename_i htakes
    have hsession : Intake.principal security request = .ok principal := by
      rw [Script.run_ofExcept] at hprincipal
      cases hintake : Intake.principal security request with
      | error error => rw [hintake] at hprincipal; cases hprincipal
      | ok found => rw [hintake] at hprincipal; cases hprincipal; rfl
    exact (handle_sat hcaller.session hstore).mono fun hleft =>
      .inr ⟨principal, context, htakes, hsession, hderived, hcaller, hleft⟩
  · exact .inl rfl

/-- The session of a request is a matter of one header and of the time. -/
theorem principal_congr (security : SecuritySettings) (request other : Request)
    (hheader : request.header? "authorization" = other.header? "authorization")
    (hseconds : request.moment.seconds = other.moment.seconds) :
    Intake.principal security request = Intake.principal security other := by
  unfold Intake.principal Intake.token
  rw [hheader, hseconds]

/-- With a session and its context, the method decides whether the request is handled. -/
theorem serve_of_session {security : SecuritySettings} {state : State} {request : Request}
    {route : Route} {principal : Principal} {context : Context}
    (hsession : Intake.principal security request = .ok principal)
    (hderived : ((Login.contextOf principal).run state).1 = .ok context) :
    (Console.serve security request route).run state
      = if route.takes request.method then
          (Console.handle security principal context request route).run state
        else (.error ⟨405, .empty⟩, state) := by
  have hstate : ((Login.contextOf principal).run state).2 = state :=
    contextOf_readOnly principal state
  have hcontext : ((Login.contextOf principal).orFail Console.serviceFailure).run state
      = (.ok context, state) := by
    rw [Script.run_orFail, hderived, hstate]
    rfl
  unfold Console.serve
  rw [hsession, Script.run_bind]
  show ((Login.contextOf principal).orFail Console.serviceFailure >>= _).run state = _
  rw [Script.run_bind, hcontext]
  simp only
  split <;> rfl

/-- The response that a handler ends in. -/
def ended : Except Response Response → Response
  | .ok response => response
  | .error response => response

/-- A route that needs a session is answered as it is served; of the head, the body is left out. -/
theorem respond_eq_serve {console : Console} {request : Request} {route : Route}
    (hroute : Route.ofTarget? request.target = some route) (hhealth : route ≠ .health)
    (hmethod : request.method ≠ .options) :
    console.respond request
      = (if request.method = .head then
            (ended ((Console.serve console.security request route).run console.state).1).bare
          else ended ((Console.serve console.security request route).run console.state).1,
        { console with
          state := ((Console.serve console.security request route).run console.state).2 }) := by
  unfold Console.respond Console.answer
  rw [if_neg hmethod, hroute]
  cases route <;> first | rfl | exact absurd rfl hhealth

/-- A request for the options is answered before anything of it is looked at. -/
theorem respond_options (console : Console) {request : Request} (h : request.method = .options) :
    console.respond request = (⟨200, .empty⟩, console) := by
  unfold Console.respond Console.answer
  rw [if_pos h, h]
  rfl

/-- No route takes what the console answers by itself. -/
theorem not_options_of_takes {route : Route} {method : Method} (h : route.takes method = true) :
    method ≠ .options := by
  rintro rfl
  revert h
  cases route <;> simp [Route.takes, Route.methods]

/-- A request that gets through is handled, and that is all that happens. -/
theorem respond_of_session (console : Console) {request : Request} {route : Route}
    {principal : Principal} {context : Context}
    (hroute : Route.ofTarget? request.target = some route) (hhealth : route ≠ .health)
    (htakes : route.takes request.method = true)
    (hsession : Intake.principal console.security request = .ok principal)
    (hderived : ((Login.contextOf principal).run console.state).1 = .ok context) :
    (console.respond request).2.state
      = ((Console.handle console.security principal context request route).run
          console.state).2 := by
  rw [respond_eq_serve hroute hhealth (not_options_of_takes htakes),
    serve_of_session hsession hderived, if_pos htakes]

/-- **A request is not served and changes nothing, or it is handled for the user of its session.**
-/
theorem respond_effect (console : Console) {table : Table User}
    (hstore : console.state.stores.users = .memory table) (request : Request) :
    (console.respond request).2.security = console.security
      ∧ ((console.respond request).2.state = console.state
        ∨ ∃ route principal context, Route.ofTarget? request.target = some route
          ∧ Served console.security console.state table request route principal context
              (console.respond request).2.state) := by
  have hresponds : (console.respond request).2 = (console.answer request).2 := rfl
  rw [hresponds]
  unfold Console.answer
  split
  · exact ⟨rfl, .inl rfl⟩
  split
  · exact ⟨rfl, .inl rfl⟩
  · exact ⟨rfl, .inl rfl⟩
  · rename_i route _ hroute
    refine ⟨rfl, (serve_sat hstore console.security request route).imp_right ?_⟩
    rintro ⟨principal, context, hserved⟩
    exact ⟨route, principal, context, hroute, hserved⟩

end TenantConsole
