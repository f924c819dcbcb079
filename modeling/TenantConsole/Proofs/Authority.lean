import TenantConsole.Proofs.InMemory
import TenantConsole.Proofs.Requests

/-!
# Authority over privileges

What a request can do to roles and flags if its user is not a super admin, or is not stored at all.
Two relations say it: `Bounded` for a user that was stored before, `Admitted` for one that was
not. Each of the five effects of a request is within them, because a super admin is needed for two
of them and the role guard stands before the others.
-/

namespace TenantConsole

/-! ## What a request is for -/

namespace Request

/-- A visit of the user of the session. A request for the head alone is served like its twin. -/
def Visits (request : Request) : Prop :=
  Route.ofTarget? request.target = some .me ∧ (request.method = .get ∨ request.method = .head)

/-- The submission of a user, or of a change to one. -/
def Submits (request : Request) : Prop :=
  Route.ofTarget? request.target = some .users ∧ request.method = .post
    ∨ ∃ id, Route.ofTarget? request.target = some (.user id) ∧ request.method = .patch

end Request

/-- The organization that a session acts in; none where it gets no context or acts in none. -/
def State.actsIn? (state : State) (principal : Principal) : Option String :=
  ((Login.contextOf principal).run state).1.toOption.bind Context.organization

/-! ## The bounds -/

/-- What such a request leaves of a stored user. -/
structure Bounded (security : SecuritySettings) (request : Request) (principal : Principal)
    (caller : Option User) (acting : Option String) (before after : User) : Prop where
  id : after.id = before.id
  identity : after.identity = before.identity
  flag : after.superAdmin = before.superAdmin
    ∨ request.Visits ∧ caller = some before ∧ after.superAdmin = true
      ∧ principal.issuer = "auth0" ∧ ∃ group, security.superAdminGroup = some group
        ∧ Text.isAllBlank group = false ∧ principal.inGroup group = true
  roles : after.roles = before.roles
    ∨ ∃ organization, acting = some organization
      ∧ after.rolesOutside organization = before.rolesOutside organization
      ∧ request.Submits ∧ ∃ user, caller = some user
        ∧ user.roleIn? organization = some ⟨organization, .admin⟩

/-- Which user such a request may store. -/
def Admitted (request : Request) (principal : Principal) (caller : Option User)
    (acting : Option String) (user : User) : Prop :=
  request.Visits ∧ caller = none ∧ user.identity = principal.identity
    ∨ user.superAdmin = false
      ∧ ∃ organization name, acting = some organization ∧ user.roles = [⟨organization, name⟩]

section Effects

variable {security : SecuritySettings} {request : Request} {principal : Principal}
  {context : Context} {caller : Option User} {acting : Option String} {table after : Table User}

theorem Bounded.refl (user : User) :
    Bounded security request principal caller acting user user :=
  ⟨rfl, rfl, .inl rfl, .inl rfl⟩

/-- A login turns on the flag of its user at most, or stores its user. -/
theorem Visit.bounded (hvisits : request.Visits)
    (hvisit : Visit security.superAdminGroup principal table after) :
    table.Evolves
      (Bounded security request principal (table.knownAs? principal.identity) acting)
      (Admitted request principal (table.knownAs? principal.identity) acting) after := by
  cases hvisit with
  | @promoted user hknown hadmin =>
    have hheld : table.get? user.id = some user :=
      Table.get?_of_mem (List.mem_of_find?_eq_some hknown)
    refine .replaced Bounded.refl hheld ⟨rfl, rfl, .inr ⟨hvisits, hknown, rfl, ?_⟩, .inl rfl⟩
    exact Principal.isSuperAdmin_iff.1 hadmin
  | registered hunknown hfree hidentity =>
    exact .inserted Bounded.refl hfree (.inl ⟨hvisits, hunknown, hidentity⟩)

/-- A submission that has passed the guard comes from an admin and bears the flag that was there. -/
theorem Authorized.ordinary {organization : String} {target : Option User} {superAdmin : Bool}
    (h : Authorized context organization target superAdmin)
    (hordinary : context.isSuperAdmin = false) (hcaller : ServedBy table principal context) :
    superAdmin = RoleGuard.currentFlag target
      ∧ ∃ user, table.knownAs? principal.identity = some user
        ∧ user.roleIn? organization = some ⟨organization, .admin⟩ := by
  constructor
  · rcases h.flag with hflag | ⟨hadmin, -⟩
    · exact hflag
    · exact absurd (hordinary.symm.trans hadmin) (by decide)
  · obtain ⟨user, huser, hrole⟩ := RoleGuard.isAdminIn_iff.1 (h.admin hordinary)
    exact ⟨user, hcaller.user huser, hrole⟩

/-- **Each effect of a request by anyone but a super admin is within the bounds.** -/
theorem RequestEffect.bounded {route : Route}
    (hroute : Route.ofTarget? request.target = some route)
    (htakes : route.takes request.method = true) (hcaller : ServedBy table principal context)
    (hordinary : context.isSuperAdmin = false)
    (heffect : RequestEffect security principal context request.method table route after) :
    table.Evolves
      (Bounded security request principal (table.knownAs? principal.identity) context.organization)
      (Admitted request principal (table.knownAs? principal.identity) context.organization)
      after := by
  -- a visit may raise the flag; the two submissions have passed the guard; creating and deleting
  -- organizations needs a super admin
  cases heffect with
  | visited hvisit =>
    refine hvisit.bounded ⟨hroute, ?_⟩
    revert htakes
    cases request.method <;> simp [Route.takes, Route.methods]
  | admitted hmethod hauthorized hadmission =>
    obtain ⟨hflag, hadmin⟩ := hauthorized.ordinary hordinary hcaller
    refine hadmission.evolves Bounded.refl (fun {existing role} hrole => ?_) fun hrole => ?_
    · subst hrole
      exact ⟨rfl, rfl, .inl rfl, .inr ⟨_, hauthorized.acting, existing.holding_rolesOutside role,
        .inl ⟨hroute, hmethod⟩, hadmin⟩⟩
    · subst hrole
      exact .inr ⟨hflag, _, _, hauthorized.acting, rfl⟩
  | @reassigned segment organization user current after hsegment hauthorized hfound hreassignment =>
    obtain ⟨hflag, hadmin⟩ := hauthorized.ordinary hordinary hcaller
    have hmethod : request.method = .patch := by
      revert htakes
      cases request.method <;> simp [Route.takes, Route.methods]
    refine hreassignment.evolves Bounded.refl fun {current' role} hfound' hrole => ?_
    cases hfound.symm.trans hfound'
    subst hrole
    exact ⟨rfl, rfl, .inl hflag, .inr ⟨_, hauthorized.acting, current.holding_rolesOutside role,
      .inr ⟨segment, hroute, hmethod⟩, hadmin⟩⟩
  | enrolled hadmin => exact absurd (hordinary.symm.trans hadmin) (by decide)
  | stripped hadmin => exact absurd (hordinary.symm.trans hadmin) (by decide)

end Effects

/-! ## One request -/

/-- Whatever happens to the users happens to nothing else, and the bounds hold across their table.
-/
theorem respond_bounded (console : Console) {table : Table User}
    (hstore : console.state.stores.users = .memory table) {request : Request}
    {principal : Principal} (hsession : Intake.principal console.security request = .ok principal)
    (hordinary : ∀ user, table.knownAs? principal.identity = some user → user.superAdmin = false) :
    ∃ users, console.state.WithUsers users (console.respond request).2.state
      ∧ table.Evolves
        (Bounded console.security request principal (table.knownAs? principal.identity)
          (console.state.actsIn? principal))
        (Admitted request principal (table.knownAs? principal.identity)
          (console.state.actsIn? principal)) users := by
  obtain ⟨-, hsame | ⟨route, principal', context, hroute, hserved⟩⟩ :=
    respond_effect console hstore request
  · rw [hsame]
    exact ⟨table, .refl hstore, .refl Bounded.refl _⟩
  · cases hserved.session.symm.trans hsession
    -- a context is a super admin's only if the stored user has the flag
    have hcontext : context.isSuperAdmin = false := by
      cases hadmin : context.isSuperAdmin with
      | false => rfl
      | true =>
        obtain ⟨user, huser, hflag⟩ := hserved.caller.superAdmin hadmin
        exact absurd ((hordinary user (hserved.caller.user huser)).symm.trans hflag) (by decide)
    have hacting : console.state.actsIn? principal = context.organization := by
      unfold State.actsIn?
      rw [hserved.derived]
      rfl
    obtain ⟨users, -, hchange, hwith⟩ := hserved.left
    refine ⟨users, hwith hcontext, ?_⟩
    rw [hacting]
    rcases hchange with rfl | heffect
    · exact .refl Bounded.refl _
    · exact heffect.bounded hroute hserved.method hserved.caller hcontext

/-- **Privileges stay where they are, or go as far as the caller's own.** A request whose user is
not a super admin, or not stored, changes nothing but users, keeps every stored user within its
bounds and stores no other user than it may. -/
theorem request_bounded {settings : CatalogSettings} {tables : PrimaryTables} {stores : Stores}
    (hassembled : Stores.assemble settings tables.stores = .ok stores)
    {security : SecuritySettings} {request : Request} {principal : Principal}
    (hsession : Intake.principal security request = .ok principal)
    (hordinary : ∀ user, tables.users.knownAs? principal.identity = some user →
      user.superAdmin = false) (world : World) :
    ∃ users world',
      (Console.respond ⟨security, ⟨stores, world⟩⟩ request).2
          = ⟨security, ⟨{ stores with users := .memory users }, world'⟩⟩
        ∧ world'.disk = world.disk
        ∧ (∀ before ∈ tables.users.rows, ∃ after ∈ users.rows,
            Bounded security request principal (tables.users.knownAs? principal.identity)
              (State.actsIn? ⟨stores, world⟩ principal) before after)
        ∧ ∀ user ∈ users.rows, (∀ before ∈ tables.users.rows, before.id ≠ user.id) →
            Admitted request principal (tables.users.knownAs? principal.identity)
              (State.actsIn? ⟨stores, world⟩ principal) user := by
  have hstore : stores.users = .memory tables.users := users_of_assemble hassembled
  have hsecurity := (respond_effect ⟨security, ⟨stores, world⟩⟩ hstore request).1
  obtain ⟨users, ⟨hstores, hdisk⟩, hevolves⟩ :=
    respond_bounded ⟨security, ⟨stores, world⟩⟩ hstore hsession hordinary
  -- the console is taken apart, so that what is kept can be named
  rcases hafter : (Console.respond ⟨security, ⟨stores, world⟩⟩ request).2
    with ⟨security', ⟨stores', world'⟩⟩
  rw [hafter] at hsecurity hstores hdisk
  cases hsecurity
  cases hstores
  refine ⟨users, world', rfl, hdisk, fun before hbefore => ?_,
    fun user huser hnew => hevolves.of_new huser hnew⟩
  obtain ⟨after, hmem, -, hbounded⟩ := hevolves.of_mem hbefore
  exact ⟨after, hmem, hbounded⟩

/-! ### A visit -/

namespace Visitor

/-- A session of `a` at `auth0`, in the group `g`, signed with the key `k`. -/
def token : String :=
  "eyJ0eXAiOiJKV1QiLCJhbGciOiJIUzI1NiJ9"
    ++ ".eyJzdWIiOiJhIiwiaXNzIjoiYXV0aDAiLCJvcmciOiIiLCJncnAiOiJnIiwiZXhwIjo5LCJpYXQiOjB9"
    ++ ".n1ZMOw-68sLTV43k2bXTDDiXdrPRIqFQWihhiOD6umA"

def security : SecuritySettings := { secret := "k", hours := 1, superAdminGroup := some "g" }

def principal : Principal := { subject := "a", issuer := "auth0", group := "g" }

def user : User :=
  { id := "u1", name := "a", provider := "auth0", scheme := "oauth2", roles := [⟨"o", .viewer⟩] }

def tables : PrimaryTables := { users := Table.empty.insert user }

def world : World := { ids := fun _ => "" }

/-- A request for the own account, with the token of the session. -/
def visit (method : Method) : Request :=
  { method, target := "/api/me", headers := [("authorization", "Bearer " ++ token)],
    moment := ⟨0, ""⟩ }

/-- The token is valid for the principal, whatever the method. -/
theorem session (method : Method) : Intake.principal security (visit method) = .ok principal := by
  have htoken : (Intake.principal security (visit .get)).toOption = some principal := by
    decide +kernel
  rw [principal_congr security (visit method) (visit .get) rfl rfl]
  cases hintake : Intake.principal security (visit .get) with
  | error error => rw [hintake] at htoken; cases htoken
  | ok found => rw [hintake] at htoken; cases htoken; rfl

/-- A request of the visitor for something else. -/
def asking (method : Method) (target : String) : Request := { visit method with target }

/-- The session does not depend on what is asked for. -/
theorem session_asking (method : Method) (target : String) :
    Intake.principal security (asking method target) = .ok principal := by
  rw [principal_congr security (asking method target) (visit method) rfl rfl]
  exact session method

end Visitor

/-- The visitor logs in, and its user is kept within its bounds. -/
theorem request_bounded_visit : ∃ stores,
    Stores.assemble {} Visitor.tables.stores = .ok stores ∧ ∃ users world',
      (Console.respond ⟨Visitor.security, ⟨stores, Visitor.world⟩⟩ (Visitor.visit .get)).2
          = ⟨Visitor.security, ⟨{ stores with users := .memory users }, world'⟩⟩
        ∧ ∃ after ∈ users.rows,
            Bounded Visitor.security (Visitor.visit .get) Visitor.principal (some Visitor.user)
              (some "o") Visitor.user after := by
  have hassembled : Stores.assemble {} Visitor.tables.stores = .ok _ := rfl
  have hknown : Visitor.tables.users.knownAs? Visitor.principal.identity = some Visitor.user := rfl
  obtain ⟨users, world', hafter, -, hbounded, -⟩ :=
    request_bounded hassembled (Visitor.session .get)
      (fun user h => by cases hknown.symm.trans h; rfl) Visitor.world
  exact ⟨_, hassembled, users, world', hafter, hbounded Visitor.user (.head _)⟩

/-- The head of a visit is asked for, and the flag of the visitor is on. -/
theorem head_visit_promotes : ∃ stores,
    Stores.assemble {} Visitor.tables.stores = .ok stores
      ∧ Intake.principal Visitor.security (Visitor.visit .head) = .ok Visitor.principal
      ∧ Visitor.tables.users.knownAs? Visitor.principal.identity = some Visitor.user
      ∧ Visitor.user.superAdmin = false ∧ (Visitor.visit .head).method ≠ .get
      ∧ (Console.respond ⟨Visitor.security, ⟨stores, Visitor.world⟩⟩
            (Visitor.visit .head)).2.state.stores.users
          = .memory (Table.empty.insert { Visitor.user with superAdmin := true }) := by
  have hroute : Route.ofTarget? (Visitor.visit .head).target = some .me := by decide +kernel
  refine ⟨_, rfl, Visitor.session .head, rfl, rfl, by decide, ?_⟩
  rw [respond_of_session ⟨Visitor.security, ⟨_, Visitor.world⟩⟩ hroute (by decide) (by decide)
    (Visitor.session .head) rfl]
  rfl

end TenantConsole
