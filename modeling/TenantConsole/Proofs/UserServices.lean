import TenantConsole.Proofs.Memberships
import TenantConsole.Proofs.Submissions
import TenantConsole.Service.Login
import TenantConsole.Service.Organizations
import TenantConsole.Service.Users

/-!
# What the services do to stored users

The users lie in memory, so each service can be read as a change of one table. `State.WithUsers`
says that nothing but this table has changed, and the lemmas below name the change, one for each
service:

* a submission admits a user to the organization that the caller acts in, or reassigns a member;
* a login promotes the user that it is for, or registers one;
* creating an organization enrols a member, and deleting one lets its members leave.

They keep what the role guard has checked, because the stores do not check it again. What stands in
the way of a new user is said by `State.AddsUnless`, and how a first login ends by
`Login.Registered`.
-/

namespace TenantConsole

open Collection

/-- The stored user that an identity stands for: the first one, if there are several. -/
def Table.knownAs? (table : Table User) (identity : Identity) : Option User :=
  table.rows.find? fun user => user.identity = identity

/-- A look-up by identity finds the user that the identity stands for. -/
theorem Table.find_ofListing (table : Table User) (identity : Identity) :
    (Readings.ofListing (.ok table.rows)).find (Scoping.identityQuery identity)
      = Readings.orMissing (Scoping.identityQuery identity).label (table.knownAs? identity) := rfl

/-! ## States that differ in their users -/

/-- The state with these users, apart from the ids that have been drawn on the way. -/
structure State.WithUsers (before : State) (table : Table User) (after : State) : Prop where
  stores : after.stores = { before.stores with users := .memory table }
  disk : after.world.disk = before.world.disk

namespace State.WithUsers

variable {before after : State} {table : Table User}

theorem refl (hstore : before.stores.users = .memory table) : before.WithUsers table before :=
  ⟨by rw [← hstore], rfl⟩

theorem users (h : before.WithUsers table after) : after.stores.users = .memory table := by
  rw [h.stores]

end State.WithUsers

/-- What a call on the users leaves: a refusal and the users as they were, or a change that goes
with its answer. -/
def State.UsersSettle {ε α : Type} (before : State) (table : Table User)
    (change : α → Table User → Prop) (answer : Except ε α) (after : State) : Prop :=
  ∃ table', before.WithUsers table' after
    ∧ ((∃ error, answer = .error error) ∧ table' = table
      ∨ ∃ value, answer = .ok value ∧ change value table')

/-- Only the users may have changed, and the change is one of these. -/
def State.UsersBecome (before : State) (change : Table User → Prop) (after : State) : Prop :=
  ∃ table', before.WithUsers table' after ∧ change table'

section Calls

variable {α ε : Type} {state : State} {table : Table User} {context : Context} {user : User}

/-- A write that settles leaves the users as they were or changes them as it says. -/
theorem State.UsersSettle.become {before after : State} {change : α → Table User → Prop}
    {change' : Table User → Prop} {answer : Except ε α}
    (h : before.UsersSettle table change answer after) (hsame : change' table)
    (hchange : ∀ {value table'}, change value table' → change' table') :
    before.UsersBecome change' after := by
  obtain ⟨table', hwith, ⟨-, rfl⟩ | ⟨value, -, hvalue⟩⟩ := h
  · exact ⟨_, hwith, hsame⟩
  · exact ⟨table', hwith, hchange hvalue⟩

/-! ## Calls on the users -/

/-- What becomes of the table is what becomes of the state. -/
theorem users_write_sat {write : Write User α} {change : α → Table User → Prop}
    (hstore : state.stores.users = .memory table)
    (hsettles : table.Settles state.world change
      ((users.access context).outcome write table state.world)) :
    (users.write context write).Sat state (state.UsersSettle table change) := by
  unfold Script.Sat
  rw [run_write_memory users_lawful hstore]
  exact ⟨_, ⟨rfl, hsettles.1⟩, hsettles.2⟩

/-- The console itself writes to the table. -/
theorem server_write_sat (hstore : state.stores.users = .memory table) (write : Write User α) :
    (users.write .server write).Sat state (state.UsersSettle table (table.Change write)) :=
  users_write_sat hstore (Table.write_settles table write state.world)

/-- A session reaches the members of the organization that it acts in, or nobody. -/
theorem access_of_session (hsession : context.isServerCall = false) :
    users.access context = match context.organization with
      | some organization => .within (.membership organization)
      | none => .nothing := by
  simp only [users, Access.ofUsers, Context.scope, hsession]
  cases context.organization <;> rfl

theorem access_of_acting {acting : String} (hsession : context.isServerCall = false)
    (hacting : context.organization = some acting) :
    users.access context = .within (.membership acting) := by
  rw [access_of_session hsession, hacting]

/-- A session writes as an organization does, and not at all while it acts in none. -/
theorem session_write_sat (hsession : context.isServerCall = false)
    (hstore : state.stores.users = .memory table) (write : Write User α) :
    (users.write context write).Sat state (state.UsersSettle table fun answer after =>
      ∃ organization, context.organization = some organization
        ∧ MemberChange organization table write answer after) := by
  refine users_write_sat hstore ?_
  rw [access_of_session hsession]
  cases hacting : context.organization with
  | none => exact Table.settles_refusal rfl
  | some organization =>
    obtain ⟨hdisk, hrefused | ⟨value, hvalue, hchange⟩⟩ :=
      membership_settles organization table state.world write
    · exact ⟨hdisk, .inl hrefused⟩
    · exact ⟨hdisk, .inr ⟨value, hvalue, organization, rfl, hchange⟩⟩

theorem access_of_server (hserver : context.isServerCall = true) :
    users.access context = .full := by
  simp [users, Access.ofUsers, Context.scope, hserver]

/-! ### Adding -/

/-- How the addition of a user ends: with a conflict that leaves everything as it was, if there is
a user in the way, and else with an answer. -/
def State.AddsUnless {ε α : Type} (before : State) (conflict : StoreError → ε) :
    Option User → Except ε α → State → Prop
  | some holder, answer, after => answer = .error (conflict (.taken User holder.id))
    ∧ after.stores = before.stores ∧ after.world.disk = before.world.disk
  | none, answer, _ => ∃ value, answer = .ok value

/-- A caller that writes this user to the table adds it, unless its id is held. -/
theorem add_unless (answer : User → Except StoreError User) {value : User}
    (hstore : state.stores.users = .memory table)
    (houtcome : (users.access context).outcome (.add user) table state.world
      = (Plan.add user answer).carriedOut table state.world)
    (hanswer : answer (state.world.named user) = .ok value) :
    (users.add context user).Sat state
      (state.AddsUnless id (table.get? (state.world.named user).id)) := by
  have hsame : users.replace state.stores (.memory table) = state.stores := by
    rw [← hstore]
    rfl
  unfold Script.Sat Collection.add
  rw [run_write_memory users_lawful hstore, houtcome, Plan.carriedOut]
  -- a held id is a conflict that names the holder, a free one is written
  cases hheld : table.get? (state.world.named user).id with
  | some holder =>
    have hid : holder.id = (state.world.named user).id := Table.id_of_get?_eq_some hheld
    rw [Table.write_add_taken hheld, hsame]
    refine ⟨?_, rfl, Table.afterNaming_disk _ _⟩
    rw [hid]
    rfl
  | none =>
    rw [Table.write_add_free hheld]
    exact ⟨value, hanswer⟩

/-- The console adds a user unless its id is held. -/
theorem add_unless_server (hserver : context.isServerCall = true)
    (hstore : state.stores.users = .memory table) (user : User) :
    (users.add context user).Sat state
      (state.AddsUnless id (table.get? (state.world.named user).id)) := by
  refine add_unless .ok hstore ?_ rfl
  rw [access_of_server hserver]
  show table.write (.add user) state.world = _
  rw [Plan.carriedOut]
  rcases table.write (.add user) state.world with ⟨error | added, after⟩ <;> rfl

/-- A session adds a user whose identity is unknown unless its id is held. -/
theorem add_unless_unknown {acting : String} {role : Role} (hsession : context.isServerCall = false)
    (hacting : context.organization = some acting) (hstore : state.stores.users = .memory table)
    (hrole : Scoping.submittedRole acting user = .ok role) (hroles : user.roles = [role])
    (hunknown : table.knownAs? user.identity = none) :
    (users.add context user).Sat state
      (state.AddsUnless id (table.get? (state.world.named user).id)) := by
  have hwhole : ({ user with roles := [role] } : User) = user := by rw [← hroles]
  have hmissing : (Readings.ofListing (.ok table.rows)).find (Scoping.identityQuery user.identity)
      = .error (.missing User (Scoping.identityQuery user.identity).label) := by
    rw [Table.find_ofListing, hunknown]
    rfl
  have hseen : Scoping.seenMember acting (state.world.named user)
      = .ok (state.world.named user) := by
    obtain ⟨id, hid⟩ := user.named_cases state.world
    rw [Scoping.seenMember, hid,
      User.seenIn?_of_roles { user with id } hroles (submittedRole_ok hrole).2.1]
  refine add_unless (Scoping.seenMember acting) hstore ?_ hseen
  rw [access_of_acting hsession hacting]
  simp only [Access.outcome, Scoping.plan, Scoping.membership, hrole, hmissing, StoreError.missing,
    StoreError.isNotFound, if_true, hwhole]

/-! ### Looking up -/

/-- The console finds the user that an identity stands for, or learns that there is none. -/
theorem run_find?_knownAs (hstore : state.stores.users = .memory table) (identity : Identity) :
    (users.find? .server (Scoping.identityQuery identity)).run state
      = (.ok (table.knownAs? identity), state) := by
  have hreads : (users.readings .server state).find (Scoping.identityQuery identity)
      = Readings.orMissing (Scoping.identityQuery identity).label (table.knownAs? identity) := by
    show (Store.readings state.world.disk (users.store state.stores)).find _ = _
    rw [show users.store state.stores = .memory table from hstore]
    exact table.find_ofListing identity
  simp only [find?, Script.run_bind, Script.run_attempt, run_find, hreads]
  cases table.knownAs? identity <;> rfl

theorem find?_knownAs (hstore : state.stores.users = .memory table) {identity : Identity}
    {found : Option User}
    (h : ((users.find? .server (Scoping.identityQuery identity)).run state).1 = .ok found) :
    table.knownAs? identity = found := by
  rw [run_find?_knownAs hstore] at h
  exact Except.ok.inj h

/-- What a session gets under an id is a stored user, seen from the organization that it acts in. -/
theorem session_get (hsession : context.isServerCall = false)
    (hstore : state.stores.users = .memory table) {id : String} {seen : User}
    (h : (users.readings context state).get id = .ok seen) :
    ∃ organization current, context.organization = some organization
      ∧ table.get? id = some current ∧ current.seenIn? organization = some seen := by
  unfold readings Collection.seen at h
  rw [access_of_session hsession, show users.store state.stores = .memory table from hstore] at h
  cases hacting : context.organization with
  | none => rw [hacting] at h; cases h
  | some organization =>
    rw [hacting] at h
    simp only [Access.view, Store.readings, Scoping.membership, Scoping.viewed,
      Table.get_ofListing] at h
    cases hfound : table.get? id with
    | none => rw [hfound] at h; cases h
    | some current =>
      rw [hfound] at h
      simp only [Readings.orMissing] at h
      cases hseen : current.seenIn? organization with
      | none => rw [hseen] at h; cases h
      | some shown =>
        rw [hseen] at h
        cases h
        exact ⟨organization, current, rfl, rfl, hseen⟩

end Calls

/-! ## Submissions -/

/-- What the role guard has checked about a submission that ends with a role in the
organization. -/
structure Authorized (context : Context) (organization : String) (target : Option User)
    (superAdmin : Bool) : Prop where
  acting : context.organization = some organization
  flag : superAdmin = RoleGuard.currentFlag target
    ∨ context.isSuperAdmin = true ∧ (superAdmin = true ∨ RoleGuard.isSelf context target = false)
  admin : context.isSuperAdmin = false → RoleGuard.isAdminIn context organization = true

/-- A submission whose roles have been validated is authorized, for any role that the scope takes
from it. -/
theorem authorized_of_validate {context : Context} {organization : String} {target : Option User}
    {requests : List RoleRequest} {superAdmin : Bool} {user : User} {role : Role} {state : State}
    (hsession : context.isServerCall = false) (hacting : context.organization = some organization)
    (hvalid : ((Roles.validate context target requests superAdmin).run state).1 = .ok user.roles)
    (hrole : Scoping.submittedRole organization user = .ok role) :
    Authorized context organization target superAdmin := by
  obtain ⟨named, hcheck, hnamed⟩ := Roles.check_of_validate hvalid
  obtain ⟨-, -, hflag, hauthority⟩ := RoleGuard.check_eq_ok_iff.1 hcheck
  have hroles : user.roles ≠ [] :=
    List.ne_nil_of_mem (List.mem_of_find?_eq_some (submittedRole_ok hrole).1)
  exact ⟨hacting, RoleGuard.checkFlag_eq_ok_iff.1 hflag, fun hordinary =>
    RoleGuard.admin_of_checkAuthority hsession hordinary hacting (hnamed hroles) hauthority⟩

section Services

variable {context : Context} {state : State} {table : Table User}

/-- **A session that creates a user admits it where it acts, or changes nothing.** -/
theorem create_sat (hsession : context.isServerCall = false)
    (hstore : state.stores.users = .memory table) (submission : UserSubmission) :
    (Users.create context submission).Sat state fun _ => state.UsersBecome fun after =>
      after = table ∨ ∃ organization user answer,
        Authorized context organization none user.superAdmin
          ∧ Admission organization table user answer after := by
  have hsame {change : Table User → Prop} :
      state.UsersBecome (fun after => after = table ∨ change after) state :=
    ⟨table, .refl hstore, .inl rfl⟩
  unfold Users.create
  split
  · exact hsame
  · refine .after_reading (Roles.validate_readOnly _ _ _ _).orFail (fun roles hroles => ?_)
      fun _ _ => hsame
    refine .after_reading (find?_readOnly _ _ _).orFail (fun found _ => ?_) fun _ _ => hsame
    -- a user that is found is a duplicate, so the addition is made only if there is none
    cases found with
    | some existing => exact hsame
    | none =>
      simp only [Script.sat_orFail]
      refine (session_write_sat hsession hstore _).mono fun h => ?_
      refine h.become (.inl rfl) ?_
      rintro _ _ ⟨organization, hacting, hadmission⟩
      refine .inr ⟨organization, _, _, ?_, hadmission⟩
      have hvalid := Script.ok_of_orFail hroles
      cases hadmission with
      | joined hrole => exact authorized_of_validate hsession hacting hvalid hrole
      | created hrole => exact authorized_of_validate hsession hacting hvalid hrole

/-- **A session that updates a user reassigns it where it acts, or changes nothing.** -/
theorem update_sat (hsession : context.isServerCall = false)
    (hstore : state.stores.users = .memory table) (id : String) (patch : UserPatch) :
    (Users.update context id patch).Sat state fun _ => state.UsersBecome fun after =>
      after = table ∨ ∃ organization user current,
        Authorized context organization (some current) user.superAdmin ∧ user.id = id
          ∧ table.get? id = some current ∧ Reassignment organization table user after := by
  have hsame {change : Table User → Prop} :
      state.UsersBecome (fun after => after = table ∨ change after) state :=
    ⟨table, .refl hstore, .inl rfl⟩
  unfold Users.update
  refine .after_reading (get_readOnly _ _ _).orFail (fun seen hseen => ?_) fun _ _ => hsame
  obtain ⟨organization, current, hacting, hfound, hshown⟩ :=
    session_get hsession hstore (Script.ok_of_orFail hseen)
  refine .after_reading (Roles.validate_readOnly _ _ _ _).orFail (fun roles hroles => ?_)
    fun _ _ => hsame
  refine .then_reading ?_ fun _ => (get_readOnly _ _ _).orFail
  simp only [Script.sat_orFail]
  refine (session_write_sat hsession hstore _).mono fun h => ?_
  refine h.become (.inl rfl) ?_
  rintro _ _ ⟨acting, hacting', hchange⟩
  cases hacting.symm.trans hacting'
  obtain ⟨role, hrole, rfl⟩ := User.seenIn?_eq_some hshown
  refine .inr ⟨organization, _, current, ?_, ?_, hfound, hchange⟩
  · cases hchange with
    | changed hrole =>
      -- the guard has looked at the user as it is seen, with the id and the flag of the stored one
      obtain ⟨hacting, hflag, hadmin⟩ :=
        authorized_of_validate hsession hacting (Script.ok_of_orFail hroles) hrole
      refine ⟨hacting, hflag.imp_right (And.imp_right (Or.imp_right fun hother => ?_)), hadmin⟩
      simpa [← Bool.not_eq_true, RoleGuard.isSelf_iff] using hother
  · exact Table.id_of_get?_eq_some hfound

/-! ## Logins -/

/-- What a login does to the stored users where it does anything. -/
inductive Visit (adminGroup : Option String) (principal : Principal) (table : Table User) :
    Table User → Prop where
  | promoted {user : User} (hknown : table.knownAs? principal.identity = some user)
      (hadmin : principal.isSuperAdmin adminGroup = true) :
      Visit adminGroup principal table (table.insert { user with superAdmin := true })
  | registered {user : User} (hunknown : table.knownAs? principal.identity = none)
      (hfree : table.get? user.id = none) (hidentity : user.identity = principal.identity) :
      Visit adminGroup principal table (table.insert user)

/-- Whether new users become super admins is read from the configuration. -/
theorem superAdminNewUsers_readOnly : Login.superAdminNewUsers.ReadOnly := by
  refine .bind (get?_readOnly _ _ _) fun found => ?_
  cases found with
  | none => exact .pure _
  | some _ => exact .pure _

section Promoting

variable {adminGroup : Option String} {principal : Principal} {user : User}

/-- **A known user is promoted, or all stays as it is.** -/
theorem run_promote (hstore : state.stores.users = .memory table)
    (hknown : table.knownAs? principal.identity = some user) :
    (Login.promote adminGroup principal user).run state
      = if ¬ user.superAdmin = true ∧ principal.isSuperAdmin adminGroup = true then
          (.ok { user with superAdmin := true },
            ⟨{ state.stores with users := .memory (table.insert { user with superAdmin := true }) },
              state.world⟩)
        else (.ok user, state) := by
  unfold Login.promote
  split
  · have hheld : table.get? user.id = some user :=
      Table.get?_of_mem (List.mem_of_find?_eq_some hknown)
    have hwritten : (users.update .server { user with superAdmin := true }).run state
        = (.ok (), _) :=
      run_update_held users_lawful .server rfl hstore (Option.isSome_of_eq_some hheld)
    rw [Script.run_bind, hwritten]
    rfl
  · rfl

/-- A login of a known user looks it up, and may promote it. -/
theorem run_userOf_known (hstore : state.stores.users = .memory table)
    (hknown : table.knownAs? principal.identity = some user) :
    (Login.userOf adminGroup principal).run state
      = (Login.promote adminGroup principal user).run state := by
  unfold Login.userOf
  rw [Script.run_bind, run_find?_knownAs hstore, hknown]

/-- A known user visits, or stays as it is. -/
theorem promote_sat (hstore : state.stores.users = .memory table)
    (hknown : table.knownAs? principal.identity = some user) :
    (Login.promote adminGroup principal user).Sat state fun _ => state.UsersBecome fun after =>
      after = table ∨ Visit adminGroup principal table after := by
  unfold Script.Sat
  rw [run_promote hstore hknown]
  split
  · rename_i hpromotes
    exact ⟨_, ⟨rfl, rfl⟩, .inr (.promoted hknown hpromotes.2)⟩
  · exact ⟨table, .refl hstore, .inl rfl⟩

end Promoting

/-- Whether the user of a first login becomes a super admin. -/
def firstFlag (adminGroup : Option String) (principal : Principal) : StoreScript Bool :=
  if principal.isSuperAdmin adminGroup then pure true else Login.superAdminNewUsers

/-- The roles of a first login: those that are granted, or the default role of the default
organization. -/
def firstRoles (granted : List Role) : StoreScript (List Role) :=
  if granted = [] then do
    let organization ← Login.defaultOrganization
    return [⟨organization.id, organization.defaultRole⟩]
  else return granted

/-- The user of a first login, stored unless nothing admits it. -/
def register (principal : Principal) (granted : List Role) (superAdmin : Bool) :
    StoreScript User :=
  if granted = [] ∧ ¬ superAdmin then
    .fail (.unauthorized s!"no organization mapping admits '{principal.subject}'")
  else do
    let roles ← firstRoles granted
    users.add .server
      { name := principal.subject, provider := principal.issuer, scheme := sessionScheme,
        superAdmin, roles }

/-- A first login asks for the granted roles, then for the flag, and then registers. -/
theorem login_createUser_eq (adminGroup : Option String) (principal : Principal) :
    Login.createUser adminGroup principal = (do
      let granted ← Roles.ofPrincipal principal
      register principal granted (← firstFlag adminGroup principal)) := by
  unfold Login.createUser
  congr
  funext granted
  unfold firstFlag register firstRoles
  by_cases hgranted : granted = [] <;> by_cases hadmin : principal.isSuperAdmin adminGroup = true
    <;> simp [hgranted, hadmin]

theorem firstFlag_readOnly (adminGroup : Option String) (principal : Principal) :
    (firstFlag adminGroup principal).ReadOnly := by
  unfold firstFlag
  split
  · exact .pure _
  · exact superAdminNewUsers_readOnly

theorem firstRoles_readOnly (granted : List Role) : (firstRoles granted).ReadOnly := by
  unfold firstRoles
  split
  · exact .bind (.look _) fun _ => .pure _
  · exact .pure _

/-- Who is granted roles starts with the granted ones. -/
theorem firstRoles_of_granted {granted : List Role} (hgranted : granted ≠ []) :
    firstRoles granted = .ok granted := by
  unfold firstRoles
  rw [if_neg hgranted]
  rfl

/-- The user that a first login stores. -/
def Login.newcomer (principal : Principal) (superAdmin : Bool) (roles : List Role) (id : String) :
    User :=
  { id, name := principal.subject, provider := principal.issuer, scheme := sessionScheme
    superAdmin, roles }

/-- How a registration with these roles and this flag ends. Without the flag the newcomer has the
roles that it is granted. -/
inductive Login.Registered (principal : Principal) (granted : List Role) (flag : Bool)
    (state : State) (table : Table User) : Except StoreError User → State → Prop where
  | refused {error : StoreError} {after : State} (hstores : after.stores = state.stores)
      (hdisk : after.world.disk = state.world.disk) :
      Registered principal granted flag state table (.error error) after
  | stored {user : User} {roles : List Role} (hfree : table.get? state.world.nextId = none)
      (hroles : flag = false → granted ≠ [] ∧ roles = granted)
      (huser : user = newcomer principal flag roles state.world.nextId) :
      Registered principal granted flag state table (.ok user)
        ⟨{ state.stores with users := .memory (table.insert user) },
          { state.world with drawn := state.world.drawn + 1 }⟩

section Registering

variable {principal : Principal}

/-- A draft is stored under the next id if that is free. -/
theorem run_adds_free (hstore : state.stores.users = .memory table) {draft : User}
    (hlacks : draft.id = "") (hfree : table.get? state.world.nextId = none) :
    (users.add .server draft).run state
      = (.ok { draft with id := state.world.nextId },
        ⟨{ state.stores with
            users := .memory (table.insert { draft with id := state.world.nextId }) },
          { state.world with drawn := state.world.drawn + 1 }⟩) :=
  run_add_fresh users_lawful .server rfl hstore hlacks hfree

/-- If the id that is drawn is not new, nobody is added. -/
theorem run_adds_held (hstore : state.stores.users = .memory table) {draft : User}
    (hlacks : draft.id = "") (hheld : table.get? state.world.nextId ≠ none) :
    ∃ error after, (users.add .server draft).run state = (.error error, after)
      ∧ after.stores = state.stores ∧ after.world.disk = state.world.disk := by
  have hserver : Context.server.isServerCall = true := rfl
  have hadds := add_unless_server hserver hstore draft
  have hid : (state.world.named draft).id = state.world.nextId := by
    rw [User.named_id]
    exact if_pos hlacks
  obtain ⟨holder, hholder⟩ := Option.ne_none_iff_exists'.1 hheld
  rw [hid, hholder] at hadds
  obtain ⟨hrefused, hstores, hdisk⟩ := hadds
  exact ⟨_, _, Prod.ext hrefused rfl, hstores, hdisk⟩

/-- **Nobody is registered in part.** -/
theorem register_cases (hstore : state.stores.users = .memory table) (principal : Principal)
    (granted : List Role) (flag : Bool) :
    (register principal granted flag).Sat state
      (Login.Registered principal granted flag state table) := by
  unfold register
  split
  · exact .refused rfl rfl
  rename_i hadmitted
  refine .after_reading (firstRoles_readOnly granted) (fun roles hroles => ?_)
    fun _ _ => .refused rfl rfl
  let draft : User := Login.newcomer principal flag roles ""
  show (users.add .server draft).Sat state _
  have hlacks : draft.id = "" := rfl
  unfold Script.Sat
  by_cases hfree : table.get? state.world.nextId = none
  · have hplain : flag = false → granted ≠ [] ∧ roles = granted := by
      rintro rfl
      have hgranted : granted ≠ [] := fun hnone => hadmitted ⟨hnone, nofun⟩
      rw [firstRoles_of_granted hgranted] at hroles
      cases hroles
      exact ⟨hgranted, rfl⟩
    rw [run_adds_free hstore hlacks hfree]
    exact .stored hfree hplain rfl
  · obtain ⟨error, after, hrun, hstores, hdisk⟩ := run_adds_held hstore hlacks hfree
    rw [hrun]
    exact .refused hstores hdisk

/-- A registration is a visit, or changes nothing. -/
theorem register_sat (hstore : state.stores.users = .memory table)
    (hunknown : table.knownAs? principal.identity = none) (adminGroup : Option String)
    (granted : List Role) (superAdmin : Bool) :
    (register principal granted superAdmin).Sat state fun _ => state.UsersBecome fun after =>
      after = table ∨ Visit adminGroup principal table after := by
  refine (register_cases hstore principal granted superAdmin).mono fun hregistered => ?_
  cases hregistered with
  | refused hstores hdisk => exact ⟨table, ⟨by rw [hstores, ← hstore], hdisk⟩, .inl rfl⟩
  | stored hfree hroles huser =>
    subst huser
    exact ⟨_, ⟨rfl, rfl⟩, .inr (.registered hunknown hfree rfl)⟩

end Registering

/-- **A login promotes its user or registers it, or changes nothing.** -/
theorem provision_sat (adminGroup : Option String) (principal : Principal)
    (hstore : state.stores.users = .memory table) :
    (Login.provision adminGroup principal).Sat state fun _ => state.UsersBecome fun after =>
      after = table ∨ Visit adminGroup principal table after := by
  unfold Login.provision
  refine .then_reading ?_ fun user => .bind (.ofExcept _) fun _ => .pure _
  simp only [Script.sat_orFail]
  unfold Login.userOf
  refine .after_reading (find?_readOnly _ _ _) (fun found hfound => ?_)
    fun _ _ => ⟨table, .refl hstore, .inl rfl⟩
  have hknown := find?_knownAs hstore hfound
  -- a user that is known may be promoted, any other one is registered
  cases found with
  | some user => exact promote_sat hstore hknown
  | none =>
    show (Login.createUser adminGroup principal).Sat _ _
    rw [login_createUser_eq]
    refine .after_reading (Roles.ofPrincipal_readOnly _) (fun granted _ => ?_)
      fun _ _ => ⟨table, .refl hstore, .inl rfl⟩
    exact .after_reading (firstFlag_readOnly _ _)
      (fun superAdmin _ => register_sat hstore hknown adminGroup granted superAdmin)
      fun _ _ => ⟨table, .refl hstore, .inl rfl⟩

end Services

end TenantConsole
