import TenantConsole.Proofs.MappedRoles
import TenantConsole.Proofs.OrganizationCatalog
import TenantConsole.Proofs.UserServices

/-!
# First logins

Who is not stored yet is stored at the first login, or turned away. Two things decide: the
entitlements of the principal are its roles, and `Login.Elevated` says whether it gets the flag.
With neither there is no login; with the flag alone there is a role in the default organization.

The state is at rest until the user is added, so each step of a login is one equation for its run:

* **`run_userOf_unknown`**: who is not known is registered with its entitlements and the flag that
  it is due. The mappings, the groups and the configuration have been read by then.
* **`run_register`** and **`run_register_refused`**: what is registered is stored under the next id,
  or nothing is.
* **`run_provision`**: the context comes after the user, so a login that is refused its context has
  stored its user all the same.

`first_login_settled` puts them together for the stores as they are assembled, with organizations in
a table and in files.
-/

namespace TenantConsole

open Collection

namespace Login

/-- Who becomes a super admin at the first login: a principal of the one issuer that reports the
configured group, unless that is blank, and everyone where the stored configuration says so. -/
def Elevated (adminGroup : Option String) (config : Table Config) (principal : Principal) : Prop :=
  principal.issuer = "auth0" ∧ (∃ group, adminGroup = some group
      ∧ Text.isAllBlank group = false ∧ principal.Reports group)
    ∨ ∃ stored, config.get? Config.soleId = some stored ∧ stored.superAdminNewUsers = true

end Login

section Runs

variable {state : State} {principal : Principal} {listing : List Organization}
  {home : Organization} {users : Table User} {config : Table Config} {mappings : Table Mapping}
  {flag : Bool}

/-- The flag is decided by the group first, then by the configuration. -/
theorem run_firstFlag (adminGroup : Option String) (principal : Principal)
    (hconfig : state.stores.config = .memory config) :
    ∃ flag, (firstFlag adminGroup principal).run state = (.ok flag, state)
      ∧ (flag = true ↔ Login.Elevated adminGroup config principal) := by
  have hstored : Login.superAdminNewUsers.run state
      = (.ok ((config.get? Config.soleId).any Config.superAdminNewUsers), state) := by
    unfold Login.superAdminNewUsers
    rw [Script.run_bind, run_get?_memory rfl hconfig]
    cases config.get? Config.soleId <;> rfl
  have hany : (config.get? Config.soleId).any Config.superAdminNewUsers = true
      ↔ ∃ stored, config.get? Config.soleId = some stored ∧ stored.superAdminNewUsers = true := by
    rw [Option.any_eq_true]
  refine ⟨principal.isSuperAdmin adminGroup
    || (config.get? Config.soleId).any Config.superAdminNewUsers, ?_, ?_⟩
  · unfold firstFlag
    -- for a member of the group the configuration is not read at all
    cases principal.isSuperAdmin adminGroup with
    | true => rfl
    | false => exact hstored
  · simp only [Bool.or_eq_true, Principal.isSuperAdmin_iff, Principal.inGroup_iff, hany]
    rfl

/-- Without an entitlement there is still the default organization. -/
theorem run_firstRoles
    (hhome : state.stores.organizations.defaultOrganization state.world.disk = .ok home)
    (granted : List Role) : (firstRoles granted).run state
      = (.ok (if granted = [] then [home.startingRole] else granted), state) := by
  have hdefault : Login.defaultOrganization.run state = (.ok home, state) := by
    rw [← hhome]
    rfl
  unfold firstRoles
  split
  · rw [Script.run_bind, hdefault]
    rfl
  · rfl

/-- With neither an entitlement nor the flag nobody is stored. -/
theorem run_register_refused (principal : Principal) (state : State) :
    (register principal [] false).run state
      = (.error (.unauthorized s!"no organization mapping admits '{principal.subject}'"), state) :=
  rfl

/-- Otherwise the next id is drawn for a newcomer with the roles of a first login. -/
theorem run_register_roles (state : State) (husers : state.stores.users = .memory users)
    (hfree : users.get? state.world.nextId = none) {granted roles : List Role}
    (hroles : (firstRoles granted).run state = (.ok roles, state))
    (hadmitted : granted ≠ [] ∨ flag = true) :
    let user := Login.newcomer principal flag roles state.world.nextId
    (register principal granted flag).run state
      = (.ok user, ⟨{ state.stores with users := .memory (users.insert user) },
          { state.world with drawn := state.world.drawn + 1 }⟩) := by
  intro user
  -- a newcomer with a role or the flag is not turned away
  have hstored : ¬ (granted = [] ∧ ¬ flag = true) := fun h => hadmitted.elim (· h.1) h.2
  unfold register
  rw [if_neg hstored, Script.run_bind, hroles]
  exact run_add_fresh users_lawful .server rfl husers rfl hfree

theorem run_register (state : State)
    (hhome : state.stores.organizations.defaultOrganization state.world.disk = .ok home)
    (husers : state.stores.users = .memory users) (hfree : users.get? state.world.nextId = none)
    {granted : List Role} (hadmitted : granted ≠ [] ∨ flag = true) :
    let user := Login.newcomer principal flag
      (if granted = [] then [home.startingRole] else granted) state.world.nextId
    (register principal granted flag).run state
      = (.ok user, ⟨{ state.stores with users := .memory (users.insert user) },
          { state.world with drawn := state.world.drawn + 1 }⟩) :=
  run_register_roles state husers hfree (run_firstRoles hhome granted) hadmitted

/-- **A principal that is not known is registered** with its entitlements. -/
theorem run_userOf_unknown (state : State) (adminGroup : Option String)
    (hfinds : state.FindsAmong listing) (husers : state.stores.users = .memory users)
    (hmappings : state.stores.mappings = .memory mappings)
    (hconfig : state.stores.config = .memory config)
    (hunknown : users.knownAs? principal.identity = none) :
    ∃ flag, (flag = true ↔ Login.Elevated adminGroup config principal)
      ∧ (Login.userOf adminGroup principal).run state
        = (register principal (principal.entitlements state.organization? mappings.rows) flag).run
          state := by
  obtain ⟨flag, hrun, hflag⟩ := run_firstFlag adminGroup principal hconfig
  refine ⟨flag, hflag, ?_⟩
  unfold Login.userOf
  rw [Script.run_bind, run_find?_knownAs husers, hunknown]
  show (Login.createUser adminGroup principal).run state = _
  -- nothing has been written when the mappings and the flag are read, so the state is the first one
  rw [login_createUser_eq, Script.run_bind, run_ofPrincipal hfinds hmappings]
  show (firstFlag adminGroup principal >>= _).run state = _
  rw [Script.run_bind, hrun]

/-- Who has a user gets the context that it asks for, or is refused it. -/
theorem run_provision (adminGroup : Option String) (principal : Principal) (state : State) :
    (Login.provision adminGroup principal).run state
      = match (Login.userOf adminGroup principal).run state with
        | (.ok user, after) =>
          ((Login.contextFor user (some principal.organization)).map (user, ·), after)
        | (.error error, after) => (.error (.store error), after) := by
  unfold Login.provision
  rw [Script.run_bind, Script.run_orFail]
  -- an error of a store is handed on under the name that the services give it
  rcases (Login.userOf adminGroup principal).run state with ⟨error | user, after⟩
  · rfl
  · show (Script.ofExcept (Login.contextFor user _) >>= _).run after = _
    rw [Script.run_bind, Script.run_ofExcept]
    show _ = ((Login.contextFor user (some principal.organization)).map (user, ·), after)
    cases Login.contextFor user (some principal.organization) <;> rfl

end Runs

/-- **A first login is settled by the mappings and the flag.** In the console's stores over tables,
with the default organization found and the next id free, a principal that no stored user stands
for is turned away if it has neither entitlements nor the flag, and nothing changes. Else one user
is added, of its identity, with the flag it is due and its entitlements, or with the starting role
in the default organization where it has none; nothing else changes, and all that can still be
refused is the organization that it asks to act in. -/
theorem first_login_settled {settings : CatalogSettings} {tables : PrimaryTables} {stores : Stores}
    (hassembled : Stores.assemble settings tables.stores = .ok stores) (world : World)
    {home : Organization}
    (hhome : State.organization? ⟨stores, world⟩ Organization.defaultId = some home)
    (hfree : tables.users.get? world.nextId = none) (adminGroup : Option String)
    (principal : Principal)
    (hunknown : ∀ user ∈ tables.users.rows, user.identity ≠ principal.identity)
    {roles : List Role}
    (hroles : roles = principal.entitlements (State.organization? ⟨stores, world⟩)
      tables.mappings.rows) :
    (roles = [] ∧ ¬ Login.Elevated adminGroup tables.config principal →
      (Login.provision adminGroup principal).run ⟨stores, world⟩
        = (.error (.store (.unauthorized
            s!"no organization mapping admits '{principal.subject}'")), ⟨stores, world⟩))
    ∧ (roles ≠ [] ∨ Login.Elevated adminGroup tables.config principal → ∃ user users,
      user.identity = principal.identity
      ∧ (user.superAdmin = true ↔ Login.Elevated adminGroup tables.config principal)
      ∧ user.roles = (if roles = [] then [⟨home.id, home.defaultRole⟩] else roles)
      ∧ users.rows.Perm (user :: tables.users.rows)
      ∧ (Login.provision adminGroup principal).run ⟨stores, world⟩
        = ((Login.contextFor user (some principal.organization)).map (user, ·),
          ⟨{ stores with users := .memory users }, { world with drawn := world.drawn + 1 }⟩)
      ∧ (principal.organization = "" → ∃ context,
        ((Login.provision adminGroup principal).run ⟨stores, world⟩).1 = .ok (user, context))) := by
  obtain ⟨flagSources, flagServers, rfl, -⟩ := assemble_over hassembled
  have hfinds := (organizations_outOf settings flagSources flagServers tables world.disk).get
  have hnobody : tables.users.knownAs? principal.identity = none :=
    List.find?_eq_none.2 fun user huser => by simpa using hunknown user huser
  obtain ⟨flag, hflag, hrun⟩ := run_userOf_unknown
    ⟨.layeredOver settings flagSources flagServers tables.stores, world⟩ adminGroup hfinds rfl rfl
    rfl hnobody
  rw [run_provision, hrun, ← hroles, ← hflag]
  constructor
  · -- nothing is registered, so there is nobody to get a context for
    rintro ⟨rfl, hplain⟩
    obtain rfl : flag = false := by simpa using hplain
    rw [run_register_refused]
  · intro hadmitted
    rw [run_register _ (State.organization?_eq_some_iff.1 hhome) rfl hfree hadmitted]
    refine ⟨_, _, rfl, .rfl, rfl, Table.insert_perm hfree, rfl, fun hnowhere => ?_⟩
    -- who asks for no organization is refused none
    rw [hnowhere]
    exact ⟨_, rfl⟩

namespace Office

/-- The default organization and the office, with its mapping. -/
def tables : PrimaryTables :=
  { organizations := .ofList [.initial, home], mappings := .ofList [engineers] }

def console : State := ⟨.layeredOver {} [] [] tables.stores, { ids := fun _ => "1" }⟩

end Office

/-- An engineer logs in for the first time and is a member of the office from then on. -/
theorem first_login_settled_office :
    Stores.assemble {} Office.tables.stores = .ok Office.console.stores
      ∧ Office.console.organization? Organization.defaultId = some .initial
      ∧ Office.tables.users.get? Office.console.world.nextId = none
      ∧ (∀ user ∈ Office.tables.users.rows, user.identity ≠ Office.engineer.identity)
      ∧ [⟨"o", .viewer⟩] = Office.engineer.entitlements Office.console.organization?
          Office.tables.mappings.rows
      ∧ ∃ user users context, user.roles = [⟨"o", .viewer⟩] ∧ users.rows.Perm [user]
        ∧ (Login.provision (some "ops") Office.engineer).run Office.console
          = (.ok (user, context), ⟨{ Office.console.stores with users := .memory users },
              { Office.console.world with drawn := 1 }⟩) := by
  have hassembled : Stores.assemble {} Office.tables.stores = .ok Office.console.stores := rfl
  have hroles : [⟨"o", .viewer⟩] = Office.engineer.entitlements Office.console.organization?
      Office.tables.mappings.rows := rfl
  have hsettled := first_login_settled hassembled Office.console.world rfl rfl (some "ops")
    Office.engineer nofun hroles
  obtain ⟨user, users, -, -, hmember, hadded, hrun, hanswers⟩ := hsettled.2 (.inl (by simp))
  obtain ⟨context, hcontext⟩ := hanswers rfl
  have hafter := congrArg Prod.snd hrun
  exact ⟨hassembled, rfl, rfl, nofun, hroles, user, users, context, hmember, hadded,
    Prod.ext hcontext hafter⟩

end TenantConsole
