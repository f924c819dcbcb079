import TenantConsole.Proofs.FirstLogins
import TenantConsole.Proofs.Sweeps

/-!
# Logins that are refused

A login comes to its user first and asks for a context after that, and a user that has been stored
on the way is not taken back. So a login can be refused and leave a user behind. It finds its user,
promotes it or registers it. Only a user without the flag is refused an organization
(`contextFor_eq_error_iff`), so after a promotion nothing is refused; and a newcomer without the
flag has the roles that the mappings grant it (`register_cases`). What is left is one case,
`Login.AdmittedElsewhere`: nobody stands for the principal yet, and the mappings admit it, but not
to the organization that it asks for.

`refused_logins_settled` says that this case stores the newcomer and refuses it, and that every
other login that is refused changes nothing.
-/

namespace TenantConsole

open Collection

namespace Login

/-- How a user is refused an organization. -/
def notMember (name organization : String) : ServiceError :=
  .forbidden s!"user '{name}' is not a member of organization '{organization}'"

/-- Who may act nowhere but where it has a role is refused all other organizations. -/
theorem contextFor_eq_error_iff {user : User} {requested : String} {error : ServiceError} :
    contextFor user (some requested) = .error error
      ↔ requested ≠ "" ∧ user.superAdmin = false ∧ user.hasRoleIn requested = false
        ∧ error = notMember user.name requested := by
  -- who asks for no organization, or for the empty id, acts at home and is not refused
  by_cases hrequested : requested = ""
  · subst hrequested
    exact iff_of_false nofun fun h => h.1 rfl
  have hfilter : (some requested).filter (· ≠ "") = some requested := by simp [hrequested]
  unfold contextFor
  rw [hfilter]
  -- an organization is given to super admins and to its members
  by_cases hallowed : user.superAdmin = true ∨ user.hasRoleIn requested = true
  · simp only [if_pos hallowed]
    refine iff_of_false nofun fun ⟨_, hplain, houtside, _⟩ => ?_
    simp [hplain, houtside] at hallowed
  · simp only [if_neg hallowed]
    obtain ⟨hplain, houtside⟩ := not_or.1 hallowed
    constructor
    · rintro ⟨⟩
      exact ⟨hrequested, by simpa using hplain, by simpa using houtside, rfl⟩
    · rintro ⟨-, -, -, rfl⟩
      rfl

/-- The mappings admit a principal that nobody stands for, and nothing makes it a super admin; but
they do not admit it to the organization that it asks for. -/
structure AdmittedElsewhere (adminGroup : Option String) (principal : Principal)
    (tables : PrimaryTables) (state : State) : Prop where
  unknown : tables.users.knownAs? principal.identity = none
  ordinary : ¬ Elevated adminGroup tables.config principal
  admitted : principal.entitlements state.organization? tables.mappings.rows ≠ []
  requested : principal.organization ≠ ""
  elsewhere : ∀ role ∈ principal.entitlements state.organization? tables.mappings.rows,
    role.organization ≠ principal.organization
  free : tables.users.get? state.world.nextId = none

end Login

theorem map_eq_error_iff {ε α β : Type} {result : Except ε α} {f : α → β} {error : ε} :
    result.map f = .error error ↔ result = .error error := by
  cases result <;> simp [Except.map]

section Refusals

variable {adminGroup : Option String} {principal : Principal} {state : State}
  {tables : PrimaryTables} {listing : List Organization}

/-- **Who is admitted elsewhere is stored and refused.** -/
theorem provision_elsewhere (hfinds : state.FindsAmong listing)
    (husers : state.stores.users = .memory tables.users)
    (hmappings : state.stores.mappings = .memory tables.mappings)
    (hconfig : state.stores.config = .memory tables.config)
    (h : Login.AdmittedElsewhere adminGroup principal tables state) :
    let user := Login.newcomer principal false
      (principal.entitlements state.organization? tables.mappings.rows) state.world.nextId
    (Login.provision adminGroup principal).run state
      = (.error (Login.notMember principal.subject principal.organization),
        ⟨{ state.stores with users := .memory (tables.users.insert user) },
          { state.world with drawn := state.world.drawn + 1 }⟩) := by
  intro user
  obtain ⟨flag, hflag, hrun⟩ := run_userOf_unknown state adminGroup hfinds husers hmappings hconfig
    h.unknown
  obtain rfl : flag = false := by simpa using mt hflag.1 h.ordinary
  -- the roles that are stored are those that are granted, and none is where the user asks to be
  have hroles := congrArg (·.run state) (firstRoles_of_granted h.admitted)
  have houtside : user.hasRoleIn principal.organization = false :=
    User.hasRoleIn_eq_false_iff.2 h.elsewhere
  have hrefused := Login.contextFor_eq_error_iff.2 ⟨h.requested, rfl, houtside, rfl⟩
  rw [run_provision, hrun, run_register_roles state husers h.free hroles (.inl h.admitted)]
  exact Prod.ext (map_eq_error_iff.2 hrefused) rfl

/-- **A login that fails in any other case has written nothing.** -/
theorem provision_unchanged (hfinds : state.FindsAmong listing)
    (husers : state.stores.users = .memory tables.users)
    (hmappings : state.stores.mappings = .memory tables.mappings)
    (hconfig : state.stores.config = .memory tables.config)
    (h : ¬ Login.AdmittedElsewhere adminGroup principal tables state) :
    (Login.provision adminGroup principal).Sat state fun answer after =>
      (∃ error, answer = .error error) →
        after.stores = state.stores ∧ after.world.disk = state.world.disk := by
  unfold Script.Sat
  rw [run_provision]
  -- a known user is at most promoted, an unknown one is turned away or stored
  cases hknown : tables.users.knownAs? principal.identity with
  | some known =>
    rw [run_userOf_known husers hknown, run_promote husers hknown]
    by_cases hpromotes : ¬ known.superAdmin = true ∧ principal.isSuperAdmin adminGroup = true
    · -- who has been promoted may act anywhere
      rw [if_pos hpromotes]
      rintro ⟨error, herror⟩
      obtain ⟨-, hplain, -⟩ := Login.contextFor_eq_error_iff.1 (map_eq_error_iff.1 herror)
      cases hplain
    · rw [if_neg hpromotes]
      exact fun _ => ⟨rfl, rfl⟩
  | none =>
    obtain ⟨flag, hflag, hrun⟩ := run_userOf_unknown state adminGroup hfinds husers hmappings
      hconfig hknown
    let granted := principal.entitlements state.organization? tables.mappings.rows
    rw [hrun]
    rcases hregister : (register principal granted flag).run state with ⟨answer, after⟩
    cases (register_cases husers principal granted flag).of_run hregister with
    | refused hstores hdisk => exact fun _ => ⟨hstores, hdisk⟩
    | stored hfree hroles huser =>
      -- all that can still be refused is the organization, to who has no flag
      subst huser
      rintro ⟨error, herror⟩
      obtain ⟨hrequested, hplain, houtside, -⟩ :=
        Login.contextFor_eq_error_iff.1 (map_eq_error_iff.1 herror)
      obtain ⟨hadmitted, rfl⟩ := hroles hplain
      refine absurd ?_ h
      exact {
        unknown := hknown
        ordinary := fun helevated => by cases hplain.symm.trans (hflag.2 helevated)
        admitted := hadmitted
        requested := hrequested
        elsewhere := User.hasRoleIn_eq_false_iff.1 houtside
        free := hfree }

end Refusals

/-- **Which refused logins leave a user behind.** In the console's stores over tables, with any
files beside them, take a principal that no stored user stands for and that nothing makes a super
admin. If the mappings admit it, but not to the organization that it asks for, and the next id is
free, then its user is stored with the roles that they grant, and the login is refused. Every other
login that fails leaves all stores and files as they were. -/
theorem refused_logins_settled {settings : CatalogSettings} {tables : PrimaryTables}
    {stores : Stores} (hassembled : Stores.assemble settings tables.stores = .ok stores)
    (world : World) (adminGroup : Option String) (principal : Principal) :
    (Login.AdmittedElsewhere adminGroup principal tables ⟨stores, world⟩ →
      (Login.provision adminGroup principal).run ⟨stores, world⟩
        = (.error (Login.notMember principal.subject principal.organization),
          ⟨{ stores with users := .memory (tables.users.insert (Login.newcomer principal false
              (principal.entitlements (State.organization? ⟨stores, world⟩) tables.mappings.rows)
              world.nextId)) },
            { world with drawn := world.drawn + 1 }⟩))
    ∧ (¬ Login.AdmittedElsewhere adminGroup principal tables ⟨stores, world⟩ →
      (Login.provision adminGroup principal).Sat ⟨stores, world⟩ fun answer after =>
        (∃ error, answer = .error error) →
          after.stores = stores ∧ after.world.disk = world.disk) := by
  obtain ⟨flagSources, flagServers, rfl, -⟩ := assemble_over hassembled
  have hfinds := (organizations_outOf settings flagSources flagServers tables world.disk).get
  let state : State := ⟨.layeredOver settings flagSources flagServers tables.stores, world⟩
  have hfinds : state.FindsAmong _ := hfinds
  exact ⟨provision_elsewhere hfinds rfl rfl rfl, provision_unchanged hfinds rfl rfl rfl⟩

namespace Office

/-- An engineer that asks to act abroad. -/
def traveller : Principal := { engineer with organization := "p" }

theorem admitted_traveller : Login.AdmittedElsewhere none traveller tables console where
  unknown := rfl
  ordinary := by rintro (⟨-, group, hgroup, -⟩ | ⟨stored, hstored, -⟩) <;> contradiction
  admitted := by decide
  requested := by decide
  elsewhere := by decide
  free := rfl

end Office

/-- The engineer is turned away, and is a user from then on. -/
theorem refused_logins_settled_office :
    Stores.assemble {} Office.tables.stores = .ok Office.console.stores
      ∧ Login.AdmittedElsewhere none Office.traveller Office.tables Office.console
      ∧ ∃ after, (Login.provision none Office.traveller).run Office.console
          = (.error (.forbidden "user 'a' is not a member of organization 'p'"), after)
        ∧ after.stores.users = .memory (Office.tables.users.insert
          (Login.newcomer Office.traveller false [⟨"o", .viewer⟩] "1")) := by
  have hassembled : Stores.assemble {} Office.tables.stores = .ok Office.console.stores := rfl
  have hrun := (refused_logins_settled hassembled Office.console.world none Office.traveller).1
    Office.admitted_traveller
  exact ⟨hassembled, Office.admitted_traveller, _, hrun, rfl⟩

/-- **A refused login can store a user.** No user is there before the login, which is refused, and
one is there after it. -/
theorem refused_login_stores_user :
    Stores.assemble {} Office.tables.stores = .ok Office.console.stores
      ∧ ∃ after, (Login.provision none Office.traveller).run Office.console
          = (.error (.forbidden "user 'a' is not a member of organization 'p'"), after)
        ∧ (Office.console.stores.users.readings []).all = .ok []
        ∧ (after.stores.users.readings []).all
          = .ok [Login.newcomer Office.traveller false [⟨"o", .viewer⟩] "1"] :=
  ⟨rfl, _, rfl, rfl, rfl⟩

end TenantConsole
