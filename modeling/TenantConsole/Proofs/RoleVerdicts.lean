import Mathlib.Data.List.Forall2
import TenantConsole.Proofs.Submissions

/-!
# Verdicts of the role guard

The guard refuses at the first check that fails, and the checks come in a fixed order. What it
accepts in the end has no order in it: `RoleGuard.Legitimate` lists what a submission has to be, one
condition beside the other, and `RoleGuard.Answers` says what becomes of each request.

* **`submissions_judged`**: a submission is accepted exactly if it is legitimate, with one
  role for each request. An organization that comes twice is reported before anything else, unless
  a request names none.
* **`judged_at_home`**: the verdict on a caller that assigns roles in its own organization only
  does not depend on the other organizations. They are looked up after the checks, and by then every
  role is one at home.
-/

namespace TenantConsole

open Collection

/-- Each of a list is related to something exactly if the whole list is, item by item. -/
theorem exists_forall₂_iff {α β : Type} {related : α → β → Prop} {items : List α} :
    (∃ others, List.Forall₂ related items others)
      ↔ ∀ item ∈ items, ∃ other, related item other := by
  -- item by item
  induction items with
  | nil => exact iff_of_true ⟨[], .nil⟩ nofun
  | cons first rest ih =>
    rw [List.forall_mem_cons, ← ih]
    constructor
    · rintro ⟨_, hrelated⟩
      cases hrelated with
      | cons hfirst hrest => exact ⟨⟨_, hfirst⟩, ⟨_, hrest⟩⟩
    · rintro ⟨⟨other, hfirst⟩, ⟨others, hrest⟩⟩
      exact ⟨other :: others, .cons hfirst hrest⟩

namespace RoleGuard

/-! ## What is legitimate -/

/-- What a submission has to be, where these organizations exist. -/
structure Legitimate (organizations : Table Organization) (caller : Context) (target : Option User)
    (requests : List RoleRequest) (superAdmin : Bool) : Prop where
  named : ∀ request ∈ requests, request.organization ≠ ""
  once : (requests.map RoleRequest.organization).Nodup
  known : ∀ request ∈ requests, ∃ name : RoleName, name.text = request.name
  /-- The flag stays, or a super admin changes it and does not take its own away. -/
  flag : superAdmin = currentFlag target
    ∨ caller.isSuperAdmin = true
      ∧ ¬ ∃ me them, caller.user = some me ∧ target = some them ∧ me.id = them.id
        ∧ them.superAdmin = true ∧ superAdmin = false
  /-- Roles are assigned by those who reach every organization, or by an admin where it acts. -/
  authority : caller.isServerCall = true ∨ caller.isSuperAdmin = true ∨ requests = []
    ∨ ∃ organization, caller.organization = some organization
      ∧ (∀ request ∈ requests, request.organization = organization)
      ∧ ∃ user, caller.user = some user ∧ user.roleIn? organization = some ⟨organization, .admin⟩
  exist : ∀ request ∈ requests, (organizations.get? request.organization).isSome

/-- The role that a request ends as: the one that it names, or the default role of the organization
for the wildcard. -/
structure Answers (organizations : Table Organization) (request : RoleRequest) (role : Role) :
    Prop where
  organization : role.organization = request.organization
  name : ∃ name organization, name.text = request.name
    ∧ organizations.get? request.organization = some organization
    ∧ role.name = if name = .wildcard then organization.defaultRole else name

/-- What is legitimate can be answered. -/
theorem Legitimate.answered {organizations : Table Organization} {caller : Context}
    {target : Option User} {requests : List RoleRequest} {superAdmin : Bool}
    (h : Legitimate organizations caller target requests superAdmin) :
    ∃ roles, List.Forall₂ (Answers organizations) requests roles := by
  refine exists_forall₂_iff.2 fun request hrequest => ?_
  obtain ⟨name, hname⟩ := h.known request hrequest
  obtain ⟨organization, hfound⟩ := Option.isSome_iff_exists.1 (h.exist request hrequest)
  exact ⟨⟨request.organization, if name = .wildcard then organization.defaultRole else name⟩, rfl,
    name, organization, hname, hfound, rfl⟩

section Checks

variable {caller : Context} {target : Option User} {requests : List RoleRequest}
  {superAdmin : Bool} {roles : List Role}

/-- **An organization that comes twice is reported**, the first one that does, as long as every
request names one. -/
theorem checkOrganizations_repeated {seen : List String}
    (hnamed : ∀ request ∈ requests, request.organization ≠ "")
    (hrepeated : checkOrganizations seen requests ≠ .ok ()) :
    ∃ before request after, requests = before ++ request :: after
      ∧ (before.map RoleRequest.organization).Nodup
      ∧ (∀ earlier ∈ before, earlier.organization ∉ seen)
      ∧ (request.organization ∈ seen
        ∨ request.organization ∈ before.map RoleRequest.organization)
      ∧ checkOrganizations seen requests
        = .error (.duplicateOrganization request.organization) := by
  -- request by request, with the organizations that have been named so far
  induction requests generalizing seen with
  | nil => exact absurd rfl hrepeated
  | cons first rest ih =>
    obtain ⟨hfirst, hrest⟩ := List.forall_mem_cons.1 hnamed
    unfold checkOrganizations at hrepeated ⊢
    rw [if_neg hfirst] at hrepeated ⊢
    by_cases hseen : first.organization ∈ seen
    · rw [if_pos hseen]
      exact ⟨[], first, rest, rfl, .nil, List.forall_mem_nil _, .inl hseen, rfl⟩
    · rw [if_neg hseen] at hrepeated ⊢
      obtain ⟨before, request, after, rfl, honce, hbefore, hagain, hcheck⟩ := ih hrest hrepeated
      -- what has been seen besides is the organization of the first request
      simp only [List.mem_cons, not_or] at hbefore hagain
      refine ⟨first :: before, request, after, rfl, ?_, ?_, ?_, hcheck⟩
      · rw [List.map_cons, List.nodup_cons]
        refine ⟨fun hmem => ?_, honce⟩
        obtain ⟨earlier, hearlier, hsame⟩ := List.mem_map.1 hmem
        exact (hbefore earlier hearlier).1 hsame
      · exact List.forall_mem_cons.2 ⟨hseen, fun earlier h => (hbefore earlier h).2⟩
      · rw [List.map_cons, List.mem_cons]
        tauto

/-- The checks on the list itself. -/
theorem checkOrganizations_legitimate : checkOrganizations [] requests = .ok ()
    ↔ (∀ request ∈ requests, request.organization ≠ "")
      ∧ (requests.map RoleRequest.organization).Nodup := by
  simp [checkOrganizations_eq_ok_iff]

/-- The check of the flag, in terms of the two users that it compares. -/
theorem checkFlag_legitimate : checkFlag caller target superAdmin = .ok ()
    ↔ superAdmin = currentFlag target
      ∨ caller.isSuperAdmin = true
        ∧ ¬ ∃ me them, caller.user = some me ∧ target = some them ∧ me.id = them.id
          ∧ them.superAdmin = true ∧ superAdmin = false := by
  rw [checkFlag_eq_ok_iff]
  by_cases hsame : superAdmin = currentFlag target
  · simp [hsame]
  rw [or_iff_right hsame, or_iff_right hsame]
  refine and_congr_right fun _ => ?_
  cases superAdmin with
  | true => simp
  | false =>
    -- the flag is to be taken away, so there is a target that has it
    cases target with
    | none => exact absurd rfl hsame
    | some them =>
      have hflag : them.superAdmin = true := by simpa [currentFlag] using hsame
      rw [← Bool.not_eq_true, isSelf_iff]
      simp [hflag]

/-- The check of the authority, in terms of the requests instead of the roles that they name. -/
theorem checkAuthority_legitimate (hnamed : ∀ request ∈ requests, request.organization ≠ "")
    (hroles : roles.map Role.organization = requests.map RoleRequest.organization) :
    checkAuthority caller roles = .ok ()
      ↔ caller.isServerCall = true ∨ caller.isSuperAdmin = true ∨ requests = []
        ∨ ∃ organization, caller.organization = some organization
          ∧ (∀ request ∈ requests, request.organization = organization)
          ∧ ∃ user, caller.user = some user
            ∧ user.roleIn? organization = some ⟨organization, .admin⟩ := by
  have hnone : roles = [] ↔ requests = [] := by
    rw [← List.map_eq_nil_iff (f := Role.organization), hroles, List.map_eq_nil_iff]
  have hhome (home : String) : (∀ role ∈ roles, role.organization = home)
      ↔ ∀ request ∈ requests, request.organization = home := by
    rw [← List.forall_mem_map (f := Role.organization) (P := (· = home)), hroles,
      List.forall_mem_map]
  rw [checkAuthority_eq_ok_iff, hnone, hhome, isAdminIn_iff]
  refine or_congr_right (or_congr_right ?_)
  -- a request names an organization, so acting nowhere is not acting there
  cases requests with
  | nil => simp
  | cons first rest =>
    have hfirst : first.organization ≠ "" := hnamed first List.mem_cons_self
    cases caller.organization with
    | none => simp [hfirst]
    | some home => simp

end Checks

end RoleGuard

namespace Roles

/-! ## Looking the organizations up -/

section Lookups

variable {state state' : State} {table table' : Table Organization} {roles : List Role}
  {requests : List RoleRequest} {answer : List Role}

/-- One role is resolved after the other, until an organization is missing. -/
theorem run_resolve_cons_of_found {role : Role} {found : Option Organization}
    (hfound : (organizations.get? .server role.organization).run state = (.ok found, state))
    (rest : List Role) : ((resolve (role :: rest)).run state).1
      = found.elim (.error (.unknownOrganization role.organization)) fun organization =>
          ((resolve rest).run state).1.map (RoleGuard.resolved role organization :: ·) := by
  rw [resolve, Script.run_bind, Script.run_orFail, hfound]
  cases found with
  | none => rfl
  | some organization =>
    show ((resolve rest >>= fun roles =>
      pure (RoleGuard.resolved role organization :: roles)).run state).1 = _
    rw [Script.run_bind]
    rcases (resolve rest).run state with ⟨error | roles, after⟩
    · rfl
    · rfl

theorem resolve_cons_eq_ok_iff_of_found {role : Role} {found : Option Organization}
    (hfound : (organizations.get? .server role.organization).run state = (.ok found, state))
    {rest : List Role} : ((resolve (role :: rest)).run state).1 = .ok answer
      ↔ ∃ organization others, found = some organization
        ∧ ((resolve rest).run state).1 = .ok others
        ∧ answer = RoleGuard.resolved role organization :: others := by
  rw [run_resolve_cons_of_found hfound]
  cases found with
  | none => exact iff_of_false nofun (by simp)
  | some organization =>
    rw [Option.elim_some]
    cases ((resolve rest).run state).1 with
    | error error => exact iff_of_false nofun (by simp)
    | ok others => simp [Except.map, eq_comm]

/-- Over organizations in memory, a role is resolved by the row of its organization. -/
theorem run_resolve_cons (hstore : state.stores.organizations = .memory table) (role : Role)
    (rest : List Role) : ((resolve (role :: rest)).run state).1
      = match table.get? role.organization with
        | some organization =>
          ((resolve rest).run state).1.map (RoleGuard.resolved role organization :: ·)
        | none => .error (.unknownOrganization role.organization) := by
  rw [run_resolve_cons_of_found (run_get?_memory rfl hstore role.organization)]
  cases table.get? role.organization with
  | none => rfl
  | some organization => rfl

theorem resolve_cons_eq_ok_iff (hstore : state.stores.organizations = .memory table) {role : Role}
    {rest : List Role} : ((resolve (role :: rest)).run state).1 = .ok answer
      ↔ ∃ organization others, table.get? role.organization = some organization
        ∧ ((resolve rest).run state).1 = .ok others
        ∧ answer = RoleGuard.resolved role organization :: others :=
  resolve_cons_eq_ok_iff_of_found (run_get?_memory rfl hstore role.organization)

/-- **What is named and then resolved answers the requests.** -/
theorem answers_iff (hstore : state.stores.organizations = .memory table) :
    (∃ roles, RoleGuard.named requests = .ok roles ∧ ((resolve roles).run state).1 = .ok answer)
      ↔ List.Forall₂ (RoleGuard.Answers table) requests answer := by
  -- request by request: naming and resolving both go down the same list
  induction requests generalizing answer with
  | nil =>
    constructor
    · rintro ⟨roles, hnamed, hresolved⟩
      cases hnamed
      cases hresolved
      exact .nil
    · rintro ⟨⟩
      exact ⟨[], rfl, rfl⟩
  | cons request rest ih =>
    constructor
    · rintro ⟨roles, hnamed, hresolved⟩
      obtain ⟨name, others, hname, hothers, rfl⟩ := RoleGuard.named_cons_eq_ok_iff.1 hnamed
      obtain ⟨organization, answers, hfound, hrest, rfl⟩ :=
        (resolve_cons_eq_ok_iff hstore).1 hresolved
      have hid : organization.id = request.organization := Table.id_of_get?_eq_some hfound
      exact .cons ⟨hid, name, organization, hname, hfound, rfl⟩ (ih.1 ⟨others, hothers, hrest⟩)
    · intro hanswers
      cases hanswers with
      | @cons _ role _ roles hfirst hrest =>
        obtain ⟨horganization, name, organization, hname, hfound, hrole⟩ := hfirst
        obtain ⟨others, hothers, hresolved⟩ := ih.2 hrest
        have hid : organization.id = request.organization := Table.id_of_get?_eq_some hfound
        have hanswer : role = RoleGuard.resolved ⟨request.organization, name⟩ organization := by
          rw [RoleGuard.resolved, hid, ← horganization, ← hrole]
        exact ⟨_, RoleGuard.named_cons_eq_ok_iff.2 ⟨name, others, hname, hothers, rfl⟩,
          (resolve_cons_eq_ok_iff hstore).2
            ⟨organization, roles, hfound, hresolved, by rw [hanswer]⟩⟩

/-- Stores that agree on the organizations of the roles resolve them alike. -/
theorem resolve_alike (hstore : state.stores.organizations = .memory table)
    (hstore' : state'.stores.organizations = .memory table')
    (hagree : ∀ role ∈ roles, table.get? role.organization = table'.get? role.organization) :
    ((resolve roles).run state).1 = ((resolve roles).run state').1 := by
  induction roles with
  | nil => rfl
  | cons role rest ih =>
    obtain ⟨hfirst, hrest⟩ := List.forall_mem_cons.1 hagree
    rw [run_resolve_cons hstore, run_resolve_cons hstore', hfirst, ih hrest]

end Lookups

/-! ## The verdict -/

section Verdicts

variable {state state' : State} {table table' : Table Organization} {caller : Context}
  {target : Option User} {requests : List RoleRequest} {superAdmin : Bool} {roles : List Role}

/-- What the checks refuse is refused; what they let through is looked up. -/
theorem run_validate : (validate caller target requests superAdmin).run state
    = match RoleGuard.check caller target requests superAdmin with
      | .ok roles => (((resolve roles).run state).1, state)
      | .error error => (.error error, state) := by
  unfold validate
  cases RoleGuard.check caller target requests superAdmin with
  | error error => rfl
  | ok roles => exact Prod.ext rfl (resolve_readOnly roles state)

/-- **What is accepted is legitimate and answers the requests, and the other way round.** -/
theorem validate_eq_ok_iff (hstore : state.stores.organizations = .memory table) :
    ((validate caller target requests superAdmin).run state).1 = .ok roles
      ↔ RoleGuard.Legitimate table caller target requests superAdmin
        ∧ List.Forall₂ (RoleGuard.Answers table) requests roles := by
  have hvalidate : ((validate caller target requests superAdmin).run state).1 = .ok roles
      ↔ ∃ named, RoleGuard.check caller target requests superAdmin = .ok named
        ∧ ((resolve named).run state).1 = .ok roles := by
    rw [run_validate]
    cases RoleGuard.check caller target requests superAdmin <;> simp
  rw [hvalidate, ← answers_iff hstore]
  constructor
  · rintro ⟨named, hcheck, hresolved⟩
    obtain ⟨horganizations, hnamed, hflag, hauthority⟩ := RoleGuard.check_eq_ok_iff.1 hcheck
    obtain ⟨hpresent, honce⟩ := RoleGuard.checkOrganizations_legitimate.1 horganizations
    have hanswers := (answers_iff hstore).1 ⟨named, hnamed, hresolved⟩
    have hanswered := exists_forall₂_iff.1 ⟨roles, hanswers⟩
    refine ⟨⟨hpresent, honce, fun request hrequest => ?_,
      RoleGuard.checkFlag_legitimate.1 hflag,
      (RoleGuard.checkAuthority_legitimate hpresent (RoleGuard.organizations_of_named hnamed)).1
        hauthority, fun request hrequest => ?_⟩, named, hnamed, hresolved⟩
    · obtain ⟨role, -, name, organization, hname, -, -⟩ := hanswered request hrequest
      exact ⟨name, hname⟩
    · obtain ⟨role, -, name, organization, -, hfound, -⟩ := hanswered request hrequest
      rw [hfound]
      rfl
  · -- the other way round, each check passes by one of the conditions
    rintro ⟨hlegitimate, named, hnamed, hresolved⟩
    refine ⟨named, RoleGuard.check_eq_ok_iff.2 ⟨?_, hnamed, ?_, ?_⟩, hresolved⟩
    · exact RoleGuard.checkOrganizations_legitimate.2 ⟨hlegitimate.named, hlegitimate.once⟩
    · exact RoleGuard.checkFlag_legitimate.2 hlegitimate.flag
    · exact (RoleGuard.checkAuthority_legitimate hlegitimate.named
        (RoleGuard.organizations_of_named hnamed)).2 hlegitimate.authority

end Verdicts

end Roles

section Verdicts

variable {state state' : State} {table table' : Table Organization} {caller : Context}

/-- **Exactly the legitimate submissions are accepted.** With the organizations in a table, a
submission gets a verdict that changes nothing. It is accepted if and only if it is legitimate, and
then there is one role for each request, in their order. Where every request names an organization
and one comes again, the first that does is reported, whatever else is wrong. -/
theorem submissions_judged (hstore : state.stores.organizations = .memory table) (caller : Context)
    (target : Option User) (requests : List RoleRequest) (superAdmin : Bool) :
    ∃ verdict, (Roles.validate caller target requests superAdmin).run state = (verdict, state)
      ∧ ((∃ roles, verdict = .ok roles)
        ↔ RoleGuard.Legitimate table caller target requests superAdmin)
      ∧ (∀ roles, verdict = .ok roles → List.Forall₂ (RoleGuard.Answers table) requests roles)
      ∧ ((∀ request ∈ requests, request.organization ≠ "") →
        ¬ (requests.map RoleRequest.organization).Nodup →
        ∃ before request after, requests = before ++ request :: after
          ∧ (before.map RoleRequest.organization).Nodup
          ∧ request.organization ∈ before.map RoleRequest.organization
          ∧ verdict = .error (.duplicateOrganization request.organization)) := by
  refine ⟨_, Prod.ext rfl (Roles.validate_readOnly caller target requests superAdmin state), ?_, ?_,
    ?_⟩
  · constructor
    · rintro ⟨roles, haccepted⟩
      exact ((Roles.validate_eq_ok_iff hstore).1 haccepted).1
    · intro hlegitimate
      obtain ⟨roles, hanswers⟩ := hlegitimate.answered
      exact ⟨roles, (Roles.validate_eq_ok_iff hstore).2 ⟨hlegitimate, hanswers⟩⟩
  · exact fun roles haccepted => ((Roles.validate_eq_ok_iff hstore).1 haccepted).2
  · intro hnamed hrepeated
    have hrefused : RoleGuard.checkOrganizations [] requests ≠ .ok () := fun h =>
      hrepeated (RoleGuard.checkOrganizations_legitimate.1 h).2
    obtain ⟨before, request, after, hsplit, honce, -, hagain, hcheck⟩ :=
      RoleGuard.checkOrganizations_repeated hnamed hrefused
    refine ⟨before, request, after, hsplit, honce, hagain.resolve_left nofun, ?_⟩
    rw [Roles.run_validate, RoleGuard.check, hcheck]
    rfl

end Verdicts

namespace Office

def home : Organization := { id := "o", name := "O", defaultRole := .viewer }

def abroad : Organization := { id := "p", name := "P", defaultRole := .viewer }

/-- An admin at home. -/
def admin : Context :=
  .forUser { id := "u", name := "a", provider := "b", scheme := "c", roles := [⟨"o", .admin⟩] }
    (some "o")

/-- A console with these organizations and nothing else. -/
def state (organizations : List Organization) : State where
  stores :=
    { sources := .closed, servers := .closed, users := .closed, dashboards := .closed
      organizations := .memory (.ofList organizations)
      config := .closed, mappings := .closed, layouts := .closed, protoboards := .closed
      templates := .closed }
  world := { ids := fun _ => "" }

/-- An admin may ask for the default role at home. -/
theorem legitimate :
    RoleGuard.Legitimate (.ofList [home]) admin none [⟨"o", "*"⟩] false where
  named := by simp
  once := by simp
  known := by simpa using ⟨.wildcard, rfl⟩
  flag := .inl rfl
  authority := .inr (.inr (.inr ⟨"o", rfl, by simp, _, rfl, rfl⟩))
  exist request hrequest := List.mem_singleton.1 hrequest ▸ rfl

end Office

/-- An admin asks for the default role at home. -/
theorem submissions_judged_office :
    (Office.state [Office.home]).stores.organizations = .memory (.ofList [Office.home])
      ∧ ∃ role,
        (Roles.validate Office.admin none [⟨"o", "*"⟩] false).run (Office.state [Office.home])
          = (.ok [role], Office.state [Office.home])
        ∧ RoleGuard.Answers (.ofList [Office.home]) ⟨"o", "*"⟩ role := by
  have hstore : (Office.state [Office.home]).stores.organizations
      = .memory (.ofList [Office.home]) := rfl
  obtain ⟨verdict, hrun, haccepted, hanswers, -⟩ :=
    submissions_judged hstore Office.admin none [⟨"o", "*"⟩] false
  obtain ⟨roles, rfl⟩ := haccepted.2 Office.legitimate
  cases hanswers roles rfl with
  | cons hfirst hrest =>
    cases hrest
    exact ⟨hstore, _, hrun, hfirst⟩

section Verdicts

variable {state state' : State} {table table' : Table Organization} {caller : Context}

/-- **The verdict tells nothing about other organizations.** A caller that is neither the console
itself nor a super admin gets the same verdict, and the same refusal, over any two tables that agree
on the organization that it acts in. -/
theorem judged_at_home (hstore : state.stores.organizations = .memory table)
    (hstore' : state'.stores.organizations = .memory table')
    (hsession : caller.isServerCall = false) (hordinary : caller.isSuperAdmin = false)
    (hagree : ∀ home, caller.organization = some home → table.get? home = table'.get? home)
    (target : Option User) (requests : List RoleRequest) (superAdmin : Bool) :
    ∃ verdict, (Roles.validate caller target requests superAdmin).run state = (verdict, state)
      ∧ (Roles.validate caller target requests superAdmin).run state' = (verdict, state') := by
  rw [Roles.run_validate, Roles.run_validate]
  -- the guard looks at no table, so it refuses over both or over neither
  cases hcheck : RoleGuard.check caller target requests superAdmin with
  | error error => exact ⟨.error error, rfl, rfl⟩
  | ok roles =>
    have hhome : ∀ role ∈ roles, table.get? role.organization = table'.get? role.organization :=
      fun role hrole => hagree _ (RoleGuard.acting_of_check hsession hordinary hcheck hrole)
    exact ⟨_, rfl, Prod.ext (Roles.resolve_alike hstore hstore' hhome).symm rfl⟩

end Verdicts

/-- Whether there is an organization abroad makes no difference to who asks for a role there. -/
theorem judged_at_home_office :
    (Office.state [Office.home]).stores.organizations = .memory (.ofList [Office.home])
      ∧ (Office.state [Office.home, Office.abroad]).stores.organizations
        = .memory (.ofList [Office.home, Office.abroad])
      ∧ Office.admin.isServerCall = false ∧ Office.admin.isSuperAdmin = false
      ∧ ∃ verdict,
        (Roles.validate Office.admin none [⟨"p", "viewer"⟩] false).run (Office.state [Office.home])
            = (verdict, Office.state [Office.home])
          ∧ (Roles.validate Office.admin none [⟨"p", "viewer"⟩] false).run
              (Office.state [Office.home, Office.abroad])
            = (verdict, Office.state [Office.home, Office.abroad]) := by
  refine ⟨rfl, rfl, rfl, rfl, judged_at_home rfl rfl rfl rfl ?_ none [⟨"p", "viewer"⟩] false⟩
  rintro _ ⟨⟩
  rfl

end TenantConsole
