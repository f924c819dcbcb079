import TenantConsole.Service.Roles
import TenantConsole.Proofs.Calls

/-!
# What a caller gets past the role guard

The guard is a sequence of checks, and each has a consequence of its own for a submission that
passes:

* **the organizations**: every request names one, and no two the same
  (`checkOrganizations_eq_ok_iff`);
* **the flag**: it is the one that the target has, unless a super admin asks, and a super admin does
  not take its own away (`checkFlag_eq_ok_iff`);
* **the roles**: where there is any, a caller that is no super admin is an admin of the organization
  it acts in, and assigns no role elsewhere (`checkAuthority_eq_ok_iff`). An empty list passes
  unseen; what it does is for the stores to refuse.

Looking up the organizations of the submitted roles comes after the guard and adds none to an empty
list, so a submission that ends with a role has passed as one with a role
(`check_of_validate`).
-/

namespace TenantConsole

namespace RoleGuard

variable {caller : Context} {target : Option User} {requests : List RoleRequest}
  {superAdmin : Bool} {roles : List Role}

/-- The flag that a submission starts from: a user that is not stored yet has none. -/
def currentFlag (target : Option User) : Bool :=
  match target with
  | some user => user.superAdmin
  | none => false

/-! ## The checks -/

/-- Passing the guard is passing the four checks, with the roles that the requests name. -/
theorem check_eq_ok_iff : check caller target requests superAdmin = .ok roles
    ↔ checkOrganizations [] requests = .ok () ∧ named requests = .ok roles
      ∧ checkFlag caller target superAdmin = .ok () ∧ checkAuthority caller roles = .ok () := by
  unfold check
  simp only [bind_eq_ok]
  constructor
  · rintro ⟨_, horganizations, found, hnamed, _, hflag, _, hauthority, h⟩
    cases h
    exact ⟨horganizations, hnamed, hflag, hauthority⟩
  · rintro ⟨horganizations, hnamed, hflag, hauthority⟩
    exact ⟨(), horganizations, roles, hnamed, (), hflag, (), hauthority, rfl⟩

/-- Every request names an organization, and no two the same one. -/
theorem checkOrganizations_eq_ok_iff {seen : List String} :
    checkOrganizations seen requests = .ok ()
      ↔ (∀ request ∈ requests, request.organization ≠ "" ∧ request.organization ∉ seen)
        ∧ (requests.map RoleRequest.organization).Nodup := by
  -- request by request, with the organizations that have been named so far
  induction requests generalizing seen with
  | nil => simp [checkOrganizations]
  | cons first rest ih =>
    unfold checkOrganizations
    by_cases hnamed : first.organization = ""
    · simp [hnamed]
    by_cases hseen : first.organization ∈ seen
    · simp [hnamed, hseen]
    -- the organization counts as seen for the requests that follow
    rw [if_neg hnamed, if_neg hseen, ih, List.forall_mem_cons, List.map_cons, List.nodup_cons]
    simp only [List.mem_cons, not_or]
    constructor
    · rintro ⟨hrest, honce⟩
      refine ⟨⟨⟨hnamed, hseen⟩, fun request h => ⟨(hrest request h).1, (hrest request h).2.2⟩⟩,
        fun hmem => ?_, honce⟩
      obtain ⟨request, hrequest, hsame⟩ := List.mem_map.1 hmem
      exact (hrest request hrequest).2.1 hsame
    · rintro ⟨⟨-, hrest⟩, hfirst, honce⟩
      refine ⟨fun request h => ⟨(hrest request h).1, fun hsame => ?_, (hrest request h).2⟩, honce⟩
      exact hfirst (hsame ▸ List.mem_map_of_mem h)

/-- Requests can be named if each of their names is that of a role. -/
theorem named_cons_eq_ok_iff {request : RoleRequest} :
    named (request :: requests) = .ok roles
      ↔ ∃ name others, name.text = request.name ∧ named requests = .ok others
        ∧ roles = ⟨request.organization, name⟩ :: others := by
  rw [named]
  simp only [← RoleName.ofText?_eq_some_iff]
  cases RoleName.ofText? request.name with
  | none => exact iff_of_false nofun (by simp)
  | some name =>
    cases named requests with
    | error error => exact iff_of_false nofun (by simp)
    | ok others => simp [Except.map, eq_comm]

/-- The roles that are named belong to the organizations that are asked for. -/
theorem organizations_of_named (h : named requests = .ok roles) :
    roles.map Role.organization = requests.map RoleRequest.organization := by
  induction requests generalizing roles with
  | nil =>
    cases h
    rfl
  | cons request rest ih =>
    obtain ⟨name, others, -, hrest, rfl⟩ := named_cons_eq_ok_iff.1 h
    rw [List.map_cons, List.map_cons, ih hrest]

/-- **A flag that changes is changed by a super admin, and not to its own loss.** -/
theorem checkFlag_eq_ok_iff : checkFlag caller target superAdmin = .ok ()
    ↔ superAdmin = currentFlag target
      ∨ caller.isSuperAdmin = true ∧ (superAdmin = true ∨ isSelf caller target = false) := by
  have hcheck : checkFlag caller target superAdmin
      = if superAdmin == currentFlag target then .ok ()
        else if !caller.isSuperAdmin then
          .error (.unauthorized "only super admins may change super admin status")
        else if isSelf caller target && !superAdmin then .error .selfDemotion
        else .ok () := rfl
  rw [hcheck]
  by_cases hsame : superAdmin = currentFlag target
  · simp [hsame]
  rw [if_neg (by simpa using hsame), or_iff_right hsame]
  cases caller.isSuperAdmin <;> cases superAdmin <;> cases isSelf caller target <;> simp

/-- Whether the target is the caller is a matter of ids. -/
theorem isSelf_iff {them : User} :
    isSelf caller (some them) = true ↔ ∃ me, caller.user = some me ∧ me.id = them.id := by
  unfold isSelf
  cases caller.user <;> simp

/-- Who is an admin in an organization has the role of one there. -/
theorem isAdminIn_iff {organization : String} :
    isAdminIn caller organization = true
      ↔ ∃ user, caller.user = some user
        ∧ user.roleIn? organization = some ⟨organization, .admin⟩ := by
  unfold isAdminIn
  cases caller.user with
  | none => simp
  | some user =>
    simp only [Option.bind_some, Option.some.injEq, exists_eq_left']
    cases hrole : user.roleIn? organization with
    | none => simp
    | some role =>
      obtain ⟨held, name⟩ := role
      have horganization : held = organization := by simpa using List.find?_some hrole
      simp [horganization]

/-- Roles are assigned freely by those who reach every organization, and by the admins of one within
it. -/
theorem checkAuthority_eq_ok_iff : checkAuthority caller roles = .ok ()
    ↔ caller.isServerCall = true ∨ caller.isSuperAdmin = true ∨ roles = []
      ∨ (∀ role ∈ roles, role.organization = caller.organization.getD "")
        ∧ isAdminIn caller (caller.organization.getD "") = true := by
  unfold checkAuthority
  by_cases hfree : caller.isServerCall = true ∨ caller.isSuperAdmin = true ∨ roles = []
  · rw [if_pos hfree]
    exact iff_of_true rfl (by simpa only [or_assoc] using Or.inl hfree)
  rw [if_neg hfree]
  simp only [not_or] at hfree
  obtain ⟨hserver, hadmin, hroles⟩ := hfree
  rw [or_iff_right hserver, or_iff_right hadmin, or_iff_right hroles]
  -- a role outside the caller's organization is refused before it is asked whether the caller is an
  -- admin
  cases hfind : roles.find? fun role => role.organization ≠ caller.organization.getD "" with
  | some foreign =>
    have hforeign : foreign.organization ≠ caller.organization.getD "" := by
      simpa using List.find?_some hfind
    simp only [hfind]
    exact iff_of_false nofun fun h => hforeign (h.1 foreign (List.mem_of_find?_eq_some hfind))
  | none =>
    have hhome : ∀ role ∈ roles, role.organization = caller.organization.getD "" := by
      simpa using hfind
    simp only [hfind]
    rw [and_iff_right hhome]
    cases isAdminIn caller (caller.organization.getD "") <;> simp

/-- **Whoever assigns a role without being a super admin is an admin where it acts.** -/
theorem admin_of_checkAuthority {organization : String}
    (hserver : caller.isServerCall = false) (hordinary : caller.isSuperAdmin = false)
    (hacting : caller.organization = some organization) (hroles : roles ≠ [])
    (h : checkAuthority caller roles = .ok ()) : isAdminIn caller organization = true := by
  rw [checkAuthority_eq_ok_iff, hserver, hordinary, hacting] at h
  simp only [Bool.false_eq_true, false_or, hroles, Option.getD_some] at h
  exact h.2

/-- **Without reaching every organization, a caller assigns roles where it acts, or none.** Acting
nowhere is acting in an organization without a name, and no request may name that one. -/
theorem acting_of_check (hserver : caller.isServerCall = false)
    (hordinary : caller.isSuperAdmin = false)
    (h : check caller target requests superAdmin = .ok roles) {role : Role} (hrole : role ∈ roles) :
    caller.organization = some role.organization := by
  obtain ⟨horganizations, hnamed, -, hauthority⟩ := check_eq_ok_iff.1 h
  have hasked : role.organization ∈ requests.map RoleRequest.organization := by
    rw [← organizations_of_named hnamed]
    exact List.mem_map_of_mem hrole
  obtain ⟨request, hrequest, hsame⟩ := List.mem_map.1 hasked
  have hpresent : role.organization ≠ "" :=
    hsame ▸ ((checkOrganizations_eq_ok_iff.1 horganizations).1 request hrequest).1
  rw [checkAuthority_eq_ok_iff, hserver, hordinary] at hauthority
  simp only [Bool.false_eq_true, false_or, List.ne_nil_of_mem hrole] at hauthority
  have hhome := hauthority.1 role hrole
  cases hacting : caller.organization with
  | none => exact absurd (by rw [hhome, hacting]; rfl) hpresent
  | some home => rw [hhome, hacting]; rfl

end RoleGuard

/-! ## Looking the organizations up -/

namespace Roles

open Collection

/-- Looking up the organizations of roles writes nothing. -/
theorem resolve_readOnly (roles : List Role) : (resolve roles).ReadOnly := by
  induction roles with
  | nil => exact .pure _
  | cons role rest ih =>
    refine .bind (get?_readOnly _ _ _).orFail fun found => ?_
    cases found with
    | none => exact .fail _
    | some organization => exact .bind ih fun _ => .pure _

theorem validate_readOnly (caller : Context) (target : Option User) (requests : List RoleRequest)
    (superAdmin : Bool) : (validate caller target requests superAdmin).ReadOnly :=
  .bind (.ofExcept _) fun _ => resolve_readOnly _

theorem granted_readOnly (principal : Principal) (seen : List String) (mappings : List Mapping) :
    (granted principal seen mappings).ReadOnly := by
  -- a mapping that does not match, or leads to an organization that was seen, is passed over
  induction mappings generalizing seen with
  | nil => exact .pure _
  | cons mapping rest ih =>
    unfold granted
    split
    · exact ih seen
    · refine .bind (get?_readOnly _ _ _) fun found => ?_
      cases found with
      | none => exact ih seen
      | some organization => exact .bind (ih _) fun _ => .pure _

theorem ofPrincipal_readOnly (principal : Principal) : (ofPrincipal principal).ReadOnly :=
  .bind (all_readOnly _ _) fun _ => granted_readOnly _ _ _

/-- What ends with a role has passed the guard with a role. -/
theorem check_of_validate {caller : Context} {target : Option User} {requests : List RoleRequest}
    {superAdmin : Bool} {roles : List Role} {state : State}
    (h : ((validate caller target requests superAdmin).run state).1 = .ok roles) :
    ∃ named, RoleGuard.check caller target requests superAdmin = .ok named
      ∧ (roles ≠ [] → named ≠ []) := by
  unfold validate at h
  cases hcheck : RoleGuard.check caller target requests superAdmin with
  | error error => rw [hcheck] at h; cases h
  | ok named =>
    refine ⟨named, rfl, fun hroles hnamed => hroles ?_⟩
    -- nothing named is nothing looked up
    subst hnamed
    rw [hcheck] at h
    cases h
    rfl

end Roles

end TenantConsole
