import TenantConsole.Proofs.RoleInvariants

/-!
# Services under an invariant that speaks of roles

The services along their text, each from what it looks up to what it stores:

* a submission comes out of the guard with good roles, since each is resolved against an
  organization that has been looked up (`resolve_upholds`);
* a login is granted one role for each organization, because an organization that has been granted
  is not granted again (`granted_upholds`), or starts with the role of the default organization.

What a request does to organizations and mappings is not the same for every invariant:
`CatalogCalls` is what one has to say about it. The rest of a request holds for all of them, whoever
it is from (`respond_keeps`).
-/

namespace TenantConsole

open Collection

section Services

variable {inv : State → Prop} {fits : List Role → Prop} {good : Role → Prop} {context : Context}
  (h : RoleInvariant inv fits good)

include h

/-! ## Submissions -/

/-- What a look-up of an organization finds has the id that was asked for, and its roles are good:
the default one, and each that a role can name. -/
theorem organizations_get?_upholds (id : String) :
    (organizations.get? .server id).Upholds inv fun found =>
      ∀ organization, found = some organization → organization.id = id
        ∧ good ⟨organization.id, organization.defaultRole⟩
        ∧ ∀ name, name ≠ .wildcard → good ⟨organization.id, name⟩ := by
  refine .of_reading (get?_readOnly _ _ _) fun state found hinv hfound => ?_
  rintro organization rfl
  exact h.found hinv (get?_eq_some hfound)

/-- A resolved role is a good one. -/
theorem resolve_upholds (roles : List Role) :
    (Roles.resolve roles).Upholds inv fun resolved => ∀ role ∈ resolved, good role := by
  induction roles with
  | nil => exact .pure nofun
  | cons role rest ih =>
    refine .bind (organizations_get?_upholds h role.organization).orFail fun found hfound => ?_
    cases found with
    | none => exact .fail
    | some organization =>
      obtain ⟨-, hdefault, hnamed⟩ := hfound organization rfl
      refine .bind ih fun resolved hresolved => .pure fun other hother => ?_
      rcases List.mem_cons.1 hother with rfl | hrest
      · -- a wildcard stands for the default role of the organization, every other name for itself
        unfold RoleGuard.resolved
        by_cases hwildcard : role.name = .wildcard
        · rw [if_pos hwildcard]
          exact hdefault
        · rw [if_neg hwildcard]
          exact hnamed role.name hwildcard
      · exact hresolved other hrest

/-- What passes the guard has been resolved, whatever the check before it says. -/
theorem validate_upholds (target : Option User) (requests : List RoleRequest)
    (superAdmin : Bool) :
    (Roles.validate context target requests superAdmin).Upholds inv
      fun resolved => ∀ role ∈ resolved, good role :=
  .bind (.ofExcept fun _ _ => trivial) fun roles _ => resolve_upholds h roles

/-- A created user is stored with roles that have passed the guard. -/
theorem create_upholds (hsession : context.isServerCall = false) (submission : UserSubmission) :
    (Users.create context submission).Upholds inv fun _ => True := by
  unfold Users.create
  split
  · exact .fail
  refine .bind (validate_upholds h _ _ _).orFail fun roles hroles => ?_
  -- whether the identity is taken is only read
  refine .after_reading (find?_readOnly _ _ _).orFail fun found => ?_
  cases found with
  | some existing => exact .fail
  | none => exact (session_add_upholds h hsession hroles).orFail

/-- A changed user is stored with roles that have passed the guard, and reading it again afterwards
changes nothing. -/
theorem update_upholds (hsession : context.isServerCall = false) (id : String)
    (patch : UserPatch) : (Users.update context id patch).Upholds inv fun _ => True := by
  unfold Users.update
  refine .after_reading (get_readOnly _ _ _).orFail fun current => ?_
  refine .bind (validate_upholds h _ _ _).orFail fun roles hroles => ?_
  refine .bind (session_update_upholds h hsession hroles).orFail fun _ _ => ?_
  exact .looks (get_readOnly _ _ _).orFail

/-! ## Logins -/

/-- **A login is granted one role for each organization**, and none for those it has seen. -/
theorem granted_upholds (principal : Principal) (seen : List String) (mappings : List Mapping) :
    (Roles.granted principal seen mappings).Upholds inv fun roles =>
      (roles.map Role.organization).Nodup
        ∧ ∀ role ∈ roles, good role ∧ role.organization ∉ seen := by
  induction mappings generalizing seen with
  | nil => exact .pure ⟨.nil, nofun⟩
  | cons mapping rest ih =>
    unfold Roles.granted
    split
    · exact ih seen
    -- the mapping applies, and its organization has no role yet
    rename_i happlies
    have hunseen : mapping.organization ∉ seen := fun h => happlies (.inl h)
    refine .bind (organizations_get?_upholds h mapping.organization) fun found hfound => ?_
    -- a mapping to an organization that is not there grants nothing
    cases found with
    | none => exact ih seen
    | some organization =>
      obtain ⟨hid, hdefault, -⟩ := hfound organization rfl
      refine .bind (ih (organization.id :: seen)) ?_
      rintro roles ⟨honce, hroles⟩
      refine .pure ⟨?_, ?_⟩
      · -- the organization counts as seen for the mappings that follow
        rw [List.map_cons, List.nodup_cons]
        refine ⟨fun hmem => ?_, honce⟩
        obtain ⟨role, hrole, hsame⟩ := List.mem_map.1 hmem
        exact (hroles role hrole).2 (hsame ▸ List.mem_cons_self)
      · intro role hrole
        rcases List.mem_cons.1 hrole with rfl | hrest
        · refine ⟨hdefault, ?_⟩
          show organization.id ∉ seen
          rw [hid]
          exact hunseen
        · obtain ⟨hgood, hothers⟩ := hroles role hrest
          exact ⟨hgood, fun h => hothers (List.mem_cons_of_mem _ h)⟩

theorem ofPrincipal_upholds (principal : Principal) :
    (Roles.ofPrincipal principal).Upholds inv fits :=
  .after_reading (all_readOnly _ _) fun mappings =>
    (granted_upholds h principal [] mappings).mono fun _ hroles =>
      h.granted hroles.1 fun role hrole => (hroles.2 role hrole).1

theorem defaultOrganization_upholds :
    Login.defaultOrganization.Upholds inv fun organization =>
      good ⟨organization.id, organization.defaultRole⟩ := by
  refine .of_reading (.look _) fun state organization hinv hfound => ?_
  -- no scope stands around the organizations in such a state, so they are read as they are
  have hread : (state.stores.organizations.readings state.world.disk).get Organization.defaultId
      = .ok organization := by
    change (state.stores.organizations.unscoped.readings state.world.disk).get _ = _ at hfound
    rw [h.unscoped hinv] at hfound
    exact hfound
  exact (h.found hinv hread).2.1

theorem firstRoles_upholds {granted : List Role} (hgranted : fits granted) :
    (firstRoles granted).Upholds inv fits := by
  unfold firstRoles
  split
  · exact .bind (defaultOrganization_upholds h) fun organization hgood => .pure (h.single hgood)
  · exact .pure hgranted

/-- A newcomer is turned away, or stored with roles that fit. -/
theorem register_upholds (principal : Principal) {granted : List Role} (hgranted : fits granted)
    (superAdmin : Bool) : (register principal granted superAdmin).Upholds inv fun _ => True := by
  unfold register
  split
  · exact .fail
  · exact .bind (firstRoles_upholds h hgranted) fun roles hroles => server_add_upholds h hroles

/-- A promotion stores the roles that were stored already. -/
theorem promote_upholds (adminGroup : Option String) (principal : Principal) {user : User}
    (huser : fits user.roles) :
    (Login.promote adminGroup principal user).Upholds inv fun _ => True := by
  unfold Login.promote
  split
  · exact .bind (server_update_upholds h huser) fun _ _ => .pure trivial
  · exact .pure trivial

/-- **A login upholds the invariant**, be it of a stored user or a first one. -/
theorem provision_upholds (adminGroup : Option String) (principal : Principal) :
    (Login.provision adminGroup principal).Upholds inv fun _ => True := by
  unfold Login.provision
  have huser : (Login.userOf adminGroup principal).Upholds inv fun _ => True := by
    refine .bind (users_find?_upholds h principal.identity) fun found hfound => ?_
    cases found with
    | some user => exact promote_upholds h adminGroup principal (hfound user rfl)
    | none =>
      -- nobody is found: the grants are read, then the flag, and then the newcomer is registered
      show (Login.createUser adminGroup principal).Upholds _ _
      rw [login_createUser_eq]
      refine .bind (ofPrincipal_upholds h principal) fun granted hgranted => ?_
      exact .after_reading (firstFlag_readOnly _ _) fun superAdmin =>
        register_upholds h principal hgranted superAdmin
  exact .bind huser.orFail fun user _ =>
    .bind (.ofExcept fun _ _ => trivial) fun _ _ => .pure trivial

/-! ## Creators -/

/-- The creator of an organization that is there becomes its admin. -/
theorem enrolCreator_upholds (hsession : context.isServerCall = false)
    {organization : Organization} (hadmin : good ⟨organization.id, .admin⟩) :
    (Organizations.enrolCreator context organization).Upholds inv fun _ => True := by
  unfold Organizations.enrolCreator
  cases context.user with
  | none => exact .pure trivial
  | some creator =>
    have hacting : (context.actingIn organization.id).isServerCall = false := hsession
    refine .bind (session_add_upholds h hacting fun role hrole => ?_).orFail fun _ _ =>
      .pure trivial
    -- the one role that is stored
    rw [List.mem_singleton.1 hrole]
    exact hadmin

end Services

/-! ## Requests -/

/-- What an invariant has to say about calls that change organizations and mappings: from a state of
which `inv` holds they end in one of which `post` holds. -/
structure CatalogCalls (inv post : State → Prop) : Prop where
  kept : ∀ {state}, inv state → post state
  mapped : ∀ {context}, context.isServerCall = false → ∀ request,
    (Console.createMapping context request).Upholds inv fun _ => True
  created : ∀ {context state}, context.isServerCall = false → inv state → ∀ organization,
    (Organizations.create context organization).Sat state fun _ => post
  deleted : ∀ {context state}, context.isServerCall = false → inv state → ∀ id,
    (Organizations.delete context id).Sat state fun _ => post

section Requests

variable {inv post : State → Prop} {fits : List Role → Prop} {good : Role → Prop}
  {context : Context} {state : State} (h : RoleInvariant inv fits good)
  (hcalls : CatalogCalls inv post)

include h hcalls

/-- Route by route. Most handlers uphold the invariant and so leave it as it is; the ones that
create or delete an organization have `hcalls` for them. -/
theorem handle_keeps (hsession : context.isServerCall = false) (hinv : inv state)
    (security : SecuritySettings) (principal : Principal) (request : Request) (route : Route) :
    (Console.handle security principal context request route).Sat state fun _ => post := by
  have hupholds {script : Console.Handler} (hscript : script.Upholds inv fun _ => True) :
      script.Sat state fun _ => post :=
    hscript.sat hcalls.kept hinv
  have hlist {ρ : Type} [Record ρ] (collection : Collection ρ) :
      (Console.list collection context).Sat state fun _ => post :=
    hupholds (.looks (list_readOnly collection context))
  cases route with
  | me =>
    exact hupholds (.bind (provision_upholds h _ principal).orFail fun _ _ => .pure trivial)
  | organizations =>
    simp only [Console.handle]
    split
    · -- the body is read first, and a body that cannot be read changes nothing
      refine .after_reading (.ofExcept _) (fun organization _ => ?_) fun _ _ => hcalls.kept hinv
      refine .then_reading ?_ fun _ => .pure _
      rw [Script.sat_orFail]
      exact hcalls.created hsession hinv organization
    · exact hlist _
  | organization segment =>
    -- likewise the id of the path
    refine .after_reading (.ofExcept _) (fun id _ => ?_) fun _ _ => hcalls.kept hinv
    refine .then_reading ?_ fun _ => .pure _
    rw [Script.sat_orFail]
    exact hcalls.deleted hsession hinv id
  | users =>
    simp only [Console.handle]
    split
    · exact hupholds (.after_reading (.ofExcept _) fun submission =>
        .bind (create_upholds h hsession submission).orFail fun _ _ => .pure trivial)
    · exact hlist _
  | user segment =>
    exact hupholds (.after_reading (.ofExcept _) fun id => .after_reading (.ofExcept _) fun patch =>
      .bind (update_upholds h hsession id patch).orFail fun _ _ => .pure trivial)
  | mappings =>
    simp only [Console.handle]
    split
    · exact hupholds (hcalls.mapped hsession request)
    · exact hlist _
  | sources => exact hlist _
  | servers => exact hlist _
  | dashboards => exact hlist _
  | layouts => exact hlist _
  | protoboards => exact hlist _
  | templates => exact hlist _
  | health => exact hcalls.kept hinv

/-- A request without a session, or with a method that the route does not take, is refused before
anything is changed. -/
theorem serve_keeps (hinv : inv state) (security : SecuritySettings) (request : Request)
    (route : Route) : (Console.serve security request route).Sat state fun _ => post := by
  have hkept : post state := hcalls.kept hinv
  obtain ⟨table, hstore, -⟩ := h.users hinv
  unfold Console.serve
  refine .after_reading (.ofExcept _) (fun principal _ => ?_) fun _ _ => hkept
  refine .after_reading (contextOf_readOnly principal).orFail (fun context hderived => ?_)
    fun _ _ => hkept
  have hcaller := servedBy_of_contextOf hstore (Script.ok_of_orFail hderived)
  split
  · exact handle_keeps h hcalls hcaller.session hinv security principal request route
  · exact hkept

/-- **What a request leaves**, whoever it is from. -/
theorem respond_keeps (console : Console) (hinv : inv console.state) (request : Request) :
    post (console.respond request).2.state := by
  have hkept : post console.state := hcalls.kept hinv
  have hresponds : (console.respond request).2 = (console.answer request).2 := rfl
  rw [hresponds]
  unfold Console.answer
  -- preflights, unknown paths and the health check do not reach the state
  split
  · exact hkept
  split
  · exact hkept
  · exact hkept
  · rename_i route _ _
    exact serve_keeps h hcalls hinv console.security request route

end Requests

end TenantConsole
