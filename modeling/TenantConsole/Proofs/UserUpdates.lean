import TenantConsole.Proofs.MappedRoles
import TenantConsole.Proofs.RoleRecords

/-!
# Updates of users

An update starts from what the organization sees of a user, which is one role, and ends in the
record of the user with all its roles. It says at the end what it has stored, or it has stored
nothing.

* **`get_member`** and **`run_update_member`**: the two calls of a session on a member. The update
  merges the role and the flag into the stored record.
* **`validate_single`**: for the write to go through, all roles have to be of the one organization,
  and no two requests may name the same; so there was one request, and `RoleGuard.resolved` says
  what it has become.
* **`User.ProperRoles.split`**: a stored user has its role in an organization among others, and
  these are left as they are, in their order.

`run_update_held_role` puts the calls together. Where the patch has no roles, the role that is held
is asked for again; it is not the wildcard, so it stays. `update_does_as_asked` says what that means
for the stored users.
-/

namespace TenantConsole

open Collection

/-! ## The role among the others -/

/-- A member whose role in an organization has given way to another, with this flag; nothing else
about it has changed. -/
def User.Reassigned (organization : String) (held name : RoleName) (superAdmin : Bool)
    (current after : User) : Prop :=
  ∃ before behind, current.roles = before ++ ⟨organization, held⟩ :: behind
    ∧ (∀ role ∈ before ++ behind, role.organization ≠ organization)
    ∧ after = { current with
        roles := before ++ behind ++ [⟨organization, name⟩]
        superAdmin }

/-- The name that a patch asks for, where a member has a role already: that role's if it asks for
none, and that of the default role if it asks for the wildcard. -/
inductive UserPatch.Asks (patch : UserPatch) (home : Organization) (held : RoleName) :
    RoleName → Prop where
  | unchanged (hroles : patch.roles = none) : UserPatch.Asks patch home held held
  | named {asked : RoleName} (hroles : patch.roles = some [⟨home.id, asked.text⟩]) :
      UserPatch.Asks patch home held (if asked = .wildcard then home.defaultRole else asked)

/-- The only request names the role that is held, if the patch has none of its own. -/
theorem UserPatch.asks_of_request {patch : UserPatch} {home : Organization} {held asked : RoleName}
    (hheld : held ≠ .wildcard)
    (h : patch.roles.getD [⟨home.id, held.text⟩] = [⟨home.id, asked.text⟩]) :
    patch.Asks home held (if asked = .wildcard then home.defaultRole else asked) := by
  -- a patch without roles asks for the role that is held, under its own text
  cases hroles : patch.roles with
  | some requests =>
    rw [hroles, Option.getD_some] at h
    rw [h] at hroles
    exact .named hroles
  | none =>
    rw [hroles, Option.getD_none] at h
    have htext : held.text = asked.text := congrArg RoleRequest.name (List.head_eq_of_cons_eq h)
    have hsame : asked = held := by
      have hread := RoleName.ofText?_text asked
      rw [← htext, RoleName.ofText?_text] at hread
      exact (Option.some.inj hread).symm
    rw [hsame, if_neg hheld]
    exact .unchanged hroles

/-- The role of a user in an organization stands among its roles elsewhere. -/
theorem User.ProperRoles.split {user : User} {organization : String} {role : Role}
    (h : user.ProperRoles) (hrole : user.roleIn? organization = some role) :
    ∃ before behind, user.roles = before ++ role :: behind
      ∧ user.rolesOutside organization = before ++ behind := by
  have horganization := User.roleIn?_organization hrole
  obtain ⟨-, before, behind, hroles, hbefore⟩ := List.find?_eq_some_iff_append.1 hrole
  refine ⟨before, behind, hroles, ?_⟩
  have honce := h.once
  rw [hroles, List.map_append, List.map_cons, List.nodup_append, List.nodup_cons] at honce
  have hbehind : ∀ other ∈ behind, other.organization ≠ organization := by
    intro other hother hsame
    refine honce.2.1.1 ?_
    rw [horganization, ← hsame]
    exact List.mem_map_of_mem hother
  unfold User.rolesOutside
  rw [hroles, List.filter_append, List.filter_cons_of_neg (by simpa using horganization),
    List.filter_eq_self.2 fun other hother => by simpa using hbefore other hother,
    List.filter_eq_self.2 fun other hother => by simpa using hbehind other hother]

/-- Putting a role with its flag is a reassignment, if roles are proper. -/
theorem holding_reassigned {user : User} {organization : String} {held : RoleName}
    (h : user.ProperRoles) (hheld : user.roleIn? organization = some ⟨organization, held⟩)
    (name : RoleName) (superAdmin : Bool) : user.Reassigned organization held name superAdmin
      { user.holding ⟨organization, name⟩ with superAdmin } := by
  obtain ⟨before, behind, hroles, houtside⟩ := h.split hheld
  refine ⟨before, behind, hroles, fun role hrole => ?_, ?_⟩
  · rw [← houtside] at hrole
    exact of_decide_eq_true (List.mem_filter.1 hrole).2
  · show ({ user with roles := user.rolesOutside organization ++ _, superAdmin } : User) = _
    rw [houtside]

/-! ## Calls on a member -/

/-- From inside, the user is seen with the new role and the new flag. -/
theorem seenIn?_of_holding {current : User} {acting : String} {role : Role}
    (horganization : role.organization = acting) (superAdmin : Bool) :
    ({ current.holding role with superAdmin } : User).seenIn? acting
      = some { current with roles := [role], superAdmin } :=
  User.holding_seenIn? { current with superAdmin } horganization

section Calls

variable {context : Context} {acting id : String} {state : State} {table : Table User}
  {user current seen : User}

theorem get_member (hsession : context.isServerCall = false)
    (hacting : context.organization = some acting) (hstore : state.stores.users = .memory table)
    (hfound : table.get? id = some current) (hseen : current.seenIn? acting = some seen) :
    (users.readings context state).get id = .ok seen := by
  unfold readings Collection.seen
  rw [access_of_acting hsession hacting,
    show users.store state.stores = .memory table from hstore]
  simp only [Access.view, Store.readings, Scoping.membership, Scoping.viewed, Table.get_ofListing,
    hfound, Readings.orMissing, hseen]

/-- **A member is rewritten with its new role, and its roles elsewhere**, unless the roles that are
submitted are refused. From inside it is seen with the new role from then on. -/
theorem run_update_member (hsession : context.isServerCall = false)
    (hacting : context.organization = some acting) (hstore : state.stores.users = .memory table)
    (hfound : table.get? user.id = some current) (hmember : current.hasRoleIn acting = true) :
    (∃ error, (users.update context user).run state = (.error error, state))
      ∨ ∃ role stored after, Scoping.submittedRole acting user = .ok role
        ∧ stored = { current.holding role with superAdmin := user.superAdmin }
        ∧ after = ⟨{ state.stores with users := .memory (table.insert stored) }, state.world⟩
        ∧ (users.update context user).run state = (.ok (), after)
        ∧ (users.readings context after).get user.id = .ok { stored with roles := [role] } := by
  have hcurrent : Scoping.member acting (.ofListing (.ok table.rows)) user.id = .ok current := by
    unfold Scoping.member
    rw [Table.get_ofListing, hfound]
    exact if_pos hmember
  have haccess := access_of_acting hsession hacting
  unfold Collection.update
  -- roles that the scope does not take are refused before anything is looked up
  cases hrole : Scoping.submittedRole acting user with
  | error error =>
    have hrefused : (Scoping.membership acting).plan
        ((users.store state.stores).readings state.world.disk) (.update user) = .refuse error := by
      simp only [Scoping.plan, Scoping.membership, hrole]
    exact .inl ⟨error, run_write_refused users_lawful haccess hrefused⟩
  | ok role =>
    have horganization : role.organization = acting := (submittedRole_ok hrole).2.1
    have hid : current.id = user.id := Table.id_of_get?_eq_some hfound
    have hheld : table.get? ({ current.holding role with superAdmin := user.superAdmin } : User).id
        = some current := by
      show table.get? current.id = _
      rw [hid, hfound]
    refine .inr ⟨role, _, _, rfl, rfl, rfl, ?_, ?_⟩
    · rw [run_write_memory users_lawful hstore, haccess]
      simp only [Access.outcome, Scoping.plan, Scoping.membership, hrole, hcurrent,
        Plan.carriedOut, write_update_of_get? hheld]
      rfl
    · have hseen := @seenIn?_of_holding current acting role horganization user.superAdmin
      refine get_member hsession hacting rfl ?_ hseen
      rw [Table.get?_insert]
      exact if_pos hid

end Calls

/-! ## One request -/

section Requests

variable {state : State} {listing : List Organization} {named roles : List Role}

/-- Every role that is resolved is one of the organization that has been asked for. -/
theorem organizations_of_resolve (hfinds : state.FindsAmong listing)
    (h : ((Roles.resolve named).run state).1 = .ok roles) :
    roles.map Role.organization = named.map Role.organization := by
  -- role by role; each organization that is found has the id that was asked for
  induction named generalizing roles with
  | nil =>
    cases h
    rfl
  | cons role rest ih =>
    obtain ⟨organization, others, hfound, hothers, rfl⟩ :=
      (Roles.resolve_cons_eq_ok_iff_of_found (run_get?_organization hfinds _)).1 h
    have hid : organization.id = role.organization := organization?_findsById hfinds _ _ hfound
    rw [List.map_cons, List.map_cons, ih hothers]
    exact congrArg (· :: _) hid

/-- The roles of a submission are those of the organizations that it asks for, each asked for once.
-/
theorem organizations_of_validate {caller : Context} {target : Option User}
    {requests : List RoleRequest} {superAdmin : Bool} (hfinds : state.FindsAmong listing)
    (hvalid : ((Roles.validate caller target requests superAdmin).run state).1 = .ok roles) :
    roles.map Role.organization = requests.map RoleRequest.organization
      ∧ (roles.map Role.organization).Nodup := by
  rw [Roles.run_validate] at hvalid
  cases hcheck : RoleGuard.check caller target requests superAdmin with
  | error error => rw [hcheck] at hvalid; cases hvalid
  | ok named =>
    rw [hcheck] at hvalid
    obtain ⟨horganizations, hnamed, -, -⟩ := RoleGuard.check_eq_ok_iff.1 hcheck
    have hsame : roles.map Role.organization = requests.map RoleRequest.organization := by
      rw [organizations_of_resolve hfinds hvalid, RoleGuard.organizations_of_named hnamed]
    refine ⟨hsame, ?_⟩
    rw [hsame]
    exact (RoleGuard.checkOrganizations_eq_ok_iff.1 horganizations).2

/-- Where no organization comes twice, the role that is submitted is the only one. -/
theorem roles_of_submittedRole {user : User} {acting : String} {role : Role}
    (honce : (user.roles.map Role.organization).Nodup)
    (hrole : Scoping.submittedRole acting user = .ok role) : user.roles = [role] := by
  obtain ⟨hheld, horganization, hhome⟩ := submittedRole_ok hrole
  obtain ⟨before, behind, hroles⟩ := List.append_of_mem (List.mem_of_find?_eq_some hheld)
  rw [hroles, List.map_append, List.map_cons, List.nodup_append, List.nodup_cons] at honce
  rw [hroles] at hhome
  -- another role would be one of the same organization, before this one or behind it
  obtain rfl : before = [] := by
    refine List.eq_nil_iff_forall_not_mem.2 fun other hother => ?_
    refine honce.2.2 _ (List.mem_map_of_mem hother) _ List.mem_cons_self ?_
    rw [horganization, hhome other (List.mem_append_left _ hother)]
  obtain rfl : behind = [] := by
    refine List.eq_nil_iff_forall_not_mem.2 fun other hother => honce.2.1.1 ?_
    rw [horganization,
      ← hhome other (List.mem_append_right _ (List.mem_cons_of_mem role hother))]
    exact List.mem_map_of_mem hother
  exact hroles

/-- **What is stored for a member has been the only request.** -/
theorem validate_single {caller : Context} {target : Option User} {requests : List RoleRequest}
    {superAdmin : Bool} {user : User} {acting : String} {role : Role}
    (hfinds : state.FindsAmong listing)
    (hvalid : ((Roles.validate caller target requests superAdmin).run state).1 = .ok user.roles)
    (hrole : Scoping.submittedRole acting user = .ok role) :
    ∃ asked home, requests = [⟨acting, asked.text⟩] ∧ state.organization? acting = some home
      ∧ role = ⟨acting, if asked = .wildcard then home.defaultRole else asked⟩ := by
  have horganization : role.organization = acting := (submittedRole_ok hrole).2.1
  obtain ⟨hsame, honce⟩ := organizations_of_validate hfinds hvalid
  have hroles : user.roles = [role] := roles_of_submittedRole honce hrole
  rw [hroles, List.map_singleton, horganization] at hsame
  obtain ⟨request, rfl, hacting⟩ := List.map_eq_singleton_iff.1 hsame.symm
  rw [hroles, Roles.run_validate] at hvalid
  cases hcheck : RoleGuard.check caller target [request] superAdmin with
  | error error => rw [hcheck] at hvalid; cases hvalid
  | ok named =>
    rw [hcheck] at hvalid
    obtain ⟨-, hnamed, -, -⟩ := RoleGuard.check_eq_ok_iff.1 hcheck
    obtain ⟨asked, others, hname, hothers, rfl⟩ := RoleGuard.named_cons_eq_ok_iff.1 hnamed
    cases hothers
    obtain ⟨home, others, hfound, hothers, hresolved⟩ :=
      (Roles.resolve_cons_eq_ok_iff_of_found (run_get?_organization hfinds _)).1 hvalid
    cases hothers
    rw [hacting] at hfound hresolved
    have hid : home.id = acting := organization?_findsById hfinds _ _ hfound
    refine ⟨asked, home, ?_, hfound, ?_⟩
    · rw [hname, ← hacting]
    · rw [List.head_eq_of_cons_eq hresolved, RoleGuard.resolved, hid]

/-- What a patch asks for a member is what the member is given. -/
theorem asks_of_validate {caller : Context} {target : Option User} {patch : UserPatch}
    {superAdmin : Bool} {user : User} {acting : String} {held : RoleName} {role : Role}
    (hfinds : state.FindsAmong listing) (hheld : held ≠ .wildcard)
    (hvalid : ((Roles.validate caller target
        (patch.roles.getD ([⟨acting, held⟩].map RoleRequest.ofRole)) superAdmin).run state).1
      = .ok user.roles)
    (hrole : Scoping.submittedRole acting user = .ok role) :
    ∃ home name, state.organization? acting = some home ∧ home.id = acting
      ∧ role = ⟨acting, name⟩ ∧ patch.Asks home held name := by
  obtain ⟨asked, home, hrequests, hhome, hanswer⟩ := validate_single hfinds hvalid hrole
  obtain rfl : home.id = acting := organization?_findsById hfinds _ _ hhome
  exact ⟨home, _, hhome, rfl, hanswer, UserPatch.asks_of_request hheld hrequests⟩

end Requests

/-! ## The update -/

/-- A user is read, its roles are validated, it is written, and it is read again. -/
theorem run_update (context : Context) (id : String) (patch : UserPatch) (state : State) :
    (Users.update context id patch).run state
      = match (users.readings context state).get id with
        | .error error => (.error (.store error), state)
        | .ok seen =>
          match ((Roles.validate context (some seen)
              (patch.roles.getD (seen.roles.map RoleRequest.ofRole))
              (patch.superAdmin.getD seen.superAdmin)).run state).1 with
          | .error error => (.error (.guard error), state)
          | .ok roles =>
            match (users.update context { seen with
                roles, superAdmin := patch.superAdmin.getD seen.superAdmin }).run state with
            | (.error error, after) => (.error (.store error), after)
            | (.ok (), after) =>
              (((users.readings context after).get id).mapError .store, after) := by
  have hreads (seen : User) (requests : List RoleRequest) (superAdmin : Bool) :
      (Roles.validate context (some seen) requests superAdmin).run state
        = (((Roles.validate context (some seen) requests superAdmin).run state).1, state) :=
    Prod.ext rfl (Roles.validate_readOnly _ _ _ _ state)
  unfold Users.update
  rw [Script.run_bind, Script.run_orFail, run_get]
  cases (users.readings context state).get id with
  | error error => rfl
  | ok seen =>
    dsimp only [Except.mapError]
    rw [Script.run_bind, Script.run_orFail, hreads]
    cases ((Roles.validate context (some seen) _ _).run state).1 with
    | error error => rfl
    | ok roles =>
      dsimp only [Except.mapError]
      rw [Script.run_bind, Script.run_orFail]
      rcases (users.update context _).run state with ⟨error | _, after⟩
      · rfl
      · rfl

/-- **The update of a member**, from the role that it holds to the one that is asked for. -/
theorem run_update_held_role {context : Context} {acting id : String} {state : State}
    {table : Table User} {listing : List Organization} {current : User} {held : RoleName}
    (hfinds : state.FindsAmong listing) (hsession : context.isServerCall = false)
    (hacting : context.organization = some acting) (hstore : state.stores.users = .memory table)
    (hfound : table.get? id = some current) (hheld : current.roleIn? acting = some ⟨acting, held⟩)
    (hnamed : held ≠ .wildcard) (patch : UserPatch) :
    (∃ error, (Users.update context id patch).run state = (.error error, state))
      ∨ ∃ home name stored, state.organization? acting = some home ∧ home.id = acting
        ∧ patch.Asks home held name
        ∧ stored = { current.holding ⟨acting, name⟩ with
            superAdmin := patch.superAdmin.getD current.superAdmin }
        ∧ (Users.update context id patch).run state
          = (.ok { stored with roles := [⟨acting, name⟩] },
            ⟨{ state.stores with users := .memory (table.insert stored) }, state.world⟩) := by
  have hseen : current.seenIn? acting = some { current with roles := [⟨acting, held⟩] } := by
    unfold User.seenIn?
    rw [hheld]
    rfl
  have hmember : current.hasRoleIn acting = true := Option.isSome_of_eq_some hheld
  have hid : current.id = id := Table.id_of_get?_eq_some hfound
  rw [run_update, get_member hsession hacting hstore hfound hseen]
  dsimp only
  -- the guard may refuse the roles, and then nothing is written
  cases hvalid : ((Roles.validate context _ _ _).run state).1 with
  | error error => exact .inl ⟨_, rfl⟩
  | ok roles =>
    -- what is written has the id of the stored user, and so finds it
    have hfound' : table.get? ({ current with
        roles, superAdmin := patch.superAdmin.getD current.superAdmin } : User).id
        = some current := by
      show table.get? current.id = _
      rw [hid, hfound]
    dsimp only
    rcases run_update_member hsession hacting hstore hfound' hmember with
      ⟨error, hrefused⟩ | ⟨role, stored, after, hrole, hstored, hafter, hrun, hagain⟩
    · rw [hrefused]
      exact .inl ⟨_, rfl⟩
    · obtain ⟨home, name, hhome, hsame, rfl, hasks⟩ := asks_of_validate hfinds hnamed hvalid hrole
      have hagain : (users.readings context after).get id = _ := hid ▸ hagain
      refine .inr ⟨home, name, stored, hhome, hsame, hasks, hstored, ?_⟩
      rw [hrun]
      dsimp only
      rw [hagain, hafter]
      rfl

/-- The organizations of the console are found by their ids, be they in the table or in files. -/
theorem findsAmong_assembled {settings : CatalogSettings} {tables : PrimaryTables} {stores : Stores}
    (hassembled : Stores.assemble settings tables.stores = .ok stores) (world : World) :
    ∃ listing, State.FindsAmong ⟨stores, world⟩ listing := by
  obtain ⟨flagSources, flagServers, rfl, -⟩ := assemble_over hassembled
  exact ⟨_, (organizations_outOf settings flagSources flagServers tables world.disk).get⟩

/-- **An update does what is asked, or nothing.** In the console's stores over tables, with one role
in an organization at most for each stored user and no wildcard among them, an update by a session
that acts in an organization is refused and leaves all as it was. Or the user with the id is a
member there; it is stored in its place with the role that was asked for in place of the one that it
had, with the flag of the patch if there is one, and else as it was; the other users are the same,
and the answer is the user that is stored, with that role alone. -/
theorem update_does_as_asked {settings : CatalogSettings} {tables : PrimaryTables} {stores : Stores}
    (hassembled : Stores.assemble settings tables.stores = .ok stores) (world : World)
    (hproper : ∀ user ∈ tables.users.rows, user.ProperRoles) {context : Context} {acting : String}
    (hsession : context.isServerCall = false) (hacting : context.organization = some acting)
    (id : String) (patch : UserPatch) :
    (∃ error, (Users.update context id patch).run ⟨stores, world⟩ = (.error error, ⟨stores, world⟩))
    ∨ ∃ above current below held home name after users,
      tables.users.rows = above ++ current :: below ∧ current.id = id
      ∧ State.organization? ⟨stores, world⟩ acting = some home ∧ home.id = acting
      ∧ patch.Asks home held name
      ∧ current.Reassigned acting held name (patch.superAdmin.getD current.superAdmin) after
      ∧ users.rows = above ++ after :: below
      ∧ (Users.update context id patch).run ⟨stores, world⟩
        = (.ok { after with roles := [⟨acting, name⟩] },
          ⟨{ stores with users := .memory users }, world⟩) := by
  obtain ⟨listing, hfinds⟩ := findsAmong_assembled hassembled world
  have hstore : (⟨stores, world⟩ : State).stores.users = .memory tables.users :=
    users_of_assemble hassembled
  -- a user that the organization does not see is missing
  cases hget : (users.readings context ⟨stores, world⟩).get id with
  | error error =>
    rw [run_update, hget]
    exact .inl ⟨_, rfl⟩
  | ok seen =>
    obtain ⟨organization, current, hacting', hfound, hshown⟩ := session_get hsession hstore hget
    cases hacting.symm.trans hacting'
    obtain ⟨⟨organization, held⟩, hheld, rfl⟩ := User.seenIn?_eq_some hshown
    obtain rfl : organization = acting := User.roleIn?_organization hheld
    obtain ⟨hcurrent, hid⟩ := Table.get?_eq_some_iff.1 hfound
    have hproper := hproper current hcurrent
    have hnamed : held ≠ .wildcard := hproper.named _ (List.mem_of_find?_eq_some hheld)
    rcases run_update_held_role hfinds hsession hacting hstore hfound hheld hnamed patch with
      hrefused | ⟨home, name, stored, hhome, hsame, hasks, hstored, hrun⟩
    · exact .inl hrefused
    · obtain ⟨above, below, hrows⟩ := List.append_of_mem hcurrent
      have hreassigned : current.Reassigned organization held name
          (patch.superAdmin.getD current.superAdmin) stored := by
        rw [hstored]
        exact holding_reassigned hproper hheld name _
      have hkept : (tables.users.insert stored).rows = above ++ stored :: below := by
        rw [hstored]
        exact Table.rows_insert_of_split hrows rfl
      exact .inr ⟨above, current, below, held, home, name, stored, _, hrows, hid, hhome, hsame,
        hasks, hreassigned, hkept, hrun⟩

namespace Office

/-- A clerk at home and in two other places. -/
def clerk : User :=
  { id := "w", name := "w", provider := "b", scheme := "c"
    roles := [⟨"p", .member⟩, ⟨"o", .editor⟩, ⟨"q", .admin⟩] }

/-- Two organizations and the clerk. -/
def staffed : PrimaryTables :=
  { organizations := .ofList [home, abroad], users := .ofList [clerk] }

def staffedStores : Stores := .layeredOver {} [] [] staffed.stores

/-- The default role at home, and nothing about the flag. -/
def demotion : UserPatch := { roles := some [⟨"o", "*"⟩], superAdmin := none }

def world : World := { ids := fun _ => "" }

/-- The clerk has one role in each organization. -/
theorem proper_staffed : ∀ user ∈ staffed.users.rows, user.ProperRoles := by
  intro user huser
  obtain rfl : user = clerk := List.mem_singleton.1 huser
  exact ⟨by decide, by decide⟩

end Office

/-- The clerk is given the default role at home. -/
theorem update_does_as_asked_office :
    Stores.assemble {} Office.staffed.stores = .ok Office.staffedStores
      ∧ (∀ user ∈ Office.staffed.users.rows, user.ProperRoles)
      ∧ Office.admin.isServerCall = false ∧ Office.admin.organization = some "o"
      ∧ ∃ held name stored users, Office.clerk.Reassigned "o" held name false stored
        ∧ users.rows = [stored]
        ∧ (Users.update Office.admin "w" Office.demotion).run ⟨Office.staffedStores, Office.world⟩
          = (.ok { stored with roles := [⟨"o", name⟩] },
            ⟨{ Office.staffedStores with users := .memory users }, Office.world⟩) := by
  have hassembled : Stores.assemble {} Office.staffed.stores = .ok Office.staffedStores := rfl
  have hsession : Office.admin.isServerCall = false := rfl
  have hacting : Office.admin.organization = some "o" := rfl
  refine ⟨hassembled, Office.proper_staffed, hsession, hacting, ?_⟩
  rcases update_does_as_asked hassembled Office.world Office.proper_staffed hsession hacting "w"
      Office.demotion with
    ⟨error, hrefused⟩ | ⟨above, current, below, held, home, name, stored, users, hrows, -, -, -, -,
      hreassigned, hkept, hrun⟩
  · have hanswer : ((Users.update Office.admin "w" Office.demotion).run
        ⟨Office.staffedStores, Office.world⟩).1
        = .ok { Office.clerk with roles := [⟨"o", .viewer⟩] } := rfl
    rw [hrefused] at hanswer
    cases hanswer
  · -- the clerk is the only user that is stored
    obtain ⟨rfl, hsingle⟩ : above = [] ∧ Office.clerk :: [] = current :: below := by
      cases above with
      | nil => exact ⟨rfl, hrows⟩
      | cons first rest => cases rest <;> cases hrows
    cases hsingle
    exact ⟨held, name, stored, users, hreassigned, hkept, hrun⟩

end TenantConsole
