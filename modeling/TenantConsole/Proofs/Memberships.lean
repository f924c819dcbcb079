import TenantConsole.Proofs.Calls

/-!
# What an organization can do to a user

Inside an organization, users are its members, and a write there is refused or does one of four
things to the stored users: a user joins, a member is created, a member's role changes, a member
leaves. `MemberChange` says which, and `membership_settles` that there is no other; all that is
known about a stored user after a write by a tenant comes from these four.

The record of a user is rewritten as a whole each time, so what is not to change has to be seen in
each of the four. The `evolves` lemmas leave that as the only thing to show: a relation between a
user before and after holds across the table if it holds for a new role, for a changed role with
the submitted flag, and for a departure.
-/

namespace TenantConsole

/-! ## Users -/

namespace User

@[simp] theorem id_eq (user : User) : Record.id user = user.id := rfl

/-- A new role leaves id, identity and flag of a user, and so does a departure. The lemmas up to
`leaving_rolesOutside` say so field by field, for `simp`. -/
@[simp] theorem holding_id (user : User) (role : Role) : (user.holding role).id = user.id := rfl

@[simp] theorem holding_identity (user : User) (role : Role) :
    (user.holding role).identity = user.identity := rfl

@[simp] theorem holding_superAdmin (user : User) (role : Role) :
    (user.holding role).superAdmin = user.superAdmin := rfl

@[simp] theorem leaving_id (user : User) (organization : String) :
    (user.leaving organization).id = user.id := rfl

@[simp] theorem leaving_identity (user : User) (organization : String) :
    (user.leaving organization).identity = user.identity := rfl

@[simp] theorem leaving_superAdmin (user : User) (organization : String) :
    (user.leaving organization).superAdmin = user.superAdmin := rfl

@[simp] theorem leaving_rolesOutside (user : User) (organization : String) :
    (user.leaving organization).rolesOutside organization = user.rolesOutside organization := by
  simp [leaving, rolesOutside]

/-- A new role of an organization leaves the roles elsewhere as they are. -/
@[simp] theorem holding_rolesOutside (user : User) (role : Role) :
    (user.holding role).rolesOutside role.organization = user.rolesOutside role.organization := by
  simp [holding, rolesOutside]

/-- An id drawn for a user says nothing else about it. -/
theorem named_cases (user : User) (world : World) : ∃ id, world.named user = { user with id } := by
  unfold World.named
  split
  · exact ⟨world.nextId, rfl⟩
  · exact ⟨user.id, rfl⟩

/-- A user has the id that it brings or the one that is drawn for it. -/
theorem named_id (user : User) (world : World) :
    (world.named user).id = if user.id = "" then world.nextId else user.id := by
  simp only [World.named, World.lacksId, id_eq, decide_eq_true_eq]
  split <;> rfl

/-- The role found for an organization is a role there. -/
theorem roleIn?_organization {user : User} {organization : String} {role : Role}
    (h : user.roleIn? organization = some role) : role.organization = organization := by
  simpa using List.find?_some h

/-- From inside an organization a user is seen with its role there and no other. -/
theorem seenIn?_eq_some {user seen : User} {organization : String}
    (h : user.seenIn? organization = some seen) :
    ∃ role, user.roleIn? organization = some role ∧ seen = { user with roles := [role] } := by
  unfold seenIn? at h
  obtain ⟨role, hrole, rfl⟩ := Option.map_eq_some_iff.1 h
  exact ⟨role, hrole, rfl⟩

/-- Whoever has only a role in the organization is seen whole from there. -/
theorem seenIn?_of_roles (user : User) {organization : String} {role : Role}
    (hroles : user.roles = [role]) (horganization : role.organization = organization) :
    user.seenIn? organization = some user := by
  subst horganization
  cases user
  simp_all [seenIn?, roleIn?]

/-- A user that is given a role in an organization is seen there with that role. -/
theorem holding_seenIn? (user : User) {organization : String} {role : Role}
    (horganization : role.organization = organization) :
    (user.holding role).seenIn? organization = some { user with roles := [role] } := by
  subst horganization
  have hnone : (user.rolesOutside role.organization).find?
      (fun r => decide (r.organization = role.organization)) = none := by
    simp [rolesOutside, List.find?_filter]
  simp [seenIn?, roleIn?, holding, List.find?_append, hnone]

end User

/-- A submitted role is one of the organization, and so are all roles next to it. -/
theorem submittedRole_ok {organization : String} {user : User} {role : Role}
    (h : Scoping.submittedRole organization user = .ok role) :
    user.roleIn? organization = some role ∧ role.organization = organization
      ∧ ∀ r ∈ user.roles, r.organization = organization := by
  unfold Scoping.submittedRole at h
  -- a user with a role elsewhere is refused before its own role is looked for
  split at h
  · cases h
  · rename_i hforeign
    split at h
    · rename_i found hrole
      cases h
      refine ⟨hrole, User.roleIn?_organization hrole, fun r hr => ?_⟩
      simpa using List.find?_eq_none.1 hforeign r hr
    · cases h

/-! ## The four changes -/

/-- What adding a user does: its identity is known outside the organization and gets a role inside,
or it is not known at all and a user is created. -/
inductive Admission (organization : String) (table : Table User) (user : User) :
    User → Table User → Prop where
  | joined {existing : User} {role : Role}
      (hrole : Scoping.submittedRole organization user = .ok role)
      (hfound : table.rows.find? (fun u => u.identity = user.identity) = some existing)
      (houtside : existing.hasRoleIn organization = false) :
      Admission organization table user { existing with roles := [role] }
        (table.insert (existing.holding role))
  | created {role : Role} {id : String}
      (hrole : Scoping.submittedRole organization user = .ok role)
      (hunknown : table.rows.find? (fun u => u.identity = user.identity) = none)
      (hfree : table.get? id = none) :
      Admission organization table user { user with id, roles := [role] }
        (table.insert { user with id, roles := [role] })

/-- What updating a user does: a member's role changes, and the flag with it. -/
inductive Reassignment (organization : String) (table : Table User) (user : User) :
    Table User → Prop where
  | changed {current : User} {role : Role}
      (hrole : Scoping.submittedRole organization user = .ok role)
      (hfound : table.get? user.id = some current)
      (hmember : current.hasRoleIn organization = true) :
      Reassignment organization table user
        (table.insert { current.holding role with superAdmin := user.superAdmin })

/-- What deleting a user does: a member leaves. -/
inductive Departure (organization : String) (table : Table User) (id : String) :
    Table User → Prop where
  | left {current : User} (hfound : table.get? id = some current)
      (hmember : current.hasRoleIn organization = true) :
      Departure organization table id (table.insert (current.leaving organization))

/-- What a write inside an organization does to the stored users where it is not refused, and what
it answers. -/
def MemberChange (organization : String) (table : Table User) :
    {α : Type} → Write User α → α → Table User → Prop
  | _, .add user, answer, after => Admission organization table user answer after
  | _, .update user, _, after => Reassignment organization table user after
  | _, .delete id, _, after => Departure organization table id after

section Cases

variable {organization : String} {table : Table User} {world : World}

/-- The stored user behind an id, seen from inside the organization. -/
theorem member_ok {id : String} {user : User}
    (h : Scoping.member organization (.ofListing (.ok table.rows)) id = .ok user) :
    table.get? id = some user ∧ user.hasRoleIn organization = true := by
  unfold Scoping.member at h
  rw [Table.get_ofListing] at h
  -- a stored user that has no role here is hidden like one that is not stored
  cases hfound : table.get? id with
  | none => rw [hfound] at h; cases h
  | some found =>
    rw [hfound] at h
    simp only [Readings.orMissing] at h
    split at h
    · cases h
      exact ⟨rfl, ‹_›⟩
    · cases h

/-- A stored user is rewritten by an update that bears its id. -/
theorem write_update_of_get? {current new : User} (hfound : table.get? new.id = some current) :
    table.write (.update new) world = (.ok (), table.insert new, world) := by
  have hheld : table.contains new.id = true := by
    unfold Table.contains
    rw [hfound]
    rfl
  simp [Table.write, hheld]

/-- Adding a user inside an organization is refused or is an admission. -/
theorem admission_settles (user : User) :
    table.Settles world (Admission organization table user)
      ((Access.within (Scoping.membership organization)).outcome (.add user) table world) := by
  simp only [Access.outcome, Scoping.plan, Scoping.membership]
  cases hrole : Scoping.submittedRole organization user with
  | error error => exact Table.settles_refusal rfl
  | ok role =>
    obtain ⟨-, horganization, -⟩ := submittedRole_ok hrole
    simp only [Readings.ofListing, Readings.search, Scoping.identityQuery]
    cases hfound : table.rows.find? (fun u => decide (u.identity = user.identity)) with
    | some existing =>
      simp only [Readings.orMissing]
      cases houtside : existing.hasRoleIn organization with
      | true => exact Table.settles_refusal rfl
      | false =>
        -- the identity is known, so its user is rewritten under the id that it has
        have hheld : table.get? (existing.holding role).id = some existing :=
          Table.get?_of_mem (List.mem_of_find?_eq_some hfound)
        simp only [Bool.false_eq_true, if_false, Plan.carriedOut, write_update_of_get? hheld,
          Scoping.seenMember, User.holding_seenIn? existing horganization]
        exact Table.settles_change rfl (.joined hrole hfound houtside)
    -- the identity is new, so a user is created under the id that the table finds for it
    | none =>
      have hnamed := (Table.write_settles table (.add { user with roles := [role] }) world)
      simp only [Readings.orMissing, StoreError.missing, StoreError.isNotFound, if_true,
        Plan.carriedOut]
      obtain ⟨hdisk, ⟨⟨error, herror⟩, hsame⟩ | ⟨value, hvalue, named, rfl, hfree, hafter⟩⟩ :=
        hnamed
      · rw [herror, hsame]
        exact Table.settles_refusal hdisk
      · obtain ⟨id, hid⟩ := User.named_cases { user with roles := [role] } named
        rw [hid] at hvalue hfree hafter
        rw [hvalue, hafter]
        simp only [Except.bind, Scoping.seenMember,
          User.seenIn?_of_roles { user with id, roles := [role] } rfl horganization]
        exact Table.settles_change hdisk (.created hrole hfound hfree)

/-- Updating a user inside an organization is refused or is a reassignment. -/
theorem reassignment_settles (user : User) :
    table.Settles world (fun _ => Reassignment organization table user)
      ((Access.within (Scoping.membership organization)).outcome (.update user) table world) := by
  simp only [Access.outcome, Scoping.plan, Scoping.membership]
  cases hrole : Scoping.submittedRole organization user with
  | error error => exact Table.settles_refusal rfl
  | ok role =>
    simp only
    cases hmember : Scoping.member organization (.ofListing (.ok table.rows)) user.id with
    | error error => exact Table.settles_refusal rfl
    | ok current =>
      obtain ⟨hfound, hrolled⟩ := member_ok hmember
      -- the row is written back under the id that it was found by
      have hid : ({ current.holding role with superAdmin := user.superAdmin } : User).id
          = user.id := Table.id_of_get?_eq_some hfound
      have hheld := hfound
      rw [← hid] at hheld
      simp only [Plan.carriedOut, write_update_of_get? hheld]
      exact Table.settles_change rfl (.changed hrole hfound hrolled)

/-- Deleting a user inside an organization is refused or is a departure; nobody is erased. -/
theorem departure_settles (id : String) :
    table.Settles world (fun _ => Departure organization table id)
      ((Access.within (Scoping.membership organization)).outcome (.delete id) table world) := by
  simp only [Access.outcome, Scoping.plan, Scoping.membership]
  cases hmember : Scoping.member organization (.ofListing (.ok table.rows)) id with
  | error error => exact Table.settles_refusal rfl
  | ok current =>
    obtain ⟨hfound, hrolled⟩ := member_ok hmember
    have hheld : table.get? (current.leaving organization).id = some current := by
      rw [show (current.leaving organization).id = id from Table.id_of_get?_eq_some hfound]
      exact hfound
    simp only [Plan.carriedOut, write_update_of_get? hheld]
    exact Table.settles_change rfl (.left hfound hrolled)

/-- **A write inside an organization is refused and changes nothing, or it is one of the four
changes.** -/
theorem membership_settles {α : Type} (organization : String) (table : Table User) (world : World)
    (write : Write User α) :
    table.Settles world (MemberChange organization table write)
      ((Access.within (Scoping.membership organization)).outcome write table world) := by
  cases write with
  | add user => exact admission_settles user
  | update user => exact reassignment_settles user
  | delete id => exact departure_settles id

end Cases

/-! ## What becomes of the stored users -/

section Evolves

variable {organization : String} {table after : Table User} {user answer : User} {id : String}
  {kept : User → User → Prop} {fresh : User → Prop}

/-- An admission keeps what a new role in the organization keeps, and creates with one role there.
-/
theorem Admission.evolves (h : Admission organization table user answer after)
    (hrefl : ∀ row, kept row row)
    (hjoined : ∀ {existing : User} {role : Role}, role.organization = organization →
      kept existing (existing.holding role))
    (hcreated : ∀ {id : String} {role : Role}, role.organization = organization →
      fresh { user with id, roles := [role] }) :
    table.Evolves kept fresh after := by
  cases h with
  | @joined existing role hrole hfound houtside =>
    have hheld : table.get? existing.id = some existing :=
      Table.get?_of_mem (List.mem_of_find?_eq_some hfound)
    exact .replaced hrefl hheld (hjoined (submittedRole_ok hrole).2.1)
  | created hrole hunknown hfree =>
    exact .inserted hrefl hfree (hcreated (submittedRole_ok hrole).2.1)

/-- A reassignment keeps what a new role and the submitted flag keep. -/
theorem Reassignment.evolves (h : Reassignment organization table user after)
    (hrefl : ∀ row, kept row row)
    (hchanged : ∀ {current : User} {role : Role}, table.get? user.id = some current →
      role.organization = organization →
      kept current { current.holding role with superAdmin := user.superAdmin }) :
    table.Evolves kept fresh after := by
  cases h with
  | @changed current role hrole hfound hmember =>
    have hid : current.id = user.id := Table.id_of_get?_eq_some hfound
    refine .replaced hrefl ?_ (hchanged hfound (submittedRole_ok hrole).2.1)
    show table.get? current.id = some current
    rw [hid, hfound]

/-- A departure keeps what a user keeps that leaves. -/
theorem Departure.evolves (h : Departure organization table id after)
    (hrefl : ∀ row, kept row row)
    (hleft : ∀ {current : User}, kept current (current.leaving organization)) :
    table.Evolves kept fresh after := by
  cases h with
  | @left current hfound hmember =>
    have hid : current.id = id := Table.id_of_get?_eq_some hfound
    refine .replaced hrefl ?_ hleft
    show table.get? current.id = some current
    rw [hid, hfound]

end Evolves

/-! ## The store of an organization's members -/

/-- The users as one organization works with them. -/
def Table.membersOf (organization : String) (table : Table User) : Store User :=
  .scoped (.membership organization) (.memory table)

/-- What an organization's write does is the outcome of its access to the table. -/
theorem Table.write_membersOf {α : Type} (organization : String) (table : Table User)
    (write : Write User α) (world : World) :
    (table.membersOf organization).write write world
      = (((Access.within (.membership organization)).outcome write table world).1,
        ((Access.within (.membership organization)).outcome write table world).2.1.membersOf
          organization,
        ((Access.within (.membership organization)).outcome write table world).2.2) := by
  simp only [membersOf, Store.write, Store.readings, Access.outcome]
  cases (Scoping.membership organization).plan (.ofListing (.ok table.rows)) write <;> rfl

/-- A write that goes through is one of the four changes. -/
theorem Table.membersOf_changed {α : Type} {organization : String} {table : Table User}
    {write : Write User α} {answer : α} {world world' : World} {after : Store User}
    (h : (table.membersOf organization).write write world = (.ok answer, after, world')) :
    ∃ stored : Table User, after = stored.membersOf organization
      ∧ MemberChange organization table write answer stored := by
  rw [write_membersOf, Prod.mk.injEq, Prod.mk.injEq] at h
  obtain ⟨hanswer, hafter, -⟩ := h
  -- the answer is a success, which rules out the refusals
  obtain ⟨-, ⟨⟨error, hrefused⟩, -⟩ | ⟨value, hvalue, hchange⟩⟩ :=
    membership_settles organization table world write
  · cases hanswer.symm.trans hrefused
  · cases hanswer.symm.trans hvalue
    exact ⟨_, hafter.symm, hchange⟩

end TenantConsole
