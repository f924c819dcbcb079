import TenantConsole.Proofs.Memberships
import TenantConsole.Service.Login

/-!
# Where users are at home

A user that asks for no organization acts where its first role is, so the order of the roles says
where it is at home. An organization that updates a member takes the member's roles in it out and
puts the new one last (`holding_organizations`). Nothing moves if there was one role and it was the
last (`User.ListsLast`); and the user is at home where it was if its first role was in another
organization, or if it has no role elsewhere. In all other cases it finds itself in another
organization at the next login: `home_stays_iff` says so for every update that goes through.
-/

namespace TenantConsole

namespace User

/-! ## The organizations of a user -/

/-- The organizations of the roles, in the order of the roles. -/
def organizations (user : User) : List String := user.roles.map Role.organization

/-- Where a user acts that asks for no organization. -/
def home? (user : User) : Option String := user.organizations.head?

/-- The user has one role in the organization, and it comes last. -/
def ListsLast (user : User) (organization : String) : Prop :=
  ∃ before, user.organizations = before ++ [organization] ∧ organization ∉ before

theorem mem_organizations_of_hasRoleIn {user : User} {organization : String}
    (h : user.hasRoleIn organization = true) : organization ∈ user.organizations := by
  obtain ⟨role, hrole⟩ := Option.isSome_iff_exists.1 h
  rw [← roleIn?_organization hrole]
  exact List.mem_map_of_mem (List.mem_of_find?_eq_some hrole)

theorem holding_organizations (user : User) (role : Role) :
    (user.holding role).organizations
      = user.organizations.filter (· ≠ role.organization) ++ [role.organization] := by
  simp only [organizations, holding, rolesOutside, List.map_append, List.map_cons, List.map_nil,
    List.filter_map]
  rfl

/-- Who asks for no organization acts at home. -/
theorem contextFor_unrequested (user : User) {requested : Option String}
    (h : requested = none ∨ requested = some "") :
    Login.contextFor user requested = .ok (.forUser user user.home?) := by
  have hhome : user.home? = user.roles.head?.map Role.organization := List.head?_map
  rw [hhome]
  rcases h with rfl | rfl <;> rfl

end User

/-! ## Moving an entry to the end -/

section Moving

variable {entry : String} {entries : List String}

/-- Moving an entry to the end leaves a list as it is exactly if the entry stands there and nowhere
else. -/
theorem moved_eq_self_iff : entries.filter (· ≠ entry) ++ [entry] = entries
    ↔ ∃ before, entries = before ++ [entry] ∧ entry ∉ before := by
  constructor
  · intro h
    exact ⟨_, h.symm, by simp⟩
  · rintro ⟨before, rfl, hbefore⟩
    have hkept : before.filter (· ≠ entry) = before :=
      List.filter_eq_self.2 fun other hother => by
        simpa using fun hsame : other = entry => hbefore (hsame ▸ hother)
    rw [List.filter_append, hkept, List.filter_cons_of_neg (by simp), List.filter_nil,
      List.append_nil]

/-- What is at the head stays there if it is not moved, or if there is nothing else. -/
theorem moved_head?_iff (hentry : entry ∈ entries) :
    (entries.filter (· ≠ entry) ++ [entry]).head? = entries.head?
      ↔ entries.head? ≠ some entry ∨ ∀ other ∈ entries, other = entry := by
  obtain ⟨first, rest, rfl⟩ := List.exists_cons_of_ne_nil (List.ne_nil_of_mem hentry)
  rw [List.head?_cons]
  -- an entry that is not the first leaves the first one where it is
  by_cases hfirst : first = entry
  case neg =>
    rw [List.filter_cons_of_pos (by simpa using hfirst)]
    exact iff_of_true rfl (.inl fun hsame => hfirst (Option.some.inj hsame))
  subst hfirst
  rw [List.filter_cons_of_neg (by simp)]
  -- the next entry of another name comes to the head, if there is one
  cases hothers : rest.filter (· ≠ first) with
  | nil =>
    refine iff_of_true rfl (.inr ?_)
    have hnone := List.filter_eq_nil_iff.1 hothers
    rintro other (_ | ⟨_, hother⟩)
    · rfl
    · simpa using hnone other hother
  | cons next others =>
    have hnext : next ∈ rest.filter (· ≠ first) := hothers ▸ List.mem_cons_self
    obtain ⟨hmem, hother⟩ := List.mem_filter.1 hnext
    have hother : next ≠ first := of_decide_eq_true hother
    refine iff_of_false (fun hsame => hother (Option.some.inj hsame)) ?_
    rintro (hmoved | hall)
    · exact hmoved rfl
    · exact hother (hall next (List.mem_cons_of_mem first hmem))

end Moving

/-! ## Updates -/

/-- One row has given way to another under its id, and the others stay. -/
structure Table.Rewritten {ρ : Type} [Record ρ] (before after : Table ρ) (old new : ρ) : Prop where
  held : before.get? (Record.id old) = some old
  stored : after.get? (Record.id old) = some new
  others : ∀ id, id ≠ Record.id old → after.get? id = before.get? id

/-- Putting a row in under the id of another rewrites that one. -/
theorem Table.rewritten_insert {ρ : Type} [Record ρ] {table : Table ρ} {old new : ρ}
    (hold : table.get? (Record.id old) = some old) (hid : Record.id new = Record.id old) :
    table.Rewritten (table.insert new) old new where
  held := hold
  stored := by rw [get?_insert, if_pos hid]
  others id hother := by rw [get?_insert, if_neg fun hsame => hother (hsame.symm.trans hid)]

/-- **When an update leaves a user at home.** An organization's update that goes through rewrites
one user: its role in the organization is the one that has been submitted, behind the roles that it
has elsewhere, and its flag is the one that has been submitted. Its organizations stay in their
order exactly if its role in this one was the only one and the last. Asking for none, it acts where
it did before exactly if its first role was in another organization or all of its roles were in this
one. -/
theorem home_stays_iff {table : Table User} {acting : String} {user : User} {world world' : World}
    {after : Store User}
    (hupdated : (table.membersOf acting).write (.update user) world = (.ok (), after, world')) :
    ∃ (stored : Table User) (current changed : User) (role : Role),
      after = stored.membersOf acting ∧ table.Rewritten stored current changed
      ∧ current.id = user.id ∧ user.roleIn? acting = some role
      ∧ changed = { current with
          roles := current.rolesOutside acting ++ [role], superAdmin := user.superAdmin }
      ∧ (changed.organizations = current.organizations ↔ current.ListsLast acting)
      ∧ ∀ requested, requested = none ∨ requested = some "" → ∃ before behind,
          Login.contextFor current requested = .ok before
          ∧ Login.contextFor changed requested = .ok behind
          ∧ (behind.organization = before.organization ↔ current.home? ≠ some acting
            ∨ ∀ organization ∈ current.organizations, organization = acting) := by
  obtain ⟨stored, rfl, hchange⟩ := Table.membersOf_changed hupdated
  cases hchange with
  | @changed current role hrole hfound hmember =>
    obtain ⟨hheld, rfl, -⟩ := submittedRole_ok hrole
    -- the flag is written as well, but it has no part in where the roles stand
    let changed : User := { current.holding role with superAdmin := user.superAdmin }
    have hid : current.id = user.id := Table.id_of_get?_eq_some hfound
    have hcurrent : table.get? (Record.id current) = some current := by rwa [User.id_eq, hid]
    have hmoved : changed.organizations
        = current.organizations.filter (· ≠ role.organization) ++ [role.organization] :=
      current.holding_organizations role
    refine ⟨_, current, changed, role, rfl, Table.rewritten_insert hcurrent rfl, hid, hheld, rfl,
      ?_, fun requested hrequested => ⟨_, _, current.contextFor_unrequested hrequested,
        changed.contextFor_unrequested hrequested, ?_⟩⟩
    · rw [hmoved]
      exact moved_eq_self_iff
    · show changed.organizations.head? = current.organizations.head? ↔ _
      rw [hmoved]
      exact moved_head?_iff (User.mem_organizations_of_hasRoleIn hmember)

namespace Commuter

def world : World := { ids := fun _ => "" }

/-- A user of two organizations, at home in the first. -/
def user : User :=
  { id := "u", name := "", provider := "", scheme := "", superAdmin := false
    roles := [⟨"a", .viewer⟩, ⟨"b", .viewer⟩] }

def table : Table User := Table.empty.insert user

/-- The user as one of the organizations submits it, with a higher role. -/
def raisedIn (organization : String) : User := { user with roles := [⟨organization, .editor⟩] }

/-- The user once the first organization has raised its role. -/
def moved : User := { user with roles := [⟨"b", .viewer⟩, ⟨"a", .editor⟩] }

end Commuter

/-- The second organization raises its role, and the user stays at home in the first. -/
theorem home_stays_iff_commuter : ∃ (stored : Table User) (changed : User),
    (Commuter.table.membersOf "b").write (.update (Commuter.raisedIn "b")) Commuter.world
        = (.ok (), stored.membersOf "b", Commuter.world)
      ∧ stored.get? "u" = some changed
      ∧ changed.organizations = Commuter.user.organizations
      ∧ ∃ behind, Login.contextFor changed none = .ok behind
        ∧ behind.organization = some "a" := by
  have hupdated : (Commuter.table.membersOf "b").write (.update (Commuter.raisedIn "b"))
      Commuter.world = (.ok (), _, Commuter.world) := rfl
  obtain ⟨stored, current, changed, role, hafter, hrewritten, hid, -, -, hsame, hhome⟩ :=
    home_stays_iff hupdated
  -- the table has one user, so it is the one that is updated
  have hcurrent : current = Commuter.user := by
    have hfound := hrewritten.held
    rw [User.id_eq, hid] at hfound
    cases hfound
    rfl
  subst hcurrent
  obtain ⟨before, behind, hbefore, hbehind, hstays⟩ := hhome none (.inl rfl)
  cases hbefore
  rw [hafter] at hupdated
  exact ⟨stored, changed, hupdated, hrewritten.stored, hsame.2 ⟨["a"], rfl, by decide⟩, behind,
    hbehind, hstays.2 (.inl (by decide))⟩

/-- **A higher role can move a user out of its home.** The first organization raises the role of a
user that is at home there, and at the next login the user acts in the second. -/
theorem raised_role_moves_home :
    (Commuter.table.membersOf "a").write (.update (Commuter.raisedIn "a")) Commuter.world
        = (.ok (), (Commuter.table.insert Commuter.moved).membersOf "a", Commuter.world)
      ∧ Commuter.table.get? "u" = some Commuter.user
      ∧ (Commuter.table.insert Commuter.moved).get? "u" = some Commuter.moved
      ∧ Commuter.moved.organizations ≠ Commuter.user.organizations
      ∧ Login.contextFor Commuter.user none = .ok (.forUser Commuter.user (some "a"))
      ∧ Login.contextFor Commuter.moved none = .ok (.forUser Commuter.moved (some "b")) :=
  ⟨rfl, rfl, rfl, by decide, rfl, rfl⟩

end TenantConsole
