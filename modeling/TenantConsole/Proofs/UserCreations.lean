import TenantConsole.Proofs.OrganizationLifecycles
import TenantConsole.Proofs.UserUpdates

/-!
# Creations of users

A creation that goes through answers with a user, and one of two things has happened:

* nobody was stored under the identity, and the user is new. It is what has been submitted, under an
  id that was free;
* a user with the identity is stored, and the organization of the caller does not see it. It joins
  with the role that has been submitted, and what it has besides is not touched. Its super admin
  flag is part of that, so an organization cannot take the flag from a user that it does not know.

`Creation` has these two cases, and all that the answer says about the stored users is read off
them. What a caller reads afterwards depends on what it reaches of the users: the console itself
reads the new row, and a session reads its organization's share of it (`Admission.readsBack`).
`create_settles` follows the text of the service, and `creations_are_acknowledged` puts it together.
-/

namespace TenantConsole

open Collection

namespace Table

theorem get?_insert_self {ρ : Type} [Record ρ] (table : Table ρ) (new : ρ) :
    (table.insert new).get? (Record.id new) = some new := by
  rw [get?_insert]
  exact if_pos rfl

/-- Rows other than the one that goes in, and other than the one that it takes the place of. -/
theorem mem_insert_of_other {ρ : Type} [Record ρ] {table : Table ρ} {new row : ρ}
    (hnew : row ≠ new) (hold : table.get? (Record.id new) ≠ some row) :
    row ∈ (table.insert new).rows ↔ row ∈ table.rows := by
  rw [mem_insert_iff]
  constructor
  · rintro (⟨-, hsame⟩ | ⟨-, hrow⟩)
    · exact absurd hsame hnew
    · exact hrow
  · intro hrow
    refine .inr ⟨fun hid => hold ?_, hrow⟩
    rw [← hid]
    exact get?_of_mem hrow

theorem identity_of_knownAs? {table : Table User} {identity : Identity} {user : User}
    (h : table.knownAs? identity = some user) : user.identity = identity := by
  simpa using List.find?_some h

end Table

/-! ## Reading as the console -/

section Reaching

variable {context : Context} {state : State} {table : Table User}

/-- Who reaches all users reads the table. -/
theorem readings_users_full (haccess : users.access context = .full)
    (hstore : state.stores.users = .memory table) :
    users.readings context state = .ofListing (.ok table.rows) := by
  unfold readings Collection.seen
  rw [haccess, show users.store state.stores = .memory table from hstore]
  rfl

/-- What is looked up in vain by who reaches all users is not stored. -/
theorem knownAs?_of_unfound (haccess : users.access context = .full)
    (hstore : state.stores.users = .memory table) {identity : Identity}
    (h : ((users.find? context (Scoping.identityQuery identity)).run state).1 = .ok none) :
    table.knownAs? identity = none := by
  have hfind : (users.readings context state).find (Scoping.identityQuery identity)
      = Readings.orMissing (Scoping.identityQuery identity).label (table.knownAs? identity) := by
    rw [readings_users_full haccess hstore, Table.find_ofListing]
  simp only [find?, Script.run_bind, Script.run_attempt, run_find, hfind] at h
  -- a user with the identity would have been found
  cases hknown : table.knownAs? identity with
  | none => rfl
  | some user => rw [hknown] at h; cases h

/-- In whatever state these users are stored, the caller reads this one under its id. -/
def Context.ReadsBack (context : Context) (user : User) (table : Table User) : Prop :=
  ∀ state : State, state.stores.users = .memory table →
    (users.readings context state).get user.id = .ok user

/-- Who reaches all users reads the row that has gone in. -/
theorem Context.readsBack_inserted (haccess : users.access context = .full) (user : User) :
    context.ReadsBack user (table.insert user) := by
  intro state hstore
  have hfound : (table.insert user).get? user.id = some user := Table.get?_insert_self table user
  rw [readings_users_full haccess hstore, Table.get_ofListing, hfound]
  rfl

/-- **A session reads back the user that it has admitted**, with the role that it has submitted. -/
theorem Admission.readsBack {organization : String} {user answer : User} {after : Table User}
    (h : Admission organization table user answer after) (hsession : context.isServerCall = false)
    (hacting : context.organization = some organization) : context.ReadsBack answer after := by
  intro state hstore
  -- joined or created, the row that goes in has the submitted role in the organization
  cases h with
  | @joined existing role hrole hfound houtside =>
    have hseen := User.holding_seenIn? existing (submittedRole_ok hrole).2.1
    exact get_member hsession hacting hstore (Table.get?_insert_self _ _) hseen
  | @created role id hrole hunknown hfree =>
    have hseen := User.seenIn?_of_roles { user with id, roles := [role] } rfl
      (submittedRole_ok hrole).2.1
    exact get_member hsession hacting hstore (Table.get?_insert_self _ _) hseen

end Reaching

/-! ## The two cases -/

/-- What a creation does to the stored users, and the user that it answers with. -/
inductive Creation (table : Table User) (submitted : User) : User → Table User → Prop where
  | added {id : String} (hunknown : table.knownAs? submitted.identity = none)
      (hfree : table.get? id = none) :
      Creation table submitted { submitted with id } (table.insert { submitted with id })
  | joined {existing : User} {role : Role}
      (hknown : table.knownAs? submitted.identity = some existing)
      (hroles : submitted.roles = [role]) :
      Creation table submitted { existing with roles := [role] }
        (table.insert (existing.holding role))

namespace Creation

variable {table after : Table User} {submitted answer : User}

theorem identity (h : Creation table submitted answer after) :
    answer.identity = submitted.identity := by
  cases h with
  | added hunknown hfree => rfl
  | @joined existing role hknown hroles =>
    have hidentity : existing.identity = submitted.identity := Table.identity_of_knownAs? hknown
    exact hidentity

theorem roles (h : Creation table submitted answer after) : answer.roles = submitted.roles := by
  cases h with
  | added hunknown hfree => rfl
  | joined hknown hroles => exact hroles.symm

/-- A new user has the flag that has been submitted. -/
theorem flag_of_unknown (h : Creation table submitted answer after)
    (hnone : ∀ known ∈ table.rows, known.identity ≠ submitted.identity) :
    answer.superAdmin = submitted.superAdmin := by
  cases h with
  | added hunknown hfree => rfl
  | joined hknown hroles =>
    exact absurd (Table.identity_of_knownAs? hknown) (hnone _ (List.mem_of_find?_eq_some hknown))

/-- A user that was stored before has the flag that it had. -/
theorem flag_of_known (h : Creation table submitted answer after)
    (hdistinct : DistinctIdentities table) {known : User} (hmem : known ∈ table.rows)
    (hsame : known.identity = submitted.identity) : answer.superAdmin = known.superAdmin := by
  have hfound : table.knownAs? submitted.identity = some known := by
    rw [← hsame]
    exact hdistinct.knownAs?_eq hmem
  cases h with
  | added hunknown hfree => cases hunknown.symm.trans hfound
  | joined hknown hroles =>
    cases hknown.symm.trans hfound
    rfl

/-- **The other users are stored as before**, and no others are. -/
theorem others (h : Creation table submitted answer after) {other : User}
    (hother : other.identity ≠ submitted.identity) : other ∈ after.rows ↔ other ∈ table.rows := by
  -- a new row has the submitted identity, and so has the one that it takes the place of
  cases h with
  | @added id hunknown hfree =>
    refine Table.mem_insert_of_other (fun hsame => hother ?_) fun hheld => ?_
    · rw [hsame]
      rfl
    · cases hfree.symm.trans hheld
  | @joined existing role hknown hroles =>
    have hidentity := Table.identity_of_knownAs? hknown
    refine Table.mem_insert_of_other (fun hsame => hother ?_) fun hheld => hother ?_
    · rw [hsame, User.holding_identity, hidentity]
    · -- the row that makes way is the known user
      have hfound : table.get? existing.id = some existing :=
        Table.get?_of_mem (List.mem_of_find?_eq_some hknown)
      cases hfound.symm.trans hheld
      exact hidentity

end Creation

/-- An admission of a user with one role is a creation. -/
theorem Admission.creation {organization : String} {table after : Table User} {user answer : User}
    (h : Admission organization table user answer after)
    (honce : (user.roles.map Role.organization).Nodup) : Creation table user answer after := by
  cases h with
  | @joined existing role hrole hfound houtside =>
    exact .joined hfound (roles_of_submittedRole honce hrole)
  | @created role id hrole hunknown hfree =>
    have hwhole : ({ user with id, roles := [role] } : User) = { user with id } := by
      rw [← roles_of_submittedRole honce hrole]
    rw [hwhole]
    exact .added hunknown hfree

/-! ## The service -/

/-- The user that a submission describes, once its requests have come to these roles. -/
def UserSubmission.user (submission : UserSubmission) (roles : List Role) : User :=
  { name := submission.name, provider := submission.provider, scheme := submission.scheme,
    superAdmin := submission.superAdmin, roles }

namespace State.UsersSettle

variable {ε ε' α : Type} {before after : State} {table : Table User}
  {change change' : α → Table User → Prop} {answer : Except ε α}

theorem mono (h : before.UsersSettle table change answer after)
    (hchange : ∀ {value table'}, change value table' → change' value table') :
    before.UsersSettle table change' answer after := by
  obtain ⟨table', hwith, hrefused | ⟨value, hvalue, hdone⟩⟩ := h
  · exact ⟨table', hwith, .inl hrefused⟩
  · exact ⟨table', hwith, .inr ⟨value, hvalue, hchange hdone⟩⟩

/-- What the errors are called makes no difference. -/
theorem mapError (h : before.UsersSettle table change answer after) (f : ε → ε') :
    before.UsersSettle table change (answer.mapError f) after := by
  obtain ⟨table', hwith, ⟨⟨error, rfl⟩, hsame⟩ | ⟨value, rfl, hdone⟩⟩ := h
  · exact ⟨table', hwith, .inl ⟨⟨f error, rfl⟩, hsame⟩⟩
  · exact ⟨table', hwith, .inr ⟨value, rfl, hdone⟩⟩

theorem refused (hstore : before.stores.users = .memory table) (error : ε) :
    before.UsersSettle table change (.error error : Except ε α) before :=
  ⟨table, .refl hstore, .inl ⟨⟨error, rfl⟩, rfl⟩⟩

end State.UsersSettle

section Services

variable {context : Context} {state : State} {table : Table User} {listing : List Organization}

/-- **A user that the caller does not see is added, or joins**, and is read back from then on. -/
theorem add_unseen {user : User} (hstore : state.stores.users = .memory table)
    (honce : (user.roles.map Role.organization).Nodup)
    (hunfound : ((users.find? context (Scoping.identityQuery user.identity)).run state).1
      = .ok none) :
    (users.add context user).Sat state (state.UsersSettle table fun answer after =>
      Creation table user answer after ∧ context.ReadsBack answer after) := by
  -- the console writes to the table itself, a session through the scope of its organization
  cases hserver : context.isServerCall with
  | true =>
    have haccess := access_of_server hserver
    have hunknown := knownAs?_of_unfound haccess hstore hunfound
    have hwrites : (users.add context user).Sat state
        (state.UsersSettle table (table.Change (.add user))) := by
      refine users_write_sat hstore ?_
      rw [haccess]
      exact Table.write_settles table (.add user) state.world
    refine hwrites.mono fun h => h.mono ?_
    rintro answer _ ⟨world, hnamed, hfree, rfl⟩
    refine ⟨?_, Context.readsBack_inserted haccess answer⟩
    obtain ⟨id, hid⟩ := User.named_cases user world
    rw [hid] at hnamed
    rw [hnamed] at hfree ⊢
    exact .added hunknown hfree
  | false =>
    refine (session_write_sat hserver hstore _).mono fun h => h.mono ?_
    rintro answer after ⟨organization, hacting, hadmission⟩
    exact ⟨hadmission.creation honce, hadmission.readsBack hserver hacting⟩

/-- **A creation is refused, or it is one of the two cases** with the roles that the guard has
resolved. -/
theorem create_settles (hfinds : state.FindsAmong listing)
    (hstore : state.stores.users = .memory table) (submission : UserSubmission) :
    (Users.create context submission).Sat state (state.UsersSettle table fun answer after =>
      ∃ roles, ((Roles.validate context none submission.roles submission.superAdmin).run state).1
          = .ok roles
        ∧ Creation table (submission.user roles) answer after
        ∧ context.ReadsBack answer after) := by
  unfold Users.create
  split
  · exact .refused hstore _
  · refine .after_reading (Roles.validate_readOnly _ _ _ _).orFail (fun roles hroles => ?_)
      fun error _ => .refused hstore error
    have hvalid := Script.ok_of_orFail hroles
    refine .after_reading (find?_readOnly _ _ _).orFail (fun found hfound => ?_)
      fun error _ => .refused hstore error
    -- a user that the caller sees under the identity is a duplicate
    cases found with
    | some existing => exact .refused hstore _
    | none =>
      have honce : ((submission.user roles).roles.map Role.organization).Nodup :=
        (organizations_of_validate hfinds hvalid).2
      rw [Script.sat_orFail]
      refine (add_unseen hstore honce (Script.ok_of_orFail hfound)).mono fun h =>
        (h.mapError _).mono ?_
      rintro answer after ⟨hcreation, hreads⟩
      exact ⟨roles, hvalid, hcreation, hreads⟩

end Services

/-- What is so once a creation has been answered with a user. Its super admin flag is the one that
has been submitted if the user is new. A user that was stored before keeps the flag that it has, if
it has it or if none has been submitted. -/
structure Acknowledged (context : Context) (submission : UserSubmission) (before : State)
    (table : Table User) (user : User) (after : State) : Prop where
  readsBack : (users.readings context after).get user.id = .ok user
  identity : user.identity = submission.identity
  roles : ((Roles.validate context none submission.roles submission.superAdmin).run before).1
    = .ok user.roles
  flag : (∀ known ∈ table.rows, known.identity ≠ submission.identity) →
    user.superAdmin = submission.superAdmin
  keptFlag : ∀ known ∈ table.rows, known.identity = submission.identity →
    submission.superAdmin = false ∨ known.superAdmin = true → user.superAdmin = known.superAdmin
  others : ∃ users, before.WithUsers users after ∧ ∀ other : User,
    other.identity ≠ submission.identity → (other ∈ users.rows ↔ other ∈ table.rows)

/-- **What a creation answers is what is stored.** In the console's stores over tables, with no
identity stored twice, a creation fails and leaves the stores and the disk as they were; or it
answers with a user, which the caller reads under its id, with the identity that has been submitted,
the roles that the guard has resolved and its flag, and no user with another identity has changed.
-/
theorem creations_are_acknowledged {settings : CatalogSettings} {tables : PrimaryTables}
    {stores : Stores} (hassembled : Stores.assemble settings tables.stores = .ok stores)
    (hdistinct : DistinctIdentities tables.users) (world : World) (context : Context)
    (submission : UserSubmission) :
    (Users.create context submission).Sat ⟨stores, world⟩ fun answer after =>
      (∃ error, answer = .error error ∧ after.stores = stores ∧ after.world.disk = world.disk)
        ∨ ∃ user, answer = .ok user
          ∧ Acknowledged context submission ⟨stores, world⟩ tables.users user after := by
  obtain ⟨listing, hfinds⟩ := findsAmong_assembled hassembled world
  have hstore : (⟨stores, world⟩ : State).stores.users = .memory tables.users :=
    users_of_assemble hassembled
  refine (create_settles hfinds hstore submission).mono ?_
  -- refused or done, the users are the only thing that can have changed
  rintro answer after ⟨users, hwith, ⟨⟨error, herror⟩, rfl⟩ |
    ⟨user, hanswer, roles, hvalid, hcreation, hreads⟩⟩
  · refine .inl ⟨error, herror, ?_, hwith.disk⟩
    rw [hwith.stores, ← hstore]
  · refine .inr ⟨user, hanswer, ?_⟩
    exact {
      readsBack := hreads after hwith.users
      identity := hcreation.identity
      roles := by rw [hcreation.roles]; exact hvalid
      flag := hcreation.flag_of_unknown
      keptFlag := fun known hmem hsame _ => hcreation.flag_of_known hdistinct hmem hsame
      others := ⟨users, hwith, fun other hother => hcreation.others hother⟩ }

namespace Office

/-- A super admin that is a member abroad only. -/
def root : User :=
  { id := "r", name := "bob", provider := "github", scheme := sessionScheme, superAdmin := true
    roles := [⟨"p", .viewer⟩] }

/-- Two organizations and a super admin that belongs to neither. -/
def rooted : PrimaryTables :=
  { organizations := .ofList [home, abroad], users := .ofList [root] }

def rootedStores : Stores := .layeredOver {} [] [] rooted.stores

/-- The same identity, submitted at home with no flag. -/
def bob : UserSubmission :=
  { name := "bob", provider := "github", scheme := sessionScheme, superAdmin := false
    roles := [⟨"o", "viewer"⟩] }

/-- The super admin as it is seen at home, once it has joined. -/
def rootAtHome : User := { root with roles := [⟨"o", .viewer⟩] }

theorem distinct_rooted : DistinctIdentities rooted.users := by
  show ∀ a ∈ rooted.users.rows, ∀ b ∈ rooted.users.rows, a.identity = b.identity → a = b
  decide

end Office

/-- The super admin joins at home. -/
theorem creations_are_acknowledged_office :
    Stores.assemble {} Office.rooted.stores = .ok Office.rootedStores
      ∧ DistinctIdentities Office.rooted.users
      ∧ ∃ after, (Users.create Office.admin Office.bob).run ⟨Office.rootedStores, Office.world⟩
          = (.ok Office.rootAtHome, after)
        ∧ Acknowledged Office.admin Office.bob ⟨Office.rootedStores, Office.world⟩
          Office.rooted.users Office.rootAtHome after := by
  have hassembled : Stores.assemble {} Office.rooted.stores = .ok Office.rootedStores := rfl
  have hanswer : ((Users.create Office.admin Office.bob).run
      ⟨Office.rootedStores, Office.world⟩).1 = .ok Office.rootAtHome := rfl
  refine ⟨hassembled, Office.distinct_rooted, _, Prod.ext hanswer rfl, ?_⟩
  rcases creations_are_acknowledged hassembled Office.distinct_rooted Office.world Office.admin
      Office.bob with ⟨error, hrefused, -⟩ | ⟨user, hcreated, hacknowledged⟩
  · cases hanswer.symm.trans hrefused
  · cases hanswer.symm.trans hcreated
    exact hacknowledged

/-- **The flag is not always the one that has been submitted.** No identity is stored twice, a
creation goes through, and its user is a super admin though the submission asks for none. -/
theorem hidden_flag_kept :
    Stores.assemble {} Office.rooted.stores = .ok Office.rootedStores
      ∧ DistinctIdentities Office.rooted.users
      ∧ ∃ user, ((Users.create Office.admin Office.bob).run
          ⟨Office.rootedStores, Office.world⟩).1 = .ok user
        ∧ user.superAdmin ≠ Office.bob.superAdmin :=
  ⟨rfl, Office.distinct_rooted, Office.rootAtHome, rfl, by decide⟩

end TenantConsole
