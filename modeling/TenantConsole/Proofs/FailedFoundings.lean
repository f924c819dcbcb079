import TenantConsole.Proofs.UserCreations

/-!
# Organizations that are left behind

An organization is created in two steps: the catalog takes it, and then its creator becomes its
admin. Nothing is taken back, so a creator that cannot become a member leaves an organization behind
that has no admin. There are two ways to be kept out, and each is by a user that is stored:

* whoever is known is kept out by itself, if it has a role in the organization already. It may have
  got the role while there was an organization with this id in the directory, or while there was
  none at all;
* whoever is not known, or is added by the console itself, needs an id of its own, and is kept out
  by the user that has it.

`Context.obstacle?` finds this user, and `enrolCreator_unless` says that nothing else keeps a
creator out. All other refusals come before anything is written. `organization_creations_settled`
puts this together: a creation is refused and changes nothing, or it goes through, or it is refused
and the organization stays.
-/

namespace TenantConsole

open Collection Readings

/-! ## Joining -/

/-- The stored user that keeps the creator of an organization from becoming a member. Only sessions
look for the creator's identity. -/
def Context.obstacle? (context : Context) (table : Table User) (world : World)
    (organization : String) : Option User :=
  context.user.bind fun creator =>
    match if context.isServerCall then none else table.knownAs? creator.identity with
    | some known => if known.hasRoleIn organization then some known else none
    | none => table.get? (world.named creator).id

/-- What is done with the answer of an addition makes no difference. -/
theorem State.AddsUnless.answered {state : State} {script : StoreScript User}
    {holder? : Option User} (h : script.Sat state (state.AddsUnless id holder?)) :
    (script.orFail .store >>= fun _ => return () : ServiceScript Unit).Sat state
      (state.AddsUnless .store holder?) := by
  rw [Script.sat_bind, Script.sat_orFail]
  refine h.mono fun {answer after} hadds => ?_
  -- a conflict stays a conflict, and an answer loses its value only
  cases holder? with
  | some holder =>
    obtain ⟨rfl, hsame⟩ := hadds
    exact ⟨rfl, hsame⟩
  | none =>
    obtain ⟨value, rfl⟩ := hadds
    exact ⟨(), rfl⟩

section Joining

variable {context : Context} {state : State} {table : Table User}

/-- **Nothing else keeps a creator out.** -/
theorem enrolCreator_unless (hstore : state.stores.users = .memory table)
    (organization : Organization) :
    (Organizations.enrolCreator context organization).Sat state
      (state.AddsUnless .store (context.obstacle? table state.world organization.id)) := by
  unfold Organizations.enrolCreator Context.obstacle?
  cases huser : context.user with
  | none => exact ⟨(), rfl⟩
  | some creator =>
    let inside := context.actingIn organization.id
    let admin : User := { creator with roles := [⟨organization.id, .admin⟩] }
    -- the role that is submitted makes no difference to the id
    have hid : (state.world.named admin).id = (state.world.named creator).id := by
      rw [User.named_id, User.named_id]
    rw [Option.bind_some, ← hid]
    refine State.AddsUnless.answered ?_
    -- the console adds without a look at the identity; a session asks who is known by it
    cases hserver : context.isServerCall with
    | true =>
      have hinside : inside.isServerCall = true := hserver
      exact add_unless_server hinside hstore admin
    | false =>
      have hinside : inside.isServerCall = false := hserver
      have hacting : inside.organization = some organization.id := rfl
      have hrole := submittedRole_singleton creator ⟨organization.id, .admin⟩
      cases hknown : table.knownAs? creator.identity with
      | none => exact add_unless_unknown hinside hacting hstore hrole rfl hknown
      | some known =>
        simp only [Bool.false_eq_true, if_false]
        unfold Script.Sat
        rcases run_add_known hinside hacting hstore hrole hknown with
          ⟨hmember, hrefused⟩ | ⟨houtside, hjoined⟩
        · rw [hrefused, hmember]
          exact ⟨rfl, rfl, rfl⟩
        · rw [hjoined, houtside]
          exact ⟨_, rfl⟩

end Joining

/-! ## Creating -/

/-- An organization that the catalog takes, from whoever creates it: a super admin or the console
itself, under an id that the table does not have. The files beside the table do not matter. -/
structure Organization.Accepted (organization : Organization) (context : Context)
    (table : Table Organization) (world : World) : Prop where
  name : Text.isAllBlank organization.name = false
  role : organization.defaultRole ≠ .wildcard
  creator : context.isServerCall = true ∨ context.isSuperAdmin = true
  free : table.get? (world.named organization).id = none

section Creating

variable {premises : Premises} {tables : PrimaryTables} {context : Context}
  {organization : Organization} {world : World}

/-- **What is not accepted is refused before anything is written.** -/
theorem create_refused (premises : Premises)
    (hrefused : ¬ organization.Accepted context tables.organizations world) :
    (Organizations.create context organization).Sat ⟨premises.storesOver tables, world⟩
      fun answer after => (∃ error, answer = .error error)
        ∧ after.stores = premises.storesOver tables ∧ after.world.disk = world.disk := by
  let before : State := ⟨premises.storesOver tables, world⟩
  have hstores : before.stores = premises.storesOver tables := rfl
  unfold Organizations.create
  split
  · exact ⟨⟨_, rfl⟩, rfl, rfl⟩
  rename_i hname
  split
  · exact ⟨⟨_, rfl⟩, rfl, rfl⟩
  rename_i hrole
  by_cases hcreator : context.isServerCall = true ∨ context.isSuperAdmin = true
  · cases hheld : tables.organizations.get? (world.named organization).id with
    | none => exact absurd ⟨by simpa using hname, hrole, hcreator, hheld⟩ hrefused
    | some row =>
      -- the conflict may have used up an id, but it has touched no store
      have htaken := admin_write hcreator hstores (Catalog.over_add_taken hheld)
      exact .after_failure htaken ⟨⟨_, rfl⟩, rfl, Table.afterNaming_disk _ _⟩
  · have hkind : (Write.add organization).kind ≠ .update := nofun
    obtain ⟨error, hdenied⟩ := ordinary_write hcreator hkind before
    exact .after_failure hdenied ⟨⟨_, rfl⟩, rfl, rfl⟩

/-- **What is accepted is in the catalog**, and comes back as the answer if nobody is in the way of
its creator. -/
theorem create_accepted (premises : Premises)
    (haccepted : organization.Accepted context tables.organizations world) :
    (Organizations.create context organization).Sat ⟨premises.storesOver tables, world⟩
      fun answer after =>
        match context.obstacle? tables.users (world.afterNaming organization)
          (world.named organization).id with
        | none => answer = .ok (world.named organization)
        | some holder => answer = .error (.store (.taken User holder.id))
          ∧ after.stores = premises.storesOver { tables with
              organizations := tables.organizations.insert (world.named organization) }
          ∧ after.world.disk = world.disk := by
  let before : State := ⟨premises.storesOver tables, world⟩
  have hstores : before.stores = premises.storesOver tables := rfl
  have hname : ¬ Text.isAllBlank organization.name = true := by simp [haccepted.name]
  have hadded := admin_write haccepted.creator hstores (Catalog.over_add_free haccepted.free)
  unfold Organizations.create
  rw [if_neg hname, if_neg haccepted.role]
  -- from here on the organization is in the table, whatever becomes of its creator
  refine .after_call hadded ?_
  rw [Script.sat_bind]
  refine (enrolCreator_unless rfl (world.named organization)).mono fun {answer after} hadds => ?_
  cases hobstacle : context.obstacle? tables.users (world.afterNaming organization)
      (world.named organization).id with
  | none =>
    rw [hobstacle] at hadds
    obtain ⟨_, rfl⟩ := hadds
    rfl
  | some holder =>
    rw [hobstacle] at hadds
    obtain ⟨rfl, hsame, hdisk⟩ := hadds
    exact ⟨rfl, hsame, hdisk.trans (Table.afterNaming_disk world organization)⟩

end Creating

/-- **What a failed creation leaves behind.** In the console's stores over tables, with any files
beside them, a creation that fails leaves the users and the mappings as they were. An organization
that is not accepted is refused and changes nothing, so every id leads where it did. An organization
that is accepted is created if no stored user is in the way of its creator. If there is one, the
answer is a conflict with this user, and the organization has come into the table all the same: it
is found under its id, and the others are found as before. -/
theorem organization_creations_settled {settings : CatalogSettings} {tables : PrimaryTables}
    {stores : Stores} (hassembled : Stores.assemble settings tables.stores = .ok stores)
    (world : World) (context : Context) (organization : Organization) :
    let created := world.named organization
    (Organizations.create context organization).Sat ⟨stores, world⟩ fun answer after =>
      ((∃ error, answer = .error error) →
        after.stores.users = stores.users ∧ after.stores.mappings = stores.mappings)
      ∧ (¬ organization.Accepted context tables.organizations world →
        (∃ error, answer = .error error) ∧ after.stores = stores ∧ after.world.disk = world.disk
          ∧ ∀ id, after.organization? id = State.organization? ⟨stores, world⟩ id)
      ∧ (organization.Accepted context tables.organizations world →
        match context.obstacle? tables.users (world.afterNaming organization) created.id with
        | none => answer = .ok created
        | some holder => answer = .error (.store (.taken User holder.id))
          ∧ Stores.assemble settings { tables with
              organizations := tables.organizations.insert created : PrimaryTables }.stores
            = .ok after.stores
          ∧ after.world.disk = world.disk
          ∧ ∀ id, after.organization? id = if created.id = id then some created
              else State.organization? ⟨stores, world⟩ id) := by
  intro created
  obtain ⟨flagSources, flagServers, rfl, hassembles⟩ := assemble_over hassembled
  let premises : Premises := ⟨settings, flagSources, flagServers⟩
  -- the two ways for the catalog: with the organization in it, or as it was
  by_cases haccepted : organization.Accepted context tables.organizations world
  · refine (create_accepted premises haccepted).mono fun {answer after} hcreated => ?_
    cases hobstacle : context.obstacle? tables.users (world.afterNaming organization)
        created.id with
    | none =>
      rw [hobstacle] at hcreated
      subst hcreated
      exact ⟨nofun, fun hrefused => absurd haccepted hrefused, fun _ => rfl⟩
    | some holder =>
      rw [hobstacle] at hcreated
      obtain ⟨hanswer, hstores, hdisk⟩ := hcreated
      obtain ⟨_, left⟩ := after
      subst hstores
      exact ⟨fun _ => ⟨rfl, rfl⟩, fun hrefused => absurd haccepted hrefused, fun _ =>
        ⟨hanswer, hassembles _, hdisk, organization?_inserted hdisk created⟩⟩
  · refine (create_refused premises haccepted).mono fun {answer after} hrefused => ?_
    obtain ⟨herror, hstores, hdisk⟩ := hrefused
    -- the same stores over the same disk lead an id to the same organization
    have hsame (id : String) : after.organization? id
        = State.organization? ⟨premises.storesOver tables, world⟩ id := by
      unfold State.organization?
      rw [hstores, hdisk]
    refine ⟨fun _ => ?_, fun _ => ⟨herror, hstores, hdisk, hsame⟩, fun h => absurd h haccepted⟩
    rw [hstores]
    exact ⟨rfl, rfl⟩

namespace Office

/-- The super admin, whose role abroad is stored while there is no organization there. -/
def unfounded : PrimaryTables := { rooted with organizations := .ofList [home] }

def unfoundedStores : Stores := .layeredOver {} [] [] unfounded.stores

theorem accepted_abroad : abroad.Accepted (.forUser root none) unfounded.organizations world where
  name := by decide
  role := by decide
  creator := .inr rfl
  free := rfl

end Office

/-- The super admin founds an organization that it has a role in. -/
theorem organization_creations_settled_office :
    Stores.assemble {} Office.unfounded.stores = .ok Office.unfoundedStores
      ∧ ∃ after, (Organizations.create (.forUser Office.root none) Office.abroad).run
          ⟨Office.unfoundedStores, Office.world⟩
        = (.error (.store (.taken User "r")), after)
      ∧ after.stores.users = Office.unfoundedStores.users
      ∧ after.organization? "p" = some Office.abroad := by
  have hassembled : Stores.assemble {} Office.unfounded.stores = .ok Office.unfoundedStores := rfl
  obtain ⟨hkept, -, hleft⟩ := organization_creations_settled hassembled Office.world
    (.forUser Office.root none) Office.abroad
  obtain ⟨hconflict, -, -, hfound⟩ := hleft Office.accepted_abroad
  exact ⟨hassembled, _, Prod.ext hconflict rfl, (hkept ⟨_, hconflict⟩).1, hfound "p"⟩

/-- **A failed creation can leave an organization behind.** The answer is a conflict, and an id that
led to nothing leads to the organization. -/
theorem failed_creation_leaves_organization :
    Stores.assemble {} Office.unfounded.stores = .ok Office.unfoundedStores
      ∧ ∃ after, (Organizations.create (.forUser Office.root none) Office.abroad).run
          ⟨Office.unfoundedStores, Office.world⟩
        = (.error (.store (.taken User "r")), after)
      ∧ State.organization? ⟨Office.unfoundedStores, Office.world⟩ "p" = none
      ∧ after.organization? "p" = some Office.abroad :=
  ⟨rfl, _, rfl, rfl, rfl⟩

end TenantConsole
