import TenantConsole.Proofs.Authority
import TenantConsole.Proofs.RoleRecords

/-!
# Stored users over a run of requests

Four things hold of the users and the organizations for as long as they hold at the start: an
identity is stored once, a user has one role in an organization at most, nobody holds the wildcard,
and no organization has it to give. The last three keep one another up and are `ProperRoles`. The
first is about who is stored and not about what they may do, so it is read off the effects of a
request (`RequestEffect.distinct`): a user that comes in has been looked up in vain, all others keep
their identity.

`respondAll_orderly` is the induction over the requests, and `users_stay_orderly` says the same of
the stores as they are put together.
-/

namespace TenantConsole

/-! ## Identities -/

/-- No two stored users have the same name, provider and scheme. -/
def DistinctIdentities (table : Table User) : Prop :=
  ∀ a ∈ table.rows, ∀ b ∈ table.rows, a.identity = b.identity → a = b

/-- Two users have one identity. -/
def SameIdentity (before after : User) : Prop := after.identity = before.identity

namespace DistinctIdentities

variable {table before after : Table User} {fresh : User → Prop}

/-- A user after a change was there before with the same identity, or is new. -/
theorem origin (hevolves : before.Evolves SameIdentity fresh after) {user : User}
    (huser : user ∈ after.rows) :
    (∃ old ∈ before.rows, old.id = user.id ∧ user.identity = old.identity) ∨ fresh user := by
  have hafter : after.get? user.id = some user := Table.get?_of_mem huser
  -- an id that was not there before belongs to a new user
  cases hbefore : before.get? user.id with
  | none => exact .inr (hevolves.freshens hbefore hafter)
  | some old =>
    obtain ⟨hold, hid⟩ := Table.get?_eq_some_iff.1 hbefore
    obtain ⟨kept, hkept, hsame⟩ := hevolves.keeps hbefore
    cases hkept.symm.trans hafter
    exact .inl ⟨old, hold, hid, hsame⟩

/-- **Identities stay apart** where the old users keep theirs and at most one comes in, under an
identity that nobody had. -/
theorem evolves (h : DistinctIdentities before)
    (hevolves : before.Evolves SameIdentity fresh after)
    (hunknown : ∀ {user}, fresh user → ∀ old ∈ before.rows, old.identity ≠ user.identity)
    (hone : ∀ {a b}, fresh a → fresh b → a = b) : DistinctIdentities after := by
  intro a ha b hb hsame
  rcases origin hevolves ha with ⟨olda, holda, hida, hsamea⟩ | hfresha
    <;> rcases origin hevolves hb with ⟨oldb, holdb, hidb, hsameb⟩ | hfreshb
  · -- both were there, so they were one user, and its id finds one user still
    have hold : olda = oldb := h olda holda oldb holdb (hsamea.symm.trans (hsame.trans hsameb))
    have hid : a.id = b.id := by rw [← hida, ← hidb, hold]
    have hfound : after.get? a.id = some a := Table.get?_of_mem ha
    have hfound' : after.get? b.id = some b := Table.get?_of_mem hb
    rw [hid, hfound'] at hfound
    exact (Option.some.inj hfound).symm
  · exact absurd (hsamea.symm.trans hsame) (hunknown hfreshb olda holda)
  · exact absurd (hsameb.symm.trans hsame.symm) (hunknown hfresha oldb holdb)
  · exact hone hfresha hfreshb

/-- Where nobody comes in, identities stay apart because the old users keep theirs. -/
theorem kept (h : DistinctIdentities before)
    (hevolves : before.Evolves SameIdentity (fun _ => False) after) : DistinctIdentities after :=
  h.evolves hevolves nofun nofun

theorem refl (user : User) : SameIdentity user user := rfl

/-- A user comes in whose identity has been looked up in vain. -/
theorem inserted (h : DistinctIdentities table) {user : User}
    (hfree : table.get? user.id = none) (hunknown : table.knownAs? user.identity = none) :
    DistinctIdentities (table.insert user) := by
  have hevolves : table.Evolves SameIdentity (· = user) (table.insert user) :=
    .inserted refl hfree rfl
  refine h.evolves hevolves ?_ fun ha hb => ha.trans hb.symm
  rintro _ rfl old hold hsame
  have hnone := List.find?_eq_none.1 hunknown old hold
  exact hnone (decide_eq_true hsame)

/-- An admission stores no identity twice: it looks for the identity first, and creates only what it
has not found. -/
theorem admitted {organization : String} {user answer : User} (h : DistinctIdentities table)
    (hadmission : Admission organization table user answer after) : DistinctIdentities after := by
  cases hadmission with
  | @joined existing role hrole hfound houtside =>
    have hheld : table.get? existing.id = some existing :=
      Table.get?_of_mem (List.mem_of_find?_eq_some hfound)
    exact h.kept (.replaced refl hheld rfl)
  | created hrole hunknown hfree => exact h.inserted hfree hunknown

end DistinctIdentities

/-- **No effect of a request stores an identity twice.** -/
theorem RequestEffect.distinct {security : SecuritySettings} {principal : Principal}
    {context : Context} {method : Method} {table after : Table User} {route : Route}
    (heffect : RequestEffect security principal context method table route after)
    (h : DistinctIdentities table) : DistinctIdentities after := by
  -- logins and admissions look for the identity first, the other effects rewrite users that are
  -- there
  cases heffect with
  | visited hvisit =>
    cases hvisit with
    | @promoted user hknown hadmin =>
      have hheld : table.get? user.id = some user :=
        Table.get?_of_mem (List.mem_of_find?_eq_some hknown)
      exact h.kept (.replaced DistinctIdentities.refl hheld rfl)
    | @registered user hunknown hfree hidentity =>
      rw [← hidentity] at hunknown
      exact h.inserted hfree hunknown
  | admitted hmethod hauthorized hadmission => exact h.admitted hadmission
  | reassigned hsegment hauthorized hfound hreassignment =>
    exact h.kept (hreassignment.evolves DistinctIdentities.refl fun _ _ => rfl)
  | enrolled hadmin hcreator hadmission => exact h.admitted hadmission
  | stripped hadmin hsegment hstripping =>
    refine h.kept (hstripping.mono (fun hstripped => ?_) fun h => h)
    rcases hstripped with rfl | rfl <;> rfl

/-- After a request, every identity is still stored once. -/
theorem respond_distinct (console : Console) {table : Table User}
    (hstore : console.state.stores.users = .memory table) (h : DistinctIdentities table)
    (request : Request) : ∃ users,
      (console.respond request).2.state.stores.users = .memory users
        ∧ DistinctIdentities users := by
  obtain ⟨-, hsame | ⟨route, principal, context, -, hserved⟩⟩ :=
    respond_effect console hstore request
  · rw [hsame]
    exact ⟨table, hstore, h⟩
  · obtain ⟨users, husers, hchange, -⟩ := hserved.left
    refine ⟨users, husers, ?_⟩
    rcases hchange with rfl | heffect
    · exact h
    · exact heffect.distinct h

/-! ## Runs -/

/-- An identity is stored once, users hold proper roles, and organizations have proper ones to
give. -/
structure Orderly (settings : CatalogSettings) (tables : PrimaryTables) (disk : Disk) : Prop
    extends ProperRoles settings tables disk where
  identities : DistinctIdentities tables.users

/-- **The step.** -/
theorem respond_orderly {premises : Premises} {tables : PrimaryTables} (console : Console)
    (hstores : console.state.stores = premises.storesOver tables)
    (h : Orderly premises.settings tables console.state.world.disk) (request : Request) :
    ∃ tables', (console.respond request).2.state.stores = premises.storesOver tables'
      ∧ Orderly premises.settings tables' (console.respond request).2.state.world.disk := by
  have hstore : console.state.stores.users = .memory tables.users := by
    rw [hstores]
    rfl
  obtain ⟨tables', hstores', hproper⟩ :=
    respond_proper console ⟨tables, hstores, h.toProperRoles⟩ request
  obtain ⟨users, husers, hdistinct⟩ := respond_distinct console hstore h.identities request
  have hsame : users = tables'.users := by
    rw [hstores'] at husers
    exact (Store.memory.inj husers).symm
  exact ⟨tables', hstores', ⟨hproper, hsame ▸ hdistinct⟩⟩

/-- **The run.** -/
theorem respondAll_orderly {premises : Premises} {tables : PrimaryTables} (console : Console)
    (hstores : console.state.stores = premises.storesOver tables)
    (h : Orderly premises.settings tables console.state.world.disk) (requests : List Request) :
    (console.respondAll requests).2.security = console.security
      ∧ ∃ tables', (console.respondAll requests).2.state.stores = premises.storesOver tables'
        ∧ Orderly premises.settings tables' (console.respondAll requests).2.state.world.disk := by
  -- each request starts from stores over tables that are in order, and leaves such stores
  induction requests generalizing console tables with
  | nil => exact ⟨rfl, tables, hstores, h⟩
  | cons request rest ih =>
    have hstore : console.state.stores.users = .memory tables.users := by
      rw [hstores]
      rfl
    have hsecurity := (respond_effect console hstore request).1
    obtain ⟨tables', hstores', h'⟩ := respond_orderly console hstores h request
    obtain ⟨hsecurity', hrest⟩ := ih (console.respond request).2 hstores' h'
    exact ⟨hsecurity'.trans hsecurity, hrest⟩

/-- **Stored users stay orderly.** If the stores that are put together over tables hold each
identity once, users with one role at most in an organization, no wildcard among the roles of users
and none among the default roles of organizations, in the primary database or in files, then they
do so after any run of requests. -/
theorem users_stay_orderly {settings : CatalogSettings} {tables : PrimaryTables} {stores : Stores}
    (hassembled : Stores.assemble settings tables.stores = .ok stores) {world : World}
    (horderly : Orderly settings tables world.disk) (security : SecuritySettings)
    (requests : List Request) :
    ∃ tables' stores' world',
      (Console.respondAll ⟨security, ⟨stores, world⟩⟩ requests).2
          = ⟨security, ⟨stores', world'⟩⟩
        ∧ Stores.assemble settings tables'.stores = .ok stores'
        ∧ Orderly settings tables' world'.disk := by
  obtain ⟨flagSources, flagServers, hstores, hassembles⟩ := assemble_over hassembled
  let premises : Premises := ⟨settings, flagSources, flagServers⟩
  have hover : stores = premises.storesOver tables := hstores
  obtain ⟨hsecurity, tables', hstores', horderly'⟩ :=
    @respondAll_orderly premises tables ⟨security, ⟨stores, world⟩⟩ hover horderly requests
  rcases hafter : (Console.respondAll ⟨security, ⟨stores, world⟩⟩ requests).2
    with ⟨security', ⟨stores', world'⟩⟩
  rw [hafter] at hsecurity hstores' horderly'
  cases hsecurity
  cases hstores'
  exact ⟨tables', _, world', rfl, hassembles tables'.stores, horderly'⟩

namespace Visitor

def organization : Organization := { id := "o", name := "", defaultRole := .viewer }

/-- The visitor and its organization; the directory for record files is empty. -/
def atHome : PrimaryTables :=
  { tables with organizations := Table.empty.insert organization }

/-- Settings with a directory for files. -/
def withFiles : CatalogSettings := { resourcesPath := some "r" }

def homeWorld : World := { world with disk := [("r", [])] }

/-- One user with one role, one organization and no files are in order. -/
theorem atHome_orderly : Orderly withFiles atHome homeWorld.disk where
  users stored hstored := by
    rw [List.mem_singleton.1 hstored]
    have hviewer : RoleName.viewer ≠ .wildcard := by decide
    exact .single hviewer rfl
  organizations stored hstored := by
    rw [List.mem_singleton.1 hstored]
    show RoleName.viewer ≠ .wildcard
    decide
  overlay path listing hpath hlisting stored hstored := by
    cases hpath
    cases hlisting
    obtain ⟨file, hfile⟩ := Folder.mem_listed.1 hstored
    cases hfile
  identities a ha b hb _ := by
    rw [List.mem_singleton.1 ha, List.mem_singleton.1 hb]

end Visitor

/-- The visitor logs in, asks for its organization to be deleted, and the stores are still in
order. -/
theorem users_stay_orderly_visitor : ∃ stores tables' stores' world',
    Stores.assemble Visitor.withFiles Visitor.atHome.stores = .ok stores
      ∧ Orderly Visitor.withFiles Visitor.atHome Visitor.homeWorld.disk
      ∧ (Console.respondAll ⟨Visitor.security, ⟨stores, Visitor.homeWorld⟩⟩
            [Visitor.visit .get, Visitor.asking .delete "/api/organizations/o"]).2
          = ⟨Visitor.security, ⟨stores', world'⟩⟩
      ∧ Stores.assemble Visitor.withFiles tables'.stores = .ok stores'
      ∧ Orderly Visitor.withFiles tables' world'.disk := by
  have hassembled : Stores.assemble Visitor.withFiles Visitor.atHome.stores = .ok _ := rfl
  obtain ⟨tables', stores', world', hafter, hassembled', horderly'⟩ :=
    users_stay_orderly hassembled Visitor.atHome_orderly Visitor.security
      [Visitor.visit .get, Visitor.asking .delete "/api/organizations/o"]
  exact ⟨_, tables', stores', world', hassembled, Visitor.atHome_orderly, hafter, hassembled',
    horderly'⟩

end TenantConsole
