import TenantConsole.Proofs.Scripts
import TenantConsole.Proofs.Tables

/-!
# What a call on a collection does

The reading calls leave the state alone. A writing call on a collection that lies in memory does to
its table what the access of the context allows: `Access.outcome` is that as a function on tables,
and `run_write_memory` says that the call is this function and nothing else. Below, nobody looks
through a scope or a view again; the access of a context decides, and the table tells.
-/

namespace TenantConsole

namespace Collection

variable {ρ : Type} [Record ρ]

/-- Reading a collection back after replacing it, and the other way round. -/
structure Lawful (collection : Collection ρ) : Prop where
  replace_store : ∀ stores, collection.replace stores (collection.store stores) = stores
  store_replace : ∀ stores store, collection.store (collection.replace stores store) = store

/-- Each collection has a store of its own, so what is put there is what is read back. -/
theorem users_lawful : users.Lawful := ⟨fun _ => rfl, fun _ _ => rfl⟩
theorem organizations_lawful : organizations.Lawful := ⟨fun _ => rfl, fun _ _ => rfl⟩
theorem config_lawful : config.Lawful := ⟨fun _ => rfl, fun _ _ => rfl⟩
theorem mappings_lawful : mappings.Lawful := ⟨fun _ => rfl, fun _ _ => rfl⟩
theorem sources_lawful : sources.Lawful := ⟨fun _ => rfl, fun _ _ => rfl⟩
theorem servers_lawful : servers.Lawful := ⟨fun _ => rfl, fun _ _ => rfl⟩
theorem dashboards_lawful : dashboards.Lawful := ⟨fun _ => rfl, fun _ _ => rfl⟩

/-! ## Reading -/

section Reading

variable (collection : Collection ρ) (context : Context) (state : State)

/-- Listing a collection reads it and leaves the state alone. -/
@[simp] theorem run_all :
    (collection.all context).run state = ((collection.readings context state).all, state) := rfl

@[simp] theorem run_get (id : String) :
    (collection.get context id).run state = ((collection.readings context state).get id, state) :=
  rfl

@[simp] theorem run_find (query : Query ρ) :
    (collection.find context query).run state
      = ((collection.readings context state).find query, state) := rfl

/-- A listing writes nothing. -/
theorem all_readOnly : (collection.all context).ReadOnly := .look _

theorem get_readOnly (id : String) : (collection.get context id).ReadOnly := .look _

theorem find_readOnly (query : Query ρ) : (collection.find context query).ReadOnly := .look _

omit [Record ρ] in
/-- A look-up that takes a missing record for an answer. -/
theorem orNone_readOnly {found : Except StoreError ρ} :
    (match found with
      | .ok record => pure (some record)
      | .error error =>
        if error.isNotFound then pure none else Script.fail error :
      StoreScript (Option ρ)).ReadOnly := by
  cases found with
  | ok record => exact .pure _
  | error error =>
    simp only
    split
    · exact .pure _
    · exact .fail _

/-- A look-up that may find nothing writes nothing. -/
theorem get?_readOnly (id : String) : (collection.get? context id).ReadOnly :=
  .bind (get_readOnly collection context id).attempt fun _ => orNone_readOnly

theorem find?_readOnly (query : Query ρ) : (collection.find? context query).ReadOnly :=
  .bind (find_readOnly collection context query).attempt fun _ => orNone_readOnly

variable {collection context state}

/-- What a look-up that may fail does find is a record of the collection. -/
theorem get?_eq_some {id : String} {record : ρ}
    (h : ((collection.get? context id).run state).1 = .ok (some record)) :
    (collection.readings context state).get id = .ok record := by
  simp only [get?, Script.run_bind, Script.run_attempt, run_get] at h
  -- a missing record is answered by `none`, any other error by the error, and neither is the answer
  -- given
  cases hget : (collection.readings context state).get id with
  | ok found => rw [hget] at h; cases h; rfl
  | error error =>
    rw [hget] at h
    simp only at h
    split at h <;> cases h

/-- A look-up that can only find a record or miss it. -/
theorem run_get?_of_readings {id : String} {found : Option ρ}
    (h : (collection.readings context state).get id = Readings.orMissing id found) :
    (collection.get? context id).run state = (.ok found, state) := by
  simp only [get?, Script.run_bind, Script.run_attempt, run_get, h]
  cases found <;> rfl

/-- Who reaches everything looks a record up in the table. -/
theorem run_get?_memory {table : Table ρ} (haccess : collection.access context = .full)
    (hstore : collection.store state.stores = .memory table) (id : String) :
    (collection.get? context id).run state = (.ok (table.get? id), state) := by
  refine run_get?_of_readings ?_
  unfold readings seen
  rw [haccess, hstore]
  exact Table.get_ofListing table id

end Reading

end Collection

/-! ## Writing to a table -/

variable {ρ α : Type} [Record ρ]

/-- A plan, carried out on the table that it was made for. -/
def Plan.carriedOut (plan : Plan ρ α) (table : Table ρ) (world : World) : Outcome (Table ρ) α :=
  match plan with
  | .refuse error => (.error error, table, world)
  | .add record answer =>
    let (written, table, world) := table.write (.add record) world
    (written.bind answer, table, world)
  | .update record answer =>
    let (written, table, world) := table.write (.update record) world
    (written.bind fun _ => answer, table, world)
  | .delete id answer =>
    let (written, table, world) := table.write (.delete id) world
    (written.bind fun _ => answer, table, world)

/-- What a write does to a table, for a caller with this access. -/
def Access.outcome (access : Access ρ) (write : Write ρ α) (table : Table ρ) (world : World) :
    Outcome (Table ρ) α :=
  match access with
  | .full => table.write write world
  | .within scope => (scope.plan (.ofListing (.ok table.rows)) write).carriedOut table world
  | .nothing => (.error (denied ρ write.kind), table, world)

namespace Collection

/-- A write is made to the store below whatever view the context has of it. -/
theorem run_write (collection : Collection ρ) (context : Context) (write : Write ρ α)
    (state : State) :
    (collection.write context write).run state
      = collection.change context state fun store world => store.write write world := rfl

/-- **A write to a collection in memory is the outcome of the caller's access.** -/
theorem run_write_memory {collection : Collection ρ} (hlawful : collection.Lawful)
    {context : Context} {state : State} {table : Table ρ}
    (hstore : collection.store state.stores = .memory table) (write : Write ρ α) :
    (collection.write context write).run state
      = (((collection.access context).outcome write table state.world).1,
        ⟨collection.replace state.stores
          (.memory ((collection.access context).outcome write table state.world).2.1),
          ((collection.access context).outcome write table state.world).2.2⟩) := by
  -- putting back the store that was taken out changes nothing, which is what a refusal does
  have hsame : collection.replace state.stores (.memory table) = state.stores := by
    rw [← hstore, hlawful.replace_store]
  rw [run_write]
  unfold change seen
  -- who sees everything writes to the table itself, who sees nothing is refused, and who sees a
  -- part has the write planned first
  cases haccess : collection.access context with
  | full => simp only [Access.view, hstore, Store.write, Access.outcome, Access.back]
  | nothing =>
    simp only [Access.view, Store.write, Access.outcome, Access.back, hstore, hsame]
  | within scope =>
    simp only [Access.view, hstore, Store.write, Store.readings, Access.outcome]
    cases hplan : scope.plan (.ofListing (.ok table.rows)) write with
    | refuse error => rfl
    | add record answer => rfl
    | update record answer => rfl
    | delete id answer => rfl

/-- Who reaches everything lists the rows. -/
theorem run_all_memory {collection : Collection ρ} {context : Context} {state : State}
    {table : Table ρ} (haccess : collection.access context = .full)
    (hstore : collection.store state.stores = .memory table) :
    (collection.all context).run state = (.ok table.rows, state) := by
  rw [run_all]
  unfold readings seen
  rw [haccess, hstore]
  rfl

/-- Who reaches everything can add a record that has no id, as long as the next id is free. -/
theorem run_add_fresh {collection : Collection ρ} (hlawful : collection.Lawful)
    (context : Context) {state : State} {table : Table ρ}
    (haccess : collection.access context = .full)
    (hstore : collection.store state.stores = .memory table) {record : ρ}
    (hlacks : Record.id record = "") (hfree : table.get? state.world.nextId = none) :
    (collection.add context record).run state
      = (.ok (Record.withId state.world.nextId record),
        ⟨collection.replace state.stores
            (.memory (table.insert (Record.withId state.world.nextId record))),
          { state.world with drawn := state.world.drawn + 1 }⟩) := by
  have hlacks' : World.lacksId record = true := by simp [World.lacksId, hlacks]
  have hfree' : table.contains (Record.id (Record.withId state.world.nextId record)) = false := by
    rw [Record.id_withId _ _ hlacks, Table.contains, hfree]
    rfl
  have hwrite : table.write (.add record) state.world
      = (.ok (Record.withId state.world.nextId record),
        table.insert (Record.withId state.world.nextId record),
        { state.world with drawn := state.world.drawn + 1 }) := by
    simp [Table.write, Table.add, World.named, World.afterNaming, hlacks', hfree']
  unfold Collection.add
  rw [run_write_memory hlawful hstore, haccess]
  simp only [Access.outcome, hwrite]

/-- Who reaches everything can rewrite a row that is there. -/
theorem run_update_held {collection : Collection ρ} (hlawful : collection.Lawful)
    (context : Context) {state : State} {table : Table ρ}
    (haccess : collection.access context = .full)
    (hstore : collection.store state.stores = .memory table) {record : ρ}
    (hheld : (table.get? (Record.id record)).isSome) :
    (collection.update context record).run state
      = (.ok (), ⟨collection.replace state.stores (.memory (table.insert record)),
          state.world⟩) := by
  have hwrite : table.write (.update record) state.world
      = (.ok (), table.insert record, state.world) := by
    simp only [Table.write, Table.contains, hheld, if_true]
  unfold Collection.update
  rw [run_write_memory hlawful hstore, haccess]
  simp only [Access.outcome, hwrite]

/-- Who reaches everything can delete a row that is there. -/
theorem run_delete_held {collection : Collection ρ} (hlawful : collection.Lawful)
    (context : Context) {state : State} {table : Table ρ}
    (haccess : collection.access context = .full)
    (hstore : collection.store state.stores = .memory table) {id : String}
    (hheld : (table.get? id).isSome) :
    (collection.delete context id).run state
      = (.ok (), ⟨collection.replace state.stores (.memory (table.erase id)), state.world⟩) := by
  have hwrite : table.write (.delete id) state.world = (.ok (), table.erase id, state.world) := by
    simp only [Table.write, Table.contains, hheld, if_true]
  unfold Collection.delete
  rw [run_write_memory hlawful hstore, haccess]
  simp only [Access.outcome, hwrite]

/-- Who reaches everything writes to the store itself. -/
theorem run_write_full {collection : Collection ρ} {context : Context} {state : State}
    {write : Write ρ α} {answer : Except StoreError α} {store : Store ρ} {world : World}
    (haccess : collection.access context = .full)
    (hwrite : (collection.store state.stores).write write state.world = (answer, store, world)) :
    (collection.write context write).run state
      = (answer, ⟨collection.replace state.stores store, world⟩) := by
  rw [run_write]
  unfold change seen
  simp only [haccess, Access.view, hwrite, Access.back]

/-- What a scope makes of a write is what happens to the store below it. -/
theorem run_write_within {collection : Collection ρ} {context : Context} {state : State}
    {scope : Scoping ρ} {write : Write ρ α} {answer : Except StoreError α} {store : Store ρ}
    {world : World} (haccess : collection.access context = .within scope)
    (hwrite : (Store.scoped scope (collection.store state.stores)).write write state.world
      = (answer, .scoped scope store, world)) :
    (collection.write context write).run state
      = (answer, ⟨collection.replace state.stores store, world⟩) := by
  rw [run_write]
  unfold change seen
  simp only [haccess, Access.view, hwrite, Access.back]

/-- A refusal by the scope reaches no store at all, be it in memory or not. -/
theorem run_write_refused {collection : Collection ρ} (hlawful : collection.Lawful)
    {context : Context} {state : State} {scope : Scoping ρ} {write : Write ρ α} {error : StoreError}
    (haccess : collection.access context = .within scope)
    (hplan : scope.plan ((collection.store state.stores).readings state.world.disk) write
      = .refuse error) :
    (collection.write context write).run state = (.error error, state) := by
  rw [run_write]
  unfold change seen
  simp only [haccess, Access.view, Store.write, hplan, Access.back, hlawful.replace_store]

/-- Who reaches nothing writes nothing. -/
theorem run_write_nothing {collection : Collection ρ} (hlawful : collection.Lawful)
    {context : Context} {state : State} (haccess : collection.access context = .nothing)
    (write : Write ρ α) :
    (collection.write context write).run state = (.error (denied ρ write.kind), state) := by
  rw [run_write]
  unfold change seen
  simp only [haccess, Access.view, Store.write, Access.back, hlawful.replace_store]

end Collection

/-! ## Owned records -/

theorem owner_named {ρ : Type} [Owned ρ] (record : ρ) (world : World) :
    Owned.owner (world.named record) = Owned.owner record := by
  unfold World.named
  split
  · exact Owned.owner_withId _ record
  · rfl

/-- The write as it reaches the store below an organization's scope. -/
def Write.stamped {ρ α : Type} [Owned ρ] (organization : String) : Write ρ α → Write ρ α
  | .add record => .add (Owned.withOwner organization record)
  | .update record => .update (Owned.withOwner organization record)
  | .delete id => .delete id

/-- What the organization has to read already for its write to be let through. -/
def Write.Admitted {ρ α : Type} [Owned ρ] (organization : String) (below : Readings ρ) :
    Write ρ α → Prop
  | .add _ => True
  | .update record =>
    ∃ found, below.get (Record.id record) = .ok found ∧ Owned.owner found = organization
  | .delete id => ∃ found, below.get id = .ok found ∧ Owned.owner found = organization

/-- A scope shows the organization its own record. -/
theorem viewed_get_own {ρ : Type} [Owned ρ] {organization id : String} {below : Readings ρ}
    {found : ρ} (hfound : below.get id = .ok found) (howner : Owned.owner found = organization) :
    (Scoping.viewed (Scoping.ownedView organization) below).get id = .ok found := by
  simp only [Scoping.viewed, hfound, Scoping.ownedView, howner, if_true]
  rfl

/-- Looking up an id through a scope fails, unless the record below is the organization's. -/
theorem viewed_get {ρ : Type} [Owned ρ] (organization id : String) (below : Readings ρ) :
    (∃ error, (Scoping.viewed (Scoping.ownedView organization) below).get id = .error error)
      ∨ ∃ found, below.get id = .ok found ∧ Owned.owner found = organization := by
  cases hget : below.get id with
  | error error => exact .inl ⟨error, by simp only [Scoping.viewed, hget]⟩
  | ok found =>
    by_cases howner : Owned.owner found = organization
    · exact .inr ⟨found, rfl, howner⟩
    · refine .inl ⟨.missing ρ id, ?_⟩
      simp only [Scoping.viewed, hget, Scoping.ownedView, howner, if_false]
      rfl

/-- A write that a scope lets through reaches the store below as it is stamped. -/
theorem write_owned_admitted {ρ α : Type} [Owned ρ] {organization : String} {store store' : Store ρ}
    {write : Write ρ α} {world world' : World} {answer : Except StoreError α}
    (hadmitted : write.Admitted organization (store.readings world.disk))
    (hwrite : store.write (write.stamped organization) world = (answer, store', world')) :
    (Store.scoped (.owned organization) store).write write world
      = (answer, .scoped (.owned organization) store', world') := by
  -- an addition is let through as it is; the other two are let through on what is found below
  cases write with
  | add record =>
    simp only [Store.write, Scoping.plan, Scoping.owned]
    rw [show store.write (.add (Owned.withOwner organization record)) world = _ from hwrite]
    cases answer <;> rfl
  | update record =>
    obtain ⟨found, hfound, howner⟩ := hadmitted
    simp only [Store.write, Scoping.plan, Scoping.owned, viewed_get_own hfound howner]
    rw [show store.write (.update (Owned.withOwner organization record)) world = _ from hwrite]
    cases answer <;> rfl
  | delete id =>
    obtain ⟨found, hfound, howner⟩ := hadmitted
    simp only [Store.write, Scoping.plan, Scoping.owned, viewed_get_own hfound howner]
    rw [show store.write (.delete id) world = _ from hwrite]
    cases answer <;> rfl

/-- **A scope of owned records refuses a write, or hands it down stamped.** -/
theorem write_owned {ρ α : Type} [Owned ρ] (organization : String) (store : Store ρ)
    (write : Write ρ α) (world : World) :
    (∃ error, (Store.scoped (.owned organization) store).write write world
        = (.error error, .scoped (.owned organization) store, world))
      ∨ write.Admitted organization (store.readings world.disk)
        ∧ ∀ answer store' world',
          store.write (write.stamped organization) world = (answer, store', world') →
          (Store.scoped (.owned organization) store).write write world
            = (answer, .scoped (.owned organization) store', world') := by
  -- an addition is never refused by the scope, and the other two are if the look-up is
  cases write with
  | add record => exact .inr ⟨trivial, fun _ _ _ => write_owned_admitted trivial⟩
  | update record =>
    rcases viewed_get organization (Record.id record) (store.readings world.disk) with
      ⟨error, hhidden⟩ | hfound
    · exact .inl ⟨error, by simp only [Store.write, Scoping.plan, Scoping.owned, hhidden]⟩
    · exact .inr ⟨hfound, fun _ _ _ => write_owned_admitted hfound⟩
  | delete id =>
    rcases viewed_get organization id (store.readings world.disk) with
      ⟨error, hhidden⟩ | hfound
    · exact .inl ⟨error, by simp only [Store.write, Scoping.plan, Scoping.owned, hhidden]⟩
    · exact .inr ⟨hfound, fun _ _ _ => write_owned_admitted hfound⟩

end TenantConsole
