import TenantConsole.Proofs.Confinement
import TenantConsole.Proofs.Listings

/-!
# What an organization learns of the others

An organization works on a table through its scope. `Table.ofOwner` is the table that is left when
the records of all others are taken away, and the statement of this module is that the organization
cannot tell the two apart: whatever it calls, the answers are those that the table of its own
records would give, and its own records become what they would become there
(`performAll_ofOwner`). So two tables that agree on them answer alike.

There is one way to notice a stranger, and it is left out by `Table.ClearFor`: an id is unique
across all organizations, so a record added under an id that a stranger holds is refused
(`perform_conflict`).
-/

namespace TenantConsole

open Readings

/-! ## Runs of calls on a store -/

/-- What a call answers. -/
inductive Answer (ρ : Type) where
  | records (answer : Except StoreError (List ρ))
  | record (answer : Except StoreError ρ)
  | done (answer : Except StoreError Unit)

section Runs

variable {ρ : Type} [Record ρ]

/-- One call on a store: its answer, and the store and the world after it. -/
def Operation.perform (store : Store ρ) (world : World) :
    Operation ρ → Answer ρ × Store ρ × World
  | .all => (.records (store.readings world.disk).all, store, world)
  | .get id => (.record ((store.readings world.disk).get id), store, world)
  | .add record =>
    let (answer, store, world) := store.write (.add record) world
    (.record answer, store, world)
  | .update record =>
    let (answer, store, world) := store.write (.update record) world
    (.done answer, store, world)
  | .delete id =>
    let (answer, store, world) := store.write (.delete id) world
    (.done answer, store, world)

/-- Makes one call after another. -/
def Store.performAll (store : Store ρ) (world : World) :
    List (Operation ρ) → List (Answer ρ) × Store ρ × World
  | [] => ([], store, world)
  | operation :: rest =>
    let (answer, store, world) := operation.perform store world
    let (answers, store, world) := store.performAll world rest
    (answer :: answers, store, world)

end Runs

/-! ## Tables by their look-ups -/

namespace Table

section Lookups

variable {ρ : Type} [Record ρ] {table other : Table ρ}

/-- A table is the rows that it has; their order goes without saying. -/
theorem eq_of_mem (h : ∀ row, row ∈ table.rows ↔ row ∈ other.rows) : table = other := by
  have hnodup (t : Table ρ) : t.rows.Nodup := by
    refine List.Pairwise.imp (fun {a b} hlt heq => ?_) t.sorted
    rw [heq] at hlt
    exact String.lt_irrefl _ hlt
  -- both are sorted by strictly growing ids, and one set has a single such order
  have hperm : table.rows.Perm other.rows :=
    (List.perm_ext_iff_of_nodup (hnodup table) (hnodup other)).2 h
  have hrows : table.rows = other.rows := by
    refine hperm.eq_of_pairwise (fun a b _ _ hab hba => ?_) table.sorted other.sorted
    exact absurd (String.lt_trans hab hba) (String.lt_irrefl _)
  cases table
  cases other
  cases hrows
  rfl

/-- A table is what its look-ups find. -/
theorem eq_of_get? (h : ∀ key, table.get? key = other.get? key) : table = other := by
  refine eq_of_mem fun row => ?_
  have hrow := h (Record.id row)
  constructor
  · intro hin
    exact (get?_eq_some_iff.1 (hrow.symm.trans (get?_of_mem hin))).1
  · intro hin
    exact (get?_eq_some_iff.1 (hrow.trans (get?_of_mem hin))).1

theorem contains_eq_true_iff {key : String} :
    table.contains key = true ↔ ∃ row ∈ table.rows, Record.id row = key := by
  unfold contains
  rw [Option.isSome_iff_exists]
  exact exists_congr fun row => get?_eq_some_iff

end Lookups

/-! ## The records of one owner -/

section Owner

variable {ρ : Type} [Owned ρ] {organization : String} {table : Table ρ}

/-- The table without the records of others. -/
def ofOwner (organization : String) (table : Table ρ) : Table ρ where
  rows := table.rows.filter fun row => Owned.owner row = organization
  sorted := table.sorted.filter _

/-- A record of somebody else has the id. -/
def HeldAbroad (organization : String) (table : Table ρ) (id : String) : Prop :=
  ∃ row ∈ table.rows, Record.id row = id ∧ Owned.owner row ≠ organization

/-- A table as the organization reaches it. -/
def within (organization : String) (table : Table ρ) : Store ρ :=
  .scoped (.owned organization) (.memory table)

/-- Looking into the owner's rows is looking into the table and hiding what belongs to others. -/
@[simp] theorem get?_ofOwner (key : String) :
    (table.ofOwner organization).get? key
      = (table.get? key).bind (Scoping.ownedView organization) := by
  refine Option.ext fun row => ?_
  have hview : (table.get? key).bind (Scoping.ownedView organization) = some row
      ↔ table.get? key = some row ∧ Owned.owner row = organization := by
    unfold Scoping.ownedView
    constructor
    · intro h
      obtain ⟨found, hfound, hseen⟩ := Option.bind_eq_some_iff.1 h
      split at hseen
      · cases hseen
        exact ⟨hfound, ‹_›⟩
      · cases hseen
    · rintro ⟨hfound, howner⟩
      simp [hfound, howner]
  rw [hview, get?_eq_some_iff, get?_eq_some_iff]
  simp only [ofOwner, List.mem_filter, decide_eq_true_eq]
  exact and_right_comm

/-- The owner sees its own rows as they are. -/
theorem ownedView_of_owner {row : ρ} (h : Owned.owner row = organization) :
    Scoping.ownedView organization row = some row := if_pos h

/-- A row of the owner's goes into its own rows as it goes into the table. It may take a stranger's
place there, which is why no id needs to be new. -/
theorem ofOwner_insert {row : ρ} (howner : Owned.owner row = organization) :
    (table.insert row).ofOwner organization = (table.ofOwner organization).insert row := by
  refine eq_of_get? fun key => ?_
  by_cases hkey : Record.id row = key
  · simp [hkey, ownedView_of_owner howner]
  · simp [hkey]

theorem ofOwner_erase (id : String) :
    (table.erase id).ofOwner organization = (table.ofOwner organization).erase id := by
  refine eq_of_get? fun key => ?_
  by_cases hkey : key = id
  · simp [hkey]
  · simp [hkey]

/-- Away from strangers, an id is taken exactly if the owner has taken it. -/
theorem contains_ofOwner {id : String} (hclear : ¬ table.HeldAbroad organization id) :
    (table.ofOwner organization).contains id = table.contains id := by
  rw [Bool.eq_iff_iff, contains_eq_true_iff, contains_eq_true_iff]
  constructor
  · rintro ⟨row, hrow, hid⟩
    exact ⟨row, (List.mem_filter.1 hrow).1, hid⟩
  · rintro ⟨row, hrow, hid⟩
    -- a row of that id that is not the owner's would be a stranger's
    have howner : Owned.owner row = organization :=
      Decidable.byContradiction fun hother => hclear ⟨row, hrow, hid, hother⟩
    exact ⟨row, List.mem_filter.2 ⟨hrow, by simpa using howner⟩, hid⟩

/-- What the owner puts in holds no id abroad. -/
theorem heldAbroad_insert {row : ρ} (howner : Owned.owner row = organization) {id : String}
    (h : (table.insert row).HeldAbroad organization id) : table.HeldAbroad organization id := by
  obtain ⟨other, hother, hid, habroad⟩ := h
  rcases mem_putRow hother with rfl | hmem
  · exact absurd howner habroad
  · exact ⟨other, hmem, hid, habroad⟩

theorem heldAbroad_erase {key id : String} (h : (table.erase key).HeldAbroad organization id) :
    table.HeldAbroad organization id := by
  obtain ⟨other, hother, hid, habroad⟩ := h
  exact ⟨other, (List.mem_filter.1 hother).1, hid, habroad⟩

end Owner

end Table

/-! ## Drawn ids -/

section Naming

variable {ρ : Type} [Owned ρ] (organization : String) (record : ρ) (world : World)

/-- A record keeps the id that it brings, and is given the world's next one otherwise. -/
theorem id_named : Record.id (world.named record)
    = if Record.id record = "" then world.nextId else Record.id record := by
  unfold World.named World.lacksId
  by_cases hid : Record.id record = ""
  · simp [hid, Record.id_withId]
  · simp [hid]

/-- An owner of its own changes nothing about the id of a record. -/
theorem id_named_withOwner : Record.id (world.named (Owned.withOwner organization record))
    = Record.id (world.named record) := by
  rw [id_named, id_named, Owned.id_withOwner]

theorem afterNaming_withOwner :
    world.afterNaming (Owned.withOwner organization record) = world.afterNaming record := by
  unfold World.afterNaming World.lacksId
  rw [Owned.id_withOwner]

end Naming

/-! ## One call -/

namespace Table

section Reading

variable {ρ : Type} [Owned ρ] {organization : String} {table : Table ρ}

/-- Taking strangers away twice is taking them away once. -/
@[simp] theorem ofOwner_ofOwner :
    (table.ofOwner organization).ofOwner organization = table.ofOwner organization := by
  refine eq_of_get? fun key => ?_
  rw [get?_ofOwner, get?_ofOwner]
  cases table.get? key with
  | none => rfl
  | some row =>
    by_cases howner : Owned.owner row = organization
    · simp [ownedView_of_owner howner]
    · simp [Scoping.ownedView, howner]

theorem within_all (disk : Disk) :
    ((table.within organization).readings disk).all = .ok (table.ofOwner organization).rows := by
  show Except.ok (table.rows.filterMap (Scoping.ownedView organization)) = _
  rw [filterMap_ownedView]
  rfl

theorem within_get (disk : Disk) (id : String) :
    ((table.within organization).readings disk).get id
      = orMissing id ((table.ofOwner organization).get? id) := by
  rw [get?_ofOwner]
  simp only [within, Store.readings, Scoping.owned, Scoping.viewed, get_ofListing]
  cases table.get? id <;> rfl

end Reading

section Writing

variable {ρ : Type} [Owned ρ] {organization : String} {table : Table ρ} {world : World}

/-- A record is added under the owner's name, unless its id is taken. -/
theorem within_add (record : ρ) :
    (table.within organization).write (.add record) world
      = if table.contains (Record.id (world.named record)) then
          (.error (.taken ρ (Record.id (world.named record))), table.within organization,
            world.afterNaming record)
        else
          (.ok (world.named (Owned.withOwner organization record)),
            (table.insert (world.named (Owned.withOwner organization record))).within organization,
            world.afterNaming record) := by
  simp only [within, Store.write, Scoping.plan, Scoping.owned, Table.write, Table.add,
    id_named_withOwner, afterNaming_withOwner]
  split <;> rfl

/-- What the owner finds is in the table. -/
theorem contains_of_ofOwner {id : String} {row : ρ}
    (h : (table.ofOwner organization).get? id = some row) : table.contains id = true := by
  obtain ⟨hrow, hid⟩ := get?_eq_some_iff.1 h
  exact contains_eq_true_iff.2 ⟨row, (List.mem_filter.1 hrow).1, hid⟩

/-- What the owner does not have is missing for it, and what it has gives way. -/
theorem within_update (record : ρ) :
    (table.within organization).write (.update record) world
      = match (table.ofOwner organization).get? (Record.id record) with
        | none => (.error (.missing ρ (Record.id record)), table.within organization, world)
        | some _ =>
          (.ok (), (table.insert (Owned.withOwner organization record)).within organization,
            world) := by
  have hseen : (Scoping.viewed (Scoping.ownedView organization)
      ((Store.memory table).readings world.disk)).get (Record.id record) = _ :=
    within_get world.disk (Record.id record)
  cases hfound : (table.ofOwner organization).get? (Record.id record) with
  | none =>
    have hplan : (Scoping.owned organization).plan ((Store.memory table).readings world.disk)
        (.update record) = .refuse (.missing ρ (Record.id record)) := by
      simp only [Scoping.plan, Scoping.owned, hseen, hfound, orMissing]
    simp only [within, Store.write, hplan]
  | some row =>
    have hplan : (Scoping.owned organization).plan ((Store.memory table).readings world.disk)
        (.update record) = .update (Owned.withOwner organization record) (.ok ()) := by
      simp only [Scoping.plan, Scoping.owned, hseen, hfound, orMissing]
    simp only [within, Store.write, hplan, Table.write, Owned.id_withOwner,
      contains_of_ofOwner hfound, if_true]
    rfl

/-- What the owner does not have is missing for it, and what it has goes. -/
theorem within_delete (id : String) :
    (table.within organization).write (.delete id) world
      = match (table.ofOwner organization).get? id with
        | none => (.error (.missing ρ id), table.within organization, world)
        | some _ => (.ok (), (table.erase id).within organization, world) := by
  have hseen : (Scoping.viewed (Scoping.ownedView organization)
      ((Store.memory table).readings world.disk)).get id = _ := within_get world.disk id
  cases hfound : (table.ofOwner organization).get? id with
  | none =>
    have hplan : (Scoping.owned organization).plan ((Store.memory table).readings world.disk)
        (.delete id) = .refuse (.missing ρ id) := by
      simp only [Scoping.plan, Scoping.owned, hseen, hfound, orMissing]
    simp only [within, Store.write, hplan]
  | some row =>
    have hplan : (Scoping.owned organization).plan ((Store.memory table).readings world.disk)
        (.delete id) = .delete id (.ok ()) := by
      simp only [Scoping.plan, Scoping.owned, hseen, hfound, orMissing]
    simp only [within, Store.write, hplan, Table.write, contains_of_ofOwner hfound, if_true]
    rfl

end Writing

end Table

section Steps

variable {ρ : Type} [Owned ρ] {organization : String} {table : Table ρ} {world : World}

/-- What a call through the scope comes to: the same answer and the same drawn ids as over the
owner's records alone, these records as they are left there, and no id held abroad that was not. -/
structure Secluded (organization : String) (table : Table ρ) (world : World)
    (operation : Operation ρ) (answer : Answer ρ) (after : Table ρ) (world' : World) : Prop where
  whole : operation.perform (table.within organization) world
    = (answer, after.within organization, world')
  alone : operation.perform ((table.ofOwner organization).within organization) world
    = (answer, (after.ofOwner organization).within organization, world')
  abroad : ∀ id, after.HeldAbroad organization id → table.HeldAbroad organization id
  ids : world'.ids = world.ids
  drawn : world.drawn ≤ world'.drawn

/-- The ids to be drawn are settled beforehand; naming a record only moves on in them. -/
theorem afterNaming_ids (world : World) (record : ρ) :
    (world.afterNaming record).ids = world.ids := by
  unfold World.afterNaming
  split <;> rfl

/-- Ids are drawn one after the other, never twice. -/
theorem drawn_le_afterNaming (world : World) (record : ρ) :
    world.drawn ≤ (world.afterNaming record).drawn := by
  unfold World.afterNaming
  split
  · exact Nat.le_succ _
  · exact Nat.le_refl _

/-- A call that leaves the records alone. -/
theorem Secluded.unchanged {operation : Operation ρ} {answer : Answer ρ} {world' : World}
    (hwhole : operation.perform (table.within organization) world
      = (answer, table.within organization, world'))
    (halone : operation.perform ((table.ofOwner organization).within organization) world
      = (answer, (table.ofOwner organization).within organization, world'))
    (hids : world'.ids = world.ids) (hdrawn : world.drawn ≤ world'.drawn) :
    Secluded organization table world operation answer table world' :=
  ⟨hwhole, halone, fun _ h => h, hids, hdrawn⟩

/-- An addition whose id is no stranger's is answered and carried out as among the owner's rows
alone. -/
theorem secluded_add (record : ρ)
    (hclear : ¬ table.HeldAbroad organization (Record.id (world.named record))) :
    ∃ answer after world',
      Secluded organization table world (.add record) answer after world' := by
  have hids := afterNaming_ids world record
  have hdrawn := drawn_le_afterNaming world record
  have hsame := Table.contains_ofOwner hclear
  have howner : Owned.owner (world.named (Owned.withOwner organization record))
      = organization := by
    rw [owner_named, Owned.owner_withOwner]
  -- taken in the table is taken among the owner's rows, so both additions are refused or none is
  cases htaken : table.contains (Record.id (world.named record)) with
  | true =>
    rw [htaken] at hsame
    refine ⟨.record (.error (.taken ρ (Record.id (world.named record)))), table,
      world.afterNaming record, .unchanged ?_ ?_ hids hdrawn⟩
    · simp only [Operation.perform, Table.within_add, htaken, if_true]
    · simp only [Operation.perform, Table.within_add, hsame, if_true]
  | false =>
    rw [htaken] at hsame
    refine ⟨.record (.ok (world.named (Owned.withOwner organization record))),
      table.insert (world.named (Owned.withOwner organization record)), world.afterNaming record,
      ?_, ?_, fun id => Table.heldAbroad_insert howner, hids, hdrawn⟩
    · simp only [Operation.perform, Table.within_add, htaken, Bool.false_eq_true, if_false]
    · simp only [Operation.perform, Table.within_add, hsame, Bool.false_eq_true, if_false,
        Table.ofOwner_insert howner]

/-- An update needs no condition on the id: of a record that is not the owner's it finds none. -/
theorem secluded_update (record : ρ) :
    ∃ answer after world',
      Secluded organization table world (.update record) answer after world' := by
  have howner := Owned.owner_withOwner organization record
  -- on either side the same row decides, since the owner's rows have no strangers to hide
  cases hfound : (table.ofOwner organization).get? (Record.id record) with
  | none =>
    refine ⟨.done (.error (.missing ρ (Record.id record))), table, world,
      .unchanged ?_ ?_ rfl (Nat.le_refl _)⟩
    · simp only [Operation.perform, Table.within_update, hfound]
    · simp only [Operation.perform, Table.within_update, Table.ofOwner_ofOwner, hfound]
  | some row =>
    refine ⟨.done (.ok ()), table.insert (Owned.withOwner organization record), world,
      ?_, ?_, fun id => Table.heldAbroad_insert howner, rfl, Nat.le_refl _⟩
    · simp only [Operation.perform, Table.within_update, hfound]
    · simp only [Operation.perform, Table.within_update, Table.ofOwner_ofOwner, hfound,
        Table.ofOwner_insert howner]

/-- A deletion needs no condition on the id either, for the same reason. -/
theorem secluded_delete (id : String) :
    ∃ answer after world',
      Secluded organization table world (.delete id) answer after world' := by
  cases hfound : (table.ofOwner organization).get? id with
  | none =>
    refine ⟨.done (.error (.missing ρ id)), table, world, .unchanged ?_ ?_ rfl (Nat.le_refl _)⟩
    · simp only [Operation.perform, Table.within_delete, hfound]
    · simp only [Operation.perform, Table.within_delete, Table.ofOwner_ofOwner, hfound]
  | some row =>
    refine ⟨.done (.ok ()), table.erase id, world, ?_, ?_, fun other => Table.heldAbroad_erase,
      rfl, Nat.le_refl _⟩
    · simp only [Operation.perform, Table.within_delete, hfound]
    · simp only [Operation.perform, Table.within_delete, Table.ofOwner_ofOwner, hfound,
        Table.ofOwner_erase]

/-- **One call.** An organization that runs into no stranger's id is answered as if its own records
were all there is. -/
theorem perform_secluded (operation : Operation ρ)
    (hclear : ∀ record, operation = .add record →
      ¬ table.HeldAbroad organization (Record.id (world.named record))) :
    ∃ answer after world',
      Secluded organization table world operation answer after world' := by
  cases operation with
  | all =>
    refine ⟨.records (.ok (table.ofOwner organization).rows), table, world,
      .unchanged ?_ ?_ rfl (Nat.le_refl _)⟩
    · simp only [Operation.perform, Table.within_all]
    · simp only [Operation.perform, Table.within_all, Table.ofOwner_ofOwner]
  | get id =>
    refine ⟨.record (orMissing id ((table.ofOwner organization).get? id)), table, world,
      .unchanged ?_ ?_ rfl (Nat.le_refl _)⟩
    · simp only [Operation.perform, Table.within_get]
    · simp only [Operation.perform, Table.within_get, Table.ofOwner_ofOwner]
  | add record => exact secluded_add record (hclear record rfl)
  | update record => exact secluded_update record
  | delete id => exact secluded_delete id

end Steps

/-! ## A run of calls -/

section Runs

variable {ρ : Type} [Owned ρ] {organization : String} {table other : Table ρ} {world : World}
  {operations : List (Operation ρ)}

/-- A run of calls meets no id that is held abroad: neither one that an addition names nor one that
is drawn. -/
structure Table.ClearFor (organization : String) (table : Table ρ)
    (operations : List (Operation ρ)) (world : World) : Prop where
  named : ∀ record, .add record ∈ operations → Record.id record ≠ "" →
    ¬ table.HeldAbroad organization (Record.id record)
  drawn : ∀ n, world.drawn < n → ¬ table.HeldAbroad organization (world.ids n)

/-- No record of the run is stored under a stranger's id, whether it brings its id or has one
drawn. -/
theorem Table.ClearFor.id_named (h : table.ClearFor organization operations world) {record : ρ}
    (hadd : .add record ∈ operations) :
    ¬ table.HeldAbroad organization (Record.id (world.named record)) := by
  rw [TenantConsole.id_named]
  split
  · exact h.drawn _ (Nat.lt_succ_self _)
  · exact h.named record hadd ‹_›

/-- What is left of a run stays clear of strangers: they hold no new ids, and the ids still to be
drawn are among those that were to be drawn before. -/
theorem Table.ClearFor.tail {operation : Operation ρ} {after : Table ρ} {world' : World}
    (h : table.ClearFor organization (operation :: operations) world)
    (habroad : ∀ id, after.HeldAbroad organization id → table.HeldAbroad organization id)
    (hids : world'.ids = world.ids) (hdrawn : world.drawn ≤ world'.drawn) :
    after.ClearFor organization operations world' where
  named record hadd hid habroad' :=
    h.named record (List.mem_cons_of_mem operation hadd) hid (habroad _ habroad')
  drawn n hn habroad' := by
    -- an id drawn later in what is left is drawn later in the whole
    rw [hids] at habroad'
    exact h.drawn n (Nat.lt_of_le_of_lt hdrawn hn) (habroad _ habroad')

/-- **A run of calls.** -/
theorem performAll_ofOwner (hclear : table.ClearFor organization operations world) :
    ∃ (answers : List (Answer ρ)) (after : Table ρ) (world' : World),
      (table.within organization).performAll world operations
          = (answers, after.within organization, world')
        ∧ ((table.ofOwner organization).within organization).performAll world operations
          = (answers, (after.ofOwner organization).within organization, world') := by
  -- what is held abroad never grows, so the run stays clear of it
  induction operations generalizing table world with
  | nil => exact ⟨[], table, world, rfl, rfl⟩
  | cons operation rest ih =>
    obtain ⟨answer, middle, world', hstep⟩ := perform_secluded operation fun record hrecord =>
      hclear.id_named (hrecord ▸ List.mem_cons_self)
    obtain ⟨answers, after, world'', hwhole, halone⟩ :=
      ih (hclear.tail hstep.abroad hstep.ids hstep.drawn)
    refine ⟨answer :: answers, after, world'', ?_, ?_⟩
    · simp only [Store.performAll, hstep.whole, hwhole]
    · simp only [Store.performAll, hstep.alone, halone]

/-- A record under an id that is held abroad is refused, and nothing changes. -/
theorem perform_conflict {record row : ρ} (hrow : row ∈ table.rows)
    (hid : Record.id (world.named record) = Record.id row) :
    (Operation.add record).perform (table.within organization) world
      = (.record (.error (.taken ρ (Record.id row))), table.within organization,
        world.afterNaming record) := by
  have htaken : table.contains (Record.id row) = true :=
    Table.contains_eq_true_iff.2 ⟨row, hrow, rfl⟩
  simp only [Operation.perform, Table.within_add, hid, htaken, if_true]

/-- **An organization learns nothing of the others.** Two tables with the same records of an
organization give it the same answers, errors and listings included, to any run of calls that meets
no stranger's id, and have the same records of it again in the end. An addition that meets one is a
conflict and leaves everything as it was. -/
theorem answers_alike (hsame : table.ofOwner organization = other.ofOwner organization)
    (hclear : table.ClearFor organization operations world)
    (hclear' : other.ClearFor organization operations world) :
    (∃ (answers : List (Answer ρ)) (after after' : Table ρ) (world' : World),
      (table.within organization).performAll world operations
          = (answers, after.within organization, world')
        ∧ (other.within organization).performAll world operations
          = (answers, after'.within organization, world')
        ∧ after.ofOwner organization = after'.ofOwner organization)
      ∧ ∀ (table : Table ρ) (world : World) (record row : ρ), row ∈ table.rows →
          Owned.owner row ≠ organization → Record.id (world.named record) = Record.id row →
          (Operation.add record).perform (table.within organization) world
            = (.record (.error (.taken ρ (Record.id row))), table.within organization,
              world.afterNaming record) := by
  refine ⟨?_, fun table world record row hrow _ hid => perform_conflict hrow hid⟩
  obtain ⟨answers, after, world', hwhole, halone⟩ := performAll_ofOwner hclear
  obtain ⟨answers', after', world'', hwhole', halone'⟩ := performAll_ofOwner hclear'
  -- both runs are the run over the records that the tables have in common
  rw [hsame, halone'] at halone
  obtain ⟨hanswers, hstores, hworlds⟩ : answers' = answers
      ∧ (after'.ofOwner organization).within organization
        = (after.ofOwner organization).within organization ∧ world'' = world' := by
    simpa only [Prod.mk.injEq] using halone
  have hrows : after.ofOwner organization = after'.ofOwner organization := by
    injection hstores with _ hmemory
    injection hmemory with htables
    exact htables.symm
  exact ⟨answers, after, after', world', hwhole, by rw [hwhole', hanswers, hworlds], hrows⟩

end Runs

namespace Strangers

def ours : Source := { id := "ours", name := "", url := "", organization := "a" }

def theirs : Source := { id := "theirs", name := "", url := "", organization := "b" }

def alone : Table Source := Table.empty.insert ours

def crowded : Table Source := alone.insert theirs

/-- Drawn ids are rows of one letter. -/
def world : World := { ids := fun n => String.ofList (List.replicate n 'x') }

/-- The stranger's record is laid hands on, and records are added. -/
def operations : List (Operation Source) :=
  [.all, .get "theirs", .update { theirs with organization := "a" }, .delete "theirs",
   .add { ours with id := "" }, .add { ours with id := "more" }, .all]

/-- Neither source has the id of the record that is added, and ids that the world draws are made of
the letter `x` only. -/
theorem clear {table : Table Source} (h : ∀ row ∈ table.rows, row = ours ∨ row = theirs) :
    table.ClearFor "a" operations world where
  named record hadd hid := by
    rintro ⟨row, hrow, hrowid, -⟩
    have hrecord : record = { ours with id := "more" } := by
      simp only [operations, List.mem_cons, List.not_mem_nil, Operation.add.injEq, reduceCtorEq,
        false_or, or_false] at hadd
      rcases hadd with rfl | rfl
      · exact absurd rfl hid
      · rfl
    subst hrecord
    rcases h row hrow with rfl | rfl
    · exact absurd hrowid (by decide)
    · exact absurd hrowid (by decide)
  drawn n hn := by
    rintro ⟨row, hrow, hrowid, habroad⟩
    -- at least one id has been drawn before this one, so it has a first letter to compare
    obtain ⟨m, rfl⟩ := Nat.exists_eq_succ_of_ne_zero (Nat.ne_of_gt hn)
    have hletters : (Record.id row).toList = List.replicate (m + 1) 'x' := by
      rw [hrowid]
      exact String.toList_ofList
    rcases h row hrow with rfl | rfl
    · exact habroad rfl
    · have hfirst : some 't' = some 'x' := congrArg List.head? hletters
      exact absurd hfirst (by decide)

end Strangers

open Strangers

/-- Beside a source of another organization and without it, the calls of the first one are answered
alike. -/
theorem answers_alike_strangers :
    alone.ofOwner "a" = crowded.ofOwner "a"
      ∧ alone.ClearFor "a" operations world ∧ crowded.ClearFor "a" operations world
      ∧ ∃ (answers : List (Answer Source)) (after after' : Table Source) (world' : World),
        (alone.within "a").performAll world operations = (answers, after.within "a", world')
          ∧ (crowded.within "a").performAll world operations
            = (answers, after'.within "a", world')
          ∧ after.ofOwner "a" = after'.ofOwner "a" := by
  have hsame : alone.ofOwner "a" = crowded.ofOwner "a" := rfl
  have halone : alone.ClearFor "a" operations world := clear fun row hrow =>
    .inl (List.mem_singleton.1 hrow)
  have hcrowded : crowded.ClearFor "a" operations world := clear fun row hrow => by
    simpa using (show row ∈ [ours, theirs] from hrow)
  exact ⟨hsame, halone, hcrowded, (answers_alike hsame halone hcrowded).1⟩

end TenantConsole
