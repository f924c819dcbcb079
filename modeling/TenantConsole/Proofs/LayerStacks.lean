import TenantConsole.Proofs.Chains
import TenantConsole.Proofs.Noninterference

/-!
# Chains as stacks of maps

A chain reads and writes by different rules. It reads from the first layer that finds the id; it
offers a write to one layer after the other, and a refusal ends the search or passes the write on.
Over some tables, with lists below them that cannot be changed, the two rules come to the same: the
chain is a stack of maps, read from the top down, where a write changes the map that it is read
from.

* **`Stack.get_store`**: what is read under an id is the first of the records that the layers hold
  under it (`Stack.held`).
* **`Table.write_eq`**: a table takes a write or refuses it, by whether the write fits.
* **`Stack.write_store`**: one write. If no table takes it, every layer stays as it is; otherwise
  one table changes, the first one for a new record and the first one with the id for any other
  write (`Stack.Takes`).
* **`Stack.performAll_settles`**: the same after any calls that have gone before.
-/

namespace TenantConsole

open Readings

variable {ρ α : Type} [Record ρ]

/-! ## Writes and single tables -/

namespace Write

/-- The id that a write is about, for a new record the one that it is going to have. -/
def target (world : World) : Write ρ α → String
  | .add record => Record.id (world.named record)
  | .update record => Record.id record
  | .delete id => id

/-- The record that a write puts under its id. -/
def record? (world : World) : Write ρ α → Option ρ
  | .add record => some (world.named record)
  | .update record => some record
  | .delete _ => none

/-- What a write is answered with if it goes through. -/
def answer (world : World) : Write ρ α → α
  | .add record => world.named record
  | .update _ => ()
  | .delete _ => ()

/-- Whether a table takes a write: a new record where its id is free, any other write where there is
a record with the id. -/
def FitsIn (world : World) (table : Table ρ) : Write ρ α → Prop
  | .add record => table.get? (Record.id (world.named record)) = none
  | .update record => (table.get? (Record.id record)).isSome
  | .delete id => (table.get? id).isSome

theorem id_of_record? {world : World} {write : Write ρ α} {record : ρ}
    (h : write.record? world = some record) : Record.id record = write.target world := by
  cases write <;> cases h <;> rfl

end Write

namespace Table

/-- The table with what a write puts in, or without what it takes out. -/
def after (table : Table ρ) (write : Write ρ α) (world : World) : Table ρ :=
  match write.record? world with
  | some record => table.insert record
  | none => table.erase (write.target world)

theorem get?_after (table : Table ρ) (write : Write ρ α) (world : World) (id : String) :
    (table.after write world).get? id
      = if id = write.target world then write.record? world else table.get? id := by
  unfold after
  cases hrecord : write.record? world with
  | none => rw [get?_erase]
  | some record =>
    rw [get?_insert, Write.id_of_record? hrecord]
    by_cases hid : id = write.target world
    · rw [if_pos hid.symm, if_pos hid]
    · rw [if_neg (Ne.symm hid), if_neg hid]

/-- **A table takes the writes that fit in.** What it refuses leaves it as it was; an update or a
deletion is then passed on to the layer below, a new record is not. -/
theorem write_eq (table : Table ρ) (write : Write ρ α) (world : World) :
    ∃ world' : World, world'.disk = world.disk
      ∧ (write.FitsIn world table
          ∧ table.write write world = (.ok (write.answer world), table.after write world, world')
        ∨ ¬ write.FitsIn world table
          ∧ ∃ error, table.write write world = (.error error, table, world')
            ∧ (error.fallsThrough = true ↔ write.kind ≠ .add)
            ∧ (write.kind ≠ .add → world' = world)) := by
  -- an addition fits where the id is free, the other two where it is held
  cases write with
  | add record =>
    refine ⟨world.afterNaming record, afterNaming_disk world record, ?_⟩
    cases hheld : table.get? (Record.id (world.named record)) with
    | none =>
      refine .inl ⟨hheld, ?_⟩
      rw [write_add_free hheld]
      rfl
    | some row =>
      refine .inr ⟨by simp [Write.FitsIn, hheld], .taken ρ (Record.id (world.named record)), ?_⟩
      refine ⟨write_add_taken hheld, ?_, ?_⟩
      · simp [StoreError.taken, StoreError.fallsThrough, Write.kind]
      · simp [Write.kind]
  | update record =>
    refine ⟨world, rfl, ?_⟩
    cases hheld : table.contains (Record.id record) with
    | true => exact .inl ⟨hheld, by simp only [write, hheld, if_true]; rfl⟩
    | false =>
      refine .inr ⟨fun h => Bool.false_ne_true (hheld.symm.trans h),
        .missing ρ (Record.id record), ?_, ?_, fun _ => rfl⟩
      · simp only [write, hheld, Bool.false_eq_true, if_false]
      · simp [StoreError.missing, StoreError.fallsThrough, Write.kind]
  | delete id =>
    refine ⟨world, rfl, ?_⟩
    cases hheld : table.contains id with
    | true => exact .inl ⟨hheld, by simp only [write, hheld, if_true]; rfl⟩
    | false =>
      refine .inr ⟨fun h => Bool.false_ne_true (hheld.symm.trans h), .missing ρ id, ?_, ?_,
        fun _ => rfl⟩
      · simp only [write, hheld, Bool.false_eq_true, if_false]
      · simp [StoreError.missing, StoreError.fallsThrough, Write.kind]

end Table

/-! ## Stacks -/

/-- One or more tables over lists that cannot be changed, each of them a layer with a name; the
highest comes first. A list has a label besides. -/
structure Stack (ρ : Type) [Record ρ] where
  tables : List (String × Table ρ)
  lists : List (String × String × List ρ)
  based : tables ≠ []

namespace Stack

/-- The layers of some lists. -/
def listLayers (lists : List (String × String × List ρ)) : Layers ρ :=
  .ofList (lists.map fun list => (list.1, .fixed list.2.1 list.2.2))

/-- Tables on top of other layers. -/
def tableLayers : List (String × Table ρ) → Layers ρ → Layers ρ
  | [], below => below
  | layer :: rest, below => .cons layer.1 (.memory layer.2) (tableLayers rest below)

/-- The stack as the store of a catalog. -/
def store (catalog : String) (stack : Stack ρ) : Store ρ :=
  .layered catalog (tableLayers stack.tables (listLayers stack.lists))

/-- What the layers hold under an id, one record for each layer that has it, from the top down. -/
def held (stack : Stack ρ) (id : String) : List ρ :=
  stack.tables.filterMap (fun layer => layer.2.get? id)
    ++ stack.lists.filterMap fun list => firstWithId id list.2.2

/-- The same layers, apart from what the tables hold. -/
structure SameLayers (one other : Stack ρ) : Prop where
  names : one.tables.map Prod.fst = other.tables.map Prod.fst
  lists : one.lists = other.lists

theorem inert_listLayers (lists : List (String × String × List ρ)) : (listLayers lists).Inert := by
  induction lists with
  | nil => exact Layers.inert_nil
  | cons list rest ih => exact Layers.inert_fixed ih

/-! ### Reading -/

/-- Of lists, the first that has the id is read. -/
theorem firstFound_listLayers (lists : List (String × String × List ρ)) (id : String)
    (disk : Disk) :
    (((listLayers lists).readings disk).findSome? fun layer => (layer.get id).toOption)
      = (lists.filterMap fun list => firstWithId id list.2.2).head? := by
  -- list by list, from the top
  induction lists with
  | nil => rfl
  | cons list rest ih =>
    have hget : (((Store.fixed list.2.1 list.2.2).readings disk).get id).toOption
        = firstWithId id list.2.2 := toOption_orMissing id _
    rw [List.filterMap_cons]
    show (_ :: (listLayers rest).readings disk).findSome? _ = _
    rw [List.findSome?_cons, hget]
    cases firstWithId id list.2.2 with
    | some record => rfl
    | none => exact ih

/-- Tables are read before what lies below them. -/
theorem firstFound_tableLayers (tables : List (String × Table ρ)) (below : Layers ρ) (id : String)
    (disk : Disk) :
    (((tableLayers tables below).readings disk).findSome? fun layer => (layer.get id).toOption)
      = (tables.filterMap fun layer => layer.2.get? id).head?.or
          ((below.readings disk).findSome? fun layer => (layer.get id).toOption) := by
  -- table by table, from the top
  induction tables with
  | nil => rfl
  | cons layer rest ih =>
    have hget : (((Store.memory layer.2).readings disk).get id).toOption = layer.2.get? id :=
      toOption_orMissing id _
    rw [List.filterMap_cons]
    show (_ :: (tableLayers rest below).readings disk).findSome? _ = _
    rw [List.findSome?_cons, hget]
    cases layer.2.get? id with
    | some record => rfl
    | none => exact ih

/-- **What is read is the first of what the layers hold.** -/
theorem get_store (catalog : String) (stack : Stack ρ) (disk : Disk) (id : String) :
    ((stack.store catalog).readings disk).get id = orMissing id (stack.held id).head? := by
  show orMissing id (List.findSome? _ _) = _
  rw [firstFound_tableLayers, firstFound_listLayers, held, List.head?_append]

/-! ### Writing -/

/-- A write that no table takes. A new record is offered to the first table only. -/
def NoPlace (world : World) (write : Write ρ α) (tables : List (String × Table ρ)) : Prop :=
  if write.kind = .add then
    ∃ layer ∈ tables.head?, (layer.2.get? (write.target world)).isSome
  else ∀ layer ∈ tables, layer.2.get? (write.target world) = none

/-- The table that takes a write, between those above it, which do not have the id, and those
below. -/
structure Place (world : World) (write : Write ρ α) (tables upper : List (String × Table ρ))
    (layer : String × Table ρ) (lower : List (String × Table ρ)) : Prop where
  split : tables = upper ++ layer :: lower
  fits : write.FitsIn world layer.2
  first : write.kind = .add → upper = []
  passed : ∀ layer ∈ upper, layer.2.get? (write.target world) = none

/-- A write other than a new record fits in where its id is found. -/
theorem fitsIn_iff {write : Write ρ α} (hkind : write.kind ≠ .add) (world : World)
    (table : Table ρ) : write.FitsIn world table ↔ (table.get? (write.target world)).isSome := by
  cases write with
  | add record => exact absurd rfl hkind
  | update record => rfl
  | delete id => rfl

theorem fitsIn_add_iff {write : Write ρ α} (hkind : write.kind = .add) (world : World)
    (table : Table ρ) : write.FitsIn world table ↔ table.get? (write.target world) = none := by
  cases write with
  | add record => rfl
  | update record => cases hkind
  | delete id => cases hkind

/-- A write has a place or it has none. -/
theorem Place.not_noPlace {world : World} {write : Write ρ α}
    {tables upper lower : List (String × Table ρ)} {layer : String × Table ρ}
    (h : Place world write tables upper layer lower) : ¬ NoPlace world write tables := by
  unfold NoPlace
  by_cases hkind : write.kind = .add
  · have hfree := (fitsIn_add_iff hkind world layer.2).1 h.fits
    have hhead : tables.head? = some layer := by rw [h.split, h.first hkind]; rfl
    rw [if_pos hkind, hhead]
    simp [hfree]
  · have hheld := (fitsIn_iff hkind world layer.2).1 h.fits
    rw [if_neg hkind]
    intro hnone
    have hfree := hnone layer (h.split ▸ List.mem_append_right _ List.mem_cons_self)
    rw [hfree] at hheld
    cases hheld

section Layers

variable {tables : List (String × Table ρ)} {below : Layers ρ} {write : Write ρ α}

/-- How a write to the layers of a stack ends: at its place or, if it has none, nowhere. -/
def Ends (tables : List (String × Table ρ)) (below : Layers ρ) (refusal : StoreError)
    (write : Write ρ α) (world : World) : Prop :=
  ∃ world' : World, world'.disk = world.disk
    ∧ ((∃ upper layer lower, Place world write tables upper layer lower
        ∧ (tableLayers tables below).write refusal write world
          = (.ok (write.answer world),
            tableLayers (upper ++ (layer.1, layer.2.after write world) :: lower) below, world'))
      ∨ NoPlace world write tables ∧ ∃ error,
        (tableLayers tables below).write refusal write world
          = (.error error, tableLayers tables below, world'))

/-- The first table takes a new record, or the search ends there. -/
theorem ends_first (hkind : write.kind = .add) (htables : tables ≠ []) (refusal : StoreError)
    (world : World) : Ends tables below refusal write world := by
  obtain ⟨layer, rest, rfl⟩ := List.exists_cons_of_ne_nil htables
  obtain ⟨world', hdisk, ⟨hfits, hwrite⟩ | ⟨hfull, error, hwrite, hfalls, -⟩⟩ :=
    layer.2.write_eq write world
  · refine ⟨world', hdisk, .inl ⟨[], layer, rest, ⟨rfl, hfits, fun _ => rfl, nofun⟩, ?_⟩⟩
    simp only [tableLayers, Layers.write, Store.write, hwrite, List.nil_append]
  · have hstop : error.fallsThrough = false := by simpa [hkind] using hfalls
    refine ⟨world', hdisk, .inr ⟨?_, error, ?_⟩⟩
    · rw [fitsIn_add_iff hkind] at hfull
      rw [NoPlace, if_pos hkind]
      exact ⟨layer, rfl, Option.isSome_iff_ne_none.2 hfull⟩
    · simp only [tableLayers, Layers.write, Store.write, hwrite, hstop, Bool.false_eq_true,
        if_false]

/-- Any other write passes the tables that do not have its id, down to the first one that has. -/
theorem ends_passing (hkind : write.kind ≠ .add) (hbelow : below.Inert) (refusal : StoreError)
    (world : World) : Ends tables below refusal write world := by
  -- down the tables, each of which passes the write on with its own refusal
  induction tables generalizing refusal with
  | nil =>
    obtain ⟨last, hlast⟩ := hbelow refusal write world
    refine ⟨world, rfl, .inr ⟨?_, last, hlast⟩⟩
    rw [NoPlace, if_neg hkind]
    nofun
  | cons layer rest ih =>
    obtain ⟨world', hdisk, ⟨hfits, hwrite⟩ | ⟨hfull, error, hwrite, hfalls, hsame⟩⟩ :=
      layer.2.write_eq write world
    · refine ⟨world', hdisk,
        .inl ⟨[], layer, rest, ⟨rfl, hfits, fun h => absurd h hkind, nofun⟩, ?_⟩⟩
      simp only [tableLayers, Layers.write, Store.write, hwrite, List.nil_append]
    · -- the table does not have the id, and the rest is asked in the world that it was in
      have hfree : layer.2.get? (write.target world) = none := by
        rw [fitsIn_iff hkind] at hfull
        exact Option.not_isSome_iff_eq_none.1 hfull
      have hgoes : error.fallsThrough = true := hfalls.2 hkind
      cases hsame hkind
      obtain ⟨world', hdisk', ⟨upper, taker, lower, hplace, hrest⟩ | ⟨hnone, last, hrest⟩⟩ :=
        ih error
      · refine ⟨world', hdisk', .inl ⟨layer :: upper, taker, lower, ⟨?_, hplace.fits, ?_, ?_⟩, ?_⟩⟩
        · rw [hplace.split, List.cons_append]
        · exact fun h => absurd h hkind
        · exact List.forall_mem_cons.2 ⟨hfree, hplace.passed⟩
        · simp only [tableLayers, Layers.write, Store.write, hwrite, hgoes, if_true, hrest,
            List.cons_append]
      · refine ⟨world', hdisk', .inr ⟨?_, last, ?_⟩⟩
        · rw [NoPlace, if_neg hkind] at hnone ⊢
          exact List.forall_mem_cons.2 ⟨hfree, hnone⟩
        · simp only [tableLayers, Layers.write, Store.write, hwrite, hgoes, if_true, hrest]

end Layers

/-! ### One write -/

/-- One table takes a write, and what is read changes under its id only: a record that is put in is
read from now on, and where one is taken out, the next that the layers hold comes to light. -/
structure Takes (catalog : String) (before after : Stack ρ) (write : Write ρ α) (world : World) :
    Prop where
  place : ∃ upper layer lower, Place world write before.tables upper layer lower
    ∧ after.tables = upper ++ (layer.1, layer.2.after write world) :: lower
  lists : after.lists = before.lists
  written : ∀ disk record, write.record? world = some record →
    ((after.store catalog).readings disk).get (write.target world) = .ok record
  uncovered : ∀ disk, write.record? world = none →
    ((after.store catalog).readings disk).get (write.target world)
      = orMissing (write.target world) (before.held (write.target world))[1]?
  away : ∀ disk id, id ≠ write.target world →
    ((after.store catalog).readings disk).get id = ((before.store catalog).readings disk).get id

/-- What the layers hold under an id, cut around one table. -/
theorem held_split {stack : Stack ρ} {upper lower : List (String × Table ρ)}
    {layer : String × Table ρ} (h : stack.tables = upper ++ layer :: lower) (id : String) :
    stack.held id = upper.filterMap (fun layer => layer.2.get? id) ++ ((layer.2.get? id).toList
      ++ (lower.filterMap (fun layer => layer.2.get? id)
        ++ stack.lists.filterMap fun list => firstWithId id list.2.2)) := by
  rw [held, h, List.filterMap_append, List.filterMap_cons, List.append_assoc]
  cases layer.2.get? id <;> rfl

/-- What a write leaves where it has its place. -/
theorem takes_of_place (catalog : String) {before after : Stack ρ} {write : Write ρ α}
    {world : World} {upper lower : List (String × Table ρ)} {layer : String × Table ρ}
    (hplace : Place world write before.tables upper layer lower)
    (htables : after.tables = upper ++ (layer.1, layer.2.after write world) :: lower)
    (hlists : after.lists = before.lists) : Takes catalog before after write world := by
  -- the tables above the place hold nothing under the id, so it decides what comes first there
  have habove : upper.filterMap (fun layer => layer.2.get? (write.target world)) = [] :=
    List.filterMap_eq_nil_iff.2 hplace.passed
  have hbefore := held_split hplace.split (write.target world)
  have hafter := held_split htables (write.target world)
  rw [habove, List.nil_append] at hbefore hafter
  rw [Table.get?_after, if_pos rfl] at hafter
  refine ⟨⟨upper, layer, lower, hplace, htables⟩, hlists, ?_, ?_, ?_⟩
  · intro disk record hrecord
    rw [get_store, hafter, hrecord]
    rfl
  · intro disk hnone
    have hkind : write.kind ≠ .add := by
      cases write with
      | delete id => nofun
      | add record => cases hnone
      | update record => cases hnone
    obtain ⟨old, hold⟩ := Option.isSome_iff_exists.1 ((fitsIn_iff hkind ..).1 hplace.fits)
    rw [get_store, hafter, hnone, hbefore, hold, hlists, Option.toList_some, List.singleton_append,
      List.getElem?_cons_succ, ← List.head?_eq_getElem?]
    rfl
  · intro disk id hid
    have hsame : after.held id = before.held id := by
      rw [held_split htables, held_split hplace.split, Table.get?_after, if_neg hid, hlists]
    rw [get_store, get_store, hsame]

/-- What a write to a chain has to come to: it fails exactly if it has no place, then no layer
changes, and otherwise one table takes it. -/
structure Written (catalog : String) (before : Stack ρ) (write : Write ρ α) (world : World)
    (answer : Except StoreError α) (after : Stack ρ) : Prop where
  fails_iff : (∃ error, answer = .error error) ↔ NoPlace world write before.tables
  failed : ∀ error, answer = .error error → after = before
  answered : ∀ value, answer = .ok value → value = write.answer world
  takes : ∀ value, answer = .ok value → Takes catalog before after write world

/-- A write without a place that has failed is written as it should be. -/
theorem written_failed {catalog : String} {stack : Stack ρ} {write : Write ρ α} {world : World}
    (error : StoreError) (hnone : NoPlace world write stack.tables) :
    Written catalog stack write world (.error error) stack :=
  ⟨⟨fun _ => hnone, fun _ => ⟨error, rfl⟩⟩, fun _ _ => rfl, nofun, nofun⟩

/-- A write that is done at its place is written as it should be. -/
theorem written_at_place {catalog : String} {before after : Stack ρ} {write : Write ρ α}
    {world : World} {upper lower : List (String × Table ρ)} {layer : String × Table ρ}
    (hplace : Place world write before.tables upper layer lower)
    (htables : after.tables = upper ++ (layer.1, layer.2.after write world) :: lower)
    (hlists : after.lists = before.lists) :
    Written catalog before write world (.ok (write.answer world)) after where
  fails_iff := ⟨nofun, fun hnone => absurd hnone hplace.not_noPlace⟩
  failed := nofun
  answered _ hvalue := (Except.ok.inj hvalue).symm
  takes _ _ := takes_of_place catalog hplace htables hlists

/-- **One write to a chain over a stack.** -/
theorem write_store (catalog : String) (stack : Stack ρ) (write : Write ρ α) (world : World) :
    ∃ (answer : Except StoreError α) (after : Stack ρ) (world' : World),
      (stack.store catalog).write write world = (answer, after.store catalog, world')
      ∧ world'.disk = world.disk ∧ after.SameLayers stack
      ∧ Written catalog stack write world answer after := by
  have hends : Ends stack.tables (listLayers stack.lists) (write.untaken catalog) write world := by
    -- only a new record ends at the first table whatever that says
    by_cases hkind : write.kind = .add
    · exact ends_first hkind stack.based _ world
    · exact ends_passing hkind (inert_listLayers stack.lists) _ world
  obtain ⟨world', hdisk, ⟨upper, layer, lower, hplace, hlayers⟩ | ⟨hnone, error, hlayers⟩⟩ := hends
  · let after : Stack ρ :=
      ⟨upper ++ (layer.1, layer.2.after write world) :: lower, stack.lists, by simp⟩
    refine ⟨.ok (write.answer world), after, world', ?_, hdisk, ⟨?_, rfl⟩,
      written_at_place hplace rfl rfl⟩
    · simp only [store, Store.write, hlayers, after]
    · rw [hplace.split]
      simp only [after, List.map_append, List.map_cons]
  · refine ⟨.error error, stack, world', ?_, hdisk, ⟨rfl, rfl⟩, written_failed error hnone⟩
    simp only [store, Store.write, hlayers]

/-! ### Runs -/

/-- A call on a chain over a stack leaves a chain over a stack, with the same layers. -/
theorem perform_store (catalog : String) (stack : Stack ρ) (operation : Operation ρ)
    (world : World) :
    ∃ (answer : Answer ρ) (after : Stack ρ) (world' : World),
      operation.perform (stack.store catalog) world = (answer, after.store catalog, world')
      ∧ after.SameLayers stack := by
  have hread (answer : Answer ρ) : ∃ (answer' : Answer ρ) (after : Stack ρ) (world' : World),
      (answer, stack.store catalog, world) = (answer', after.store catalog, world')
      ∧ after.SameLayers stack := ⟨answer, stack, world, rfl, rfl, rfl⟩
  cases operation with
  | all => exact hread _
  | get id => exact hread _
  | add record =>
    obtain ⟨answer, after, world', hwrite, -, hshape, -⟩ :=
      write_store catalog stack (.add record) world
    exact ⟨.record answer, after, world', by rw [Operation.perform, hwrite], hshape⟩
  | update record =>
    obtain ⟨answer, after, world', hwrite, -, hshape, -⟩ :=
      write_store catalog stack (.update record) world
    exact ⟨.done answer, after, world', by rw [Operation.perform, hwrite], hshape⟩
  | delete id =>
    obtain ⟨answer, after, world', hwrite, -, hshape, -⟩ :=
      write_store catalog stack (.delete id) world
    exact ⟨.done answer, after, world', by rw [Operation.perform, hwrite], hshape⟩

/-- Any calls leave a chain over a stack, with the same layers. -/
theorem performAll_store (catalog : String) (stack : Stack ρ) (world : World)
    (operations : List (Operation ρ)) :
    ∃ (answers : List (Answer ρ)) (after : Stack ρ) (world' : World),
      (stack.store catalog).performAll world operations = (answers, after.store catalog, world')
      ∧ after.SameLayers stack := by
  -- call by call; each leaves a stack of the same layers
  induction operations generalizing stack world with
  | nil => exact ⟨[], stack, world, rfl, rfl, rfl⟩
  | cons operation rest ih =>
    obtain ⟨answer, next, world', hstep, hshape⟩ := perform_store catalog stack operation world
    obtain ⟨answers, after, world'', hrest, hshape'⟩ := ih next world'
    refine ⟨answer :: answers, after, world'', ?_, hshape'.names.trans hshape.names,
      hshape'.lists.trans hshape.lists⟩
    simp only [Store.performAll, hstep, hrest]

/-- **A chain is a stack of maps, whatever has been called on it.** After any calls on a chain of
tables and lists, what is read under an id is the first of what the layers hold, and the next write
fails exactly if it has no place, changes nothing then, and otherwise changes the one table that it
is read from. -/
theorem performAll_settles (catalog : String) (stack : Stack ρ) (world : World)
    (operations : List (Operation ρ)) :
    ∃ (answers : List (Answer ρ)) (reached : Stack ρ) (world' : World),
      (stack.store catalog).performAll world operations = (answers, reached.store catalog, world')
      ∧ reached.SameLayers stack
      ∧ (∀ disk id, ((reached.store catalog).readings disk).get id
          = orMissing id (reached.held id).head?)
      ∧ ∀ {α : Type} (write : Write ρ α),
          ∃ (answer : Except StoreError α) (after : Stack ρ) (world'' : World),
            (reached.store catalog).write write world' = (answer, after.store catalog, world'')
            ∧ world''.disk = world'.disk ∧ after.SameLayers reached
            ∧ Written catalog reached write world' answer after := by
  obtain ⟨answers, reached, world', hrun, hshape⟩ :=
    performAll_store catalog stack world operations
  refine ⟨answers, reached, world', hrun, hshape, get_store catalog reached, ?_⟩
  intro α write
  obtain ⟨answer, after, world'', hwrite, hwritten⟩ := write_store catalog reached write world'
  exact ⟨answer, after, world'', hwrite, hwritten⟩

end Stack

end TenantConsole
