import TenantConsole.Proofs.Chains
import TenantConsole.Proofs.Folders

/-!
# Catalogs over a table, a directory and lists

A catalog asks the table of the primary database first, then the files of a directory, if there is
one, and then lists that cannot be changed. All that its layers hold, one below the other, is
`Store.stacked`; the same id may come in several of them.

* **`over_outOf`**: a catalog is read out of its stack, and of records with one id the uppermost
  counts.
* **`over_write`**: a write that is not refused is a swap in the stack. A new record goes on top,
  whatever there is below; a record that is updated or deleted gives way where it stands, in the
  highest layer that has its id.
-/

namespace TenantConsole

open Readings

/-- All that the layers of a chain hold, the highest layer first, as far as they answer. -/
def Store.stacked {ρ : Type} [Record ρ] (disk : Disk) : Store ρ → List ρ
  | .layered _ layers =>
    (((layers.readings disk).map Readings.all).filterMap Except.toOption).flatten
  | store => ((store.readings disk).all.toOption).getD []

/-! ## Tables -/

section Tables

variable {ρ : Type} [Record ρ]

/-- A table has one row under an id, or none. -/
theorem Table.namesakes_rows (table : Table ρ) (id : String) :
    namesakes id table.rows = (table.get? id).toList := by
  have hsorted : (namesakes id table.rows).Pairwise fun a b => Record.id a < Record.id b :=
    table.sorted.filter _
  have hhead : (namesakes id table.rows).head? = table.get? id := List.head?_filter
  have hid (row : ρ) (hrow : row ∈ namesakes id table.rows) : Record.id row = id :=
    (mem_namesakes.1 hrow).2
  -- rows are sorted strictly by their ids, so a second row of one id would be below itself
  cases hrows : namesakes id table.rows with
  | nil => rw [← hhead, hrows]; rfl
  | cons first rest =>
    cases rest with
    | nil => rw [← hhead, hrows]; rfl
    | cons second rest =>
      rw [hrows] at hid hsorted
      have hlt : Record.id first < Record.id second :=
        (List.pairwise_cons.1 hsorted).1 second List.mem_cons_self
      rw [hid first (by simp), hid second (by simp)] at hlt
      exact absurd hlt (String.lt_irrefl id)

/-- What gives way to what, for a write that has been answered. -/
inductive Exchange (table : Table ρ) : {α : Type} → Write ρ α → α → List ρ → List ρ → Prop where
  | add {record : ρ} (world : World) :
      Exchange table (.add record) (world.named record) [] [world.named record]
  | updateRow {record old : ρ} (hheld : (table.get? (Record.id record)).isSome) :
      Exchange table (.update record) () [old] [record]
  | updateFile {record old : ρ} (hfree : table.get? (Record.id record) = none) :
      Exchange table (.update record) () [old] (Folder.readBack record).toList
  | delete {id : String} {old : ρ} : Exchange table (.delete id) () [old] []

/-- Under a new id nothing gives way to the record that is answered. -/
theorem Exchange.of_add {table : Table ρ} {record value : ρ} {old new : List ρ}
    (h : Exchange table (.add record) value old new) :
    old = [] ∧ new = [value] ∧ ∃ world : World, value = world.named record := by
  cases h with
  | add world => exact ⟨rfl, rfl, world, rfl⟩

/-- A deletion takes one record away. -/
theorem Exchange.of_delete {table : Table ρ} {id : String} {value : Unit} {old new : List ρ}
    (h : Exchange table (.delete id) value old new) : (∃ gone, old = [gone]) ∧ new = [] := by
  cases h with
  | delete => exact ⟨⟨_, rfl⟩, rfl⟩

theorem Table.Change.exchange {α : Type} {table after : Table ρ} {write : Write ρ α} {answer : α}
    (h : table.Change write answer after) :
    ∃ old new, Exchange table write answer old new
      ∧ Swaps (write.subject answer) old new table.rows after.rows := by
  -- whatever the write, only what is found under its id gives way
  have hswaps : Swaps (write.subject answer) (table.get? (write.subject answer)).toList
      (after.get? (write.subject answer)).toList table.rows after.rows :=
    ⟨h.rows_away, [], by simp [Table.namesakes_rows], by simp [Table.namesakes_rows]⟩
  cases write with
  | add record =>
    obtain ⟨world, rfl, hfree, rfl⟩ := h
    refine ⟨_, _, .add world, ?_⟩
    simpa [Write.subject, hfree] using hswaps
  | update record =>
    obtain ⟨hheld, rfl⟩ := h
    obtain ⟨old, hold⟩ := Option.isSome_iff_exists.1 hheld
    refine ⟨[old], [record], .updateRow hheld, ?_⟩
    simpa [Write.subject, hold] using hswaps
  | delete id =>
    obtain ⟨hheld, rfl⟩ := h
    obtain ⟨old, hold⟩ := Option.isSome_iff_exists.1 hheld
    refine ⟨[old], [], .delete, ?_⟩
    simpa [Write.subject, hold] using hswaps

end Tables

/-! ## Layers below -/

namespace Catalog

variable {ρ : Type} [Record ρ]

/-- Layers that hold what connections name, each list under its label. -/
def listLayers (lists : List (String × List ρ)) : Layers ρ :=
  .ofList (lists.map fun list => ("flags", .fixed list.1 list.2))

/-- The layers below the primary database. -/
def below (path : Option String) (extension : String) (lists : List (String × List ρ)) : Layers ρ :=
  match path with
  | some path => .cons "filesystem" (.files ⟨path, extension⟩) (listLayers lists)
  | none => listLayers lists

/-- A catalog over the table of the primary database. -/
def overTable (catalog : String) (path : Option String) (extension : String)
    (lists : List (String × List ρ)) (table : Table ρ) : Store ρ :=
  .layered catalog (.cons "database" (.memory table) (below path extension lists))

/-- What the layers below answer when they are listed. -/
def answersBelow (path : Option String) (extension : String) (lists : List (String × List ρ))
    (disk : Disk) : List (Except StoreError (List ρ)) :=
  path.toList.map (fun path => Folder.listing ⟨path, extension⟩ disk)
    ++ lists.map fun list => .ok list.2

/-- All that the layers below hold, as far as they answer. -/
def stackedBelow (path : Option String) (extension : String) (lists : List (String × List ρ))
    (disk : Disk) : List ρ :=
  ((answersBelow path extension lists disk).filterMap Except.toOption).flatten

variable {catalog extension : String} {path : Option String} {lists : List (String × List ρ)}

theorem readings_lists (disk : Disk) :
    (listLayers lists).readings disk
      = (lists.map fun list => (.ok list.2 : Except StoreError (List ρ))).map ofListing := by
  induction lists with
  | nil => rfl
  | cons list rest ih => exact congrArg _ ih

theorem readings_below (disk : Disk) :
    (below path extension lists).readings disk
      = (answersBelow path extension lists disk).map ofListing := by
  cases path with
  | none => exact readings_lists disk
  | some path => exact congrArg _ (readings_lists disk)

theorem all_ofListing (listings : List (Except StoreError (List ρ))) :
    (listings.map ofListing).map Readings.all = listings := by
  rw [List.map_map]
  exact List.map_id' listings

/-- Lists take no write. -/
theorem inert_lists (lists : List (String × List ρ)) : (listLayers lists).Inert := by
  induction lists with
  | nil => exact Layers.inert_nil
  | cons list rest ih => exact Layers.inert_fixed ih

/-! ## Reading a catalog -/

section Reading

variable (table : Table ρ) (disk : Disk)

theorem readings_over :
    (overTable catalog path extension lists table).readings disk
      = Readings.layered catalog
          ((.ok table.rows :: answersBelow path extension lists disk).map ofListing) := by
  show Readings.layered catalog (_ :: (below path extension lists).readings disk) = _
  rw [readings_below]
  rfl

theorem stacked_over :
    (overTable catalog path extension lists table).stacked disk
      = table.rows ++ stackedBelow path extension lists disk := by
  show (List.filterMap Except.toOption ((ofListing (.ok table.rows)
    :: (below path extension lists).readings disk).map Readings.all)).flatten = _
  rw [readings_below, ← List.map_cons (f := ofListing), all_ofListing]
  rfl

/-- **A catalog is read out of its stack.** -/
theorem over_outOf :
    ((overTable catalog path extension lists table).readings disk).OutOf
      ((overTable catalog path extension lists table).stacked disk) where
  all := by
    rw [readings_over, stacked_over]
    show merged catalog (((Except.ok table.rows :: _).map ofListing).map Readings.all) = _
    rw [all_ofListing]
    rfl
  get id := by
    rw [readings_over, stacked_over, layered_get]
    rfl

end Reading

/-! ## Writing to a catalog -/

section Writing

variable {α : Type} {table : Table ρ} {world : World}

/-- Below the primary database a write comes to an end in the directory, or nowhere. -/
theorem below_write (path : Option String) (extension : String) (lists : List (String × List ρ))
    {write : Write ρ α} {id : String} {new : Option ρ} (refusal : StoreError)
    (hfolder : ∀ folder : Folder,
      (∃ error, folder.write write world = (.error error, world) ∧ error.fallsThrough = true)
        ∨ ∃ value disk old, folder.write write world = (.ok value, { world with disk })
          ∧ folder.Rewritten world.disk id old new disk) :
    (∃ error, (below path extension lists).write refusal write world
        = (.error error, below path extension lists, world))
      ∨ ∃ value disk old, (below path extension lists).write refusal write world
          = (.ok value, below path extension lists, { world with disk })
        ∧ disk.NamesOnce
        ∧ Swaps id [old] new.toList (stackedBelow path extension lists world.disk)
            (stackedBelow path extension lists disk) := by
  cases path with
  | none => exact .inl (inert_lists lists refusal write world)
  | some path =>
    rcases hfolder ⟨path, extension⟩ with
      ⟨error, hrefused, hfalls⟩ | ⟨value, disk, old, hmade, hnew⟩
    · -- the lists are asked, and refuse as well
      obtain ⟨last, hlast⟩ := inert_lists lists error write world
      refine .inl ⟨last, ?_⟩
      simp only [below, Layers.write, Store.write, hrefused, hfalls, if_true, hlast]
    · obtain ⟨before, after, hbefore, hafter, hswaps⟩ := hnew.listing
      refine .inr ⟨value, disk, old, ?_, hnew.namesOnce, ?_⟩
      · simp only [below, Layers.write, Store.write, hmade]
      · have hstacked {disk : Disk} {listing : List ρ}
            (h : Folder.listing ⟨path, extension⟩ disk = .ok listing) :
            stackedBelow (some path) extension lists disk
              = listing ++ stackedBelow none extension lists disk := by
          unfold stackedBelow answersBelow
          simp only [Option.toList_some, List.map_cons, h]
          rfl
        rw [hstacked hbefore, hstacked hafter]
        exact hswaps.append_right _

/-- What the outcome of a write to a catalog has to be. -/
def SettlesOver (catalog : String) (path : Option String) (extension : String)
    (lists : List (String × List ρ)) (table : Table ρ) (write : Write ρ α) (world : World) : Prop :=
  ∃ answer table' world', (overTable catalog path extension lists table).write write world
      = (answer, overTable catalog path extension lists table', world')
    ∧ world'.disk.NamesOnce
    ∧ ((∃ error, answer = .error error) ∧ table' = table ∧ world'.disk = world.disk
      ∨ ∃ value old new, answer = .ok value ∧ Exchange table write value old new
        ∧ Swaps (write.subject value) old new
            ((overTable catalog path extension lists table).stacked world.disk)
            ((overTable catalog path extension lists table').stacked world'.disk))

/-- The table takes the write. -/
theorem settles_above {write : Write ρ α} (value : α) {after : Table ρ} {world' : World}
    (hnames : world.disk.NamesOnce) (hwrite : table.write write world = (.ok value, after, world'))
    (hdisk : world'.disk = world.disk) (hchange : table.Change write value after) :
    SettlesOver catalog path extension lists table write world := by
  refine ⟨.ok value, after, world', ?_, hdisk ▸ hnames, .inr ?_⟩
  · simp only [overTable, Store.write, Layers.write, hwrite]
  · obtain ⟨old, new, hexchange, hswaps⟩ := hchange.exchange
    refine ⟨value, old, new, rfl, hexchange, ?_⟩
    rw [stacked_over, stacked_over, hdisk]
    exact hswaps.append_right _

/-- The table does not have the id, and the layers below decide. -/
theorem settles_below {write : Write ρ α} {id : String} (new : Option ρ)
    (hnames : world.disk.NamesOnce)
    (hwrite : table.write write world = (.error (.missing ρ id), table, world))
    (hfree : table.get? id = none) (hsubject : ∀ value, write.subject value = id)
    (hexchange : ∀ value old, Exchange table write value [old] new.toList)
    (hfolder : ∀ folder : Folder,
      (∃ error, folder.write write world = (.error error, world) ∧ error.fallsThrough = true)
        ∨ ∃ value disk old, folder.write write world = (.ok value, { world with disk })
          ∧ folder.Rewritten world.disk id old new disk) :
    SettlesOver catalog path extension lists table write world := by
  have hfalls : (StoreError.missing ρ id).fallsThrough = true := rfl
  rcases below_write path extension lists (.missing ρ id) hfolder with
    ⟨error, hrefused⟩ | ⟨value, disk, old, hmade, hnames', hswaps⟩
  · refine ⟨.error error, table, world, ?_, hnames, .inl ⟨⟨error, rfl⟩, rfl, rfl⟩⟩
    simp only [overTable, Store.write, Layers.write, hwrite, hfalls, if_true, hrefused]
  · refine ⟨.ok value, table, { world with disk }, ?_, hnames',
      .inr ⟨value, [old], new.toList, rfl, hexchange value old, ?_⟩⟩
    · simp only [overTable, Store.write, Layers.write, hwrite, hfalls, if_true, hmade]
    · rw [stacked_over, stacked_over, hsubject]
      exact hswaps.append_left (by rw [Table.namesakes_rows, hfree]; rfl)

/-- The table has a record under the id of the new one. -/
theorem settles_conflict {record row : ρ} (hnames : world.disk.NamesOnce)
    (hheld : table.get? (Record.id (world.named record)) = some row) :
    SettlesOver catalog path extension lists table (.add record) world := by
  have hdisk := Table.afterNaming_disk world record
  have hrefused : ∃ error, table.write (.add record) world
      = (.error error, table, world.afterNaming record) ∧ error.fallsThrough = false := by
    exact ⟨_, Table.write_add_taken hheld, rfl⟩
  obtain ⟨error, hwrite, hfalls⟩ := hrefused
  refine ⟨.error error, table, world.afterNaming record, ?_, hdisk ▸ hnames,
    .inl ⟨⟨error, rfl⟩, rfl, hdisk⟩⟩
  -- a conflict ends the search, whatever the layers below hold
  simp only [overTable, Store.write, Layers.write, hwrite, hfalls, Bool.false_eq_true, if_false]

/-- **A write to a catalog is refused and changes nothing, or it is a swap in the stack.** -/
theorem over_write (write : Write ρ α) (hnames : world.disk.NamesOnce)
    (hback : write.kind = .update → ∀ record found : ρ, Folder.readBack record = some found →
      Record.id found = Record.id record) :
    SettlesOver catalog path extension lists table write world := by
  cases write with
  | add record =>
    have hdisk := Table.afterNaming_disk world record
    cases hheld : table.get? (Record.id (world.named record)) with
    | some row => exact settles_conflict hnames hheld
    | none =>
      -- the table is the first to be asked, and takes the record
      exact settles_above (world.named record) hnames (Table.write_add_free hheld) hdisk
        ⟨world, rfl, hheld, rfl⟩
  | update record =>
    cases hheld : table.get? (Record.id record) with
    | some row =>
      refine settles_above () hnames ?_ rfl ⟨by rw [hheld]; rfl, rfl⟩
      simp only [Table.write, Table.contains, hheld, Option.isSome_some, if_true]
    | none =>
      -- what the directory keeps is what the page of the record is read back as
      refine settles_below (Folder.readBack record) hnames ?_ hheld (fun _ => rfl)
        (fun _ _ => .updateFile hheld) fun folder => ?_
      · simp only [Table.write, Table.contains, hheld, Option.isSome_none, Bool.false_eq_true,
          if_false]
      · rcases folder.update_cases record hnames (hback rfl record) with h | ⟨disk, old, h⟩
        · exact .inl h
        · exact .inr ⟨(), disk, old, h⟩
  | delete id =>
    cases hheld : table.get? id with
    | some row =>
      refine settles_above () hnames ?_ rfl ⟨by rw [hheld]; rfl, rfl⟩
      simp only [Table.write, Table.contains, hheld, Option.isSome_some, if_true]
    | none =>
      refine settles_below none hnames ?_ hheld (fun _ => rfl) (fun _ _ => .delete)
        fun folder => ?_
      · simp only [Table.write, Table.contains, hheld, Option.isSome_none, Bool.false_eq_true,
          if_false]
      · rcases folder.delete_cases (ρ := ρ) id hnames with h | ⟨disk, old, h⟩
        · exact .inl h
        · exact .inr ⟨(), disk, old, h⟩

/-! What follows holds of any disk, also of one that repeats a name. -/

/-- A new record goes to the table where that has room for it. -/
theorem over_add_free {record : ρ} (hfree : table.get? (Record.id (world.named record)) = none) :
    (overTable catalog path extension lists table).write (.add record) world
      = (.ok (world.named record),
          overTable catalog path extension lists (table.insert (world.named record)),
          world.afterNaming record) := by
  simp only [overTable, Store.write, Layers.write, Table.write_add_free hfree]

/-- A conflict with a record of the table ends the search for a layer. -/
theorem over_add_taken {record row : ρ}
    (hheld : table.get? (Record.id (world.named record)) = some row) :
    (overTable catalog path extension lists table).write (.add record) world
      = (.error (.taken ρ (Record.id (world.named record))),
          overTable catalog path extension lists table, world.afterNaming record) := by
  have hfalls : (StoreError.taken ρ (Record.id (world.named record))).fallsThrough = false := rfl
  simp only [overTable, Store.write, Layers.write, Table.write_add_taken hheld, hfalls,
    Bool.false_eq_true, if_false]

/-- A new record goes to the table or is refused there; no layer below is asked. -/
theorem over_add (record : ρ) (world : World) :
    ∃ answer table' world', (overTable catalog path extension lists table).write (.add record) world
        = (answer, overTable catalog path extension lists table', world')
      ∧ table.Settles world (table.Change (.add record)) (answer, table', world') := by
  cases hheld : table.get? (Record.id (world.named record)) with
  | some row =>
    exact ⟨_, _, _, over_add_taken hheld,
      Table.settles_refusal (Table.afterNaming_disk world record)⟩
  | none =>
    exact ⟨_, _, _, over_add_free hheld, Table.settles_change (Table.afterNaming_disk world record)
      ⟨world, rfl, hheld, rfl⟩⟩

/-- A record that the table has is deleted there. -/
theorem over_delete_held {id : String} (hheld : table.contains id = true) :
    (overTable catalog path extension lists table).write (.delete id) world
      = (.ok (), overTable catalog path extension lists (table.erase id), world) := by
  -- the table is asked first, and nothing below it after that
  simp only [overTable, Store.write, Layers.write, Table.write, hheld, if_true]

/-- Below the table, a deletion is one in the directory. -/
theorem below_delete (path : Option String) (extension : String) (lists : List (String × List ρ))
    (refusal : StoreError) (id : String) (world : World) :
    ∃ answer world', (below path extension lists).write refusal (.delete id) world
        = (answer, below path extension lists, world')
      ∧ ∀ directory, path = some directory →
          world' = (Folder.delete ρ ⟨directory, extension⟩ id world).2 := by
  cases path with
  | none =>
    obtain ⟨last, hlast⟩ := inert_lists lists refusal (.delete id) world
    exact ⟨.error last, world, hlast, nofun⟩
  | some directory =>
    rcases hdelete : Folder.delete ρ ⟨directory, extension⟩ id world with ⟨error | value, world'⟩
    · -- the lists are asked or not, but they refuse anyhow: what happens is what happens in the
      -- directory
      cases hfalls : error.fallsThrough with
      | true =>
        obtain ⟨last, hlast⟩ := inert_lists lists error (.delete id) world'
        refine ⟨.error last, world', ?_, fun _ h => by cases h; rw [hdelete]⟩
        simp only [below, Layers.write, Store.write, Folder.write, hdelete, hfalls, if_true, hlast]
      | false =>
        refine ⟨.error error, world', ?_, fun _ h => by cases h; rw [hdelete]⟩
        simp only [below, Layers.write, Store.write, Folder.write, hdelete, hfalls,
          Bool.false_eq_true, if_false]
    · refine ⟨.ok value, world', ?_, fun _ h => by cases h; rw [hdelete]⟩
      simp only [below, Layers.write, Store.write, Folder.write, hdelete]

/-- **A deletion leaves nothing that was not there**, neither in the table nor in the directory. -/
theorem over_delete (id : String) (world : World) :
    ∃ answer table' world', (overTable catalog path extension lists table).write (.delete id) world
        = (answer, overTable catalog path extension lists table', world')
      ∧ (∀ row ∈ table'.rows, row ∈ table.rows)
      ∧ ∀ directory, path = some directory → ∀ {after : List ρ},
          Folder.listing ⟨directory, extension⟩ world'.disk = .ok after → ∀ record ∈ after,
          ∃ before, Folder.listing ⟨directory, extension⟩ world.disk = .ok before
            ∧ record ∈ before := by
  cases hheld : table.contains id with
  | true =>
    -- erasing drops a row, and the disk is as it was
    exact ⟨.ok (), table.erase id, world, over_delete_held hheld,
      fun row hrow => (List.mem_filter.1 hrow).1,
      fun _ _ after hafter record hrecord => ⟨after, hafter, hrecord⟩⟩
  | false =>
    obtain ⟨answer, world', hbelow, hworld⟩ :=
      below_delete path extension lists (.missing ρ id) id world
    have hfalls : (StoreError.missing ρ id).fallsThrough = true := rfl
    refine ⟨answer, table, world', ?_, fun row hrow => hrow, ?_⟩
    · simp only [overTable, Store.write, Layers.write, Table.write, hheld, Bool.false_eq_true,
        if_false, hfalls, if_true, hbelow]
    · intro directory hdirectory after hafter record hrecord
      rw [hworld directory hdirectory] at hafter
      exact Folder.listing_delete hafter hrecord

/-- **A deletion leaves the other catalogs of the directory alone**, as far as their files have
extensions of their own. -/
theorem over_delete_apart {σ : Type} [Record σ] {other : String} (hother : other ≠ extension)
    {id : String} {world world' : World} {answer : Except StoreError Unit} {after : Store ρ}
    (hwrite : (overTable catalog path extension lists table).write (.delete id) world
      = (answer, after, world')) (flags : List (String × List σ)) :
    stackedBelow path other flags world'.disk = stackedBelow path other flags world.disk := by
  cases hheld : table.contains id with
  | true =>
    rw [over_delete_held hheld] at hwrite
    cases hwrite
    rfl
  | false =>
    obtain ⟨answer', below', hbelow, hworld⟩ :=
      below_delete path extension lists (.missing ρ id) id world
    have hfalls : (StoreError.missing ρ id).fallsThrough = true := rfl
    simp only [overTable, Store.write, Layers.write, Table.write, hheld, Bool.false_eq_true,
      if_false, hfalls, if_true, hbelow] at hwrite
    cases hwrite
    cases path with
    | none => rfl
    | some directory =>
      -- files of another extension are listed as before
      rw [hworld directory rfl]
      have hlisting := Folder.listing_delete_apart (ρ := ρ) (σ := σ) ⟨directory, extension⟩ id
        world hother
      unfold stackedBelow answersBelow
      simp only [Option.toList_some, List.map_cons, List.map_nil, hlisting]

end Writing

end Catalog

end TenantConsole
