import TenantConsole.Proofs.DirectoryEntries
import TenantConsole.Proofs.FiledRecords
import TenantConsole.Proofs.Noninterference

/-!
# A directory of record files is a table

Where every file of a directory is named for the id of the record in it, a store of files cannot be
told from a table of the same records: it gives the same answers to any run of calls, and the files
keep their names (`files_act_as_table`).

* **`Mirrors`** relates a directory and a table. There is one file for an id at most, and none under
  the name that a new id asks for, so files are listed and located as rows are.
* **`Mirrors.sets`** is the step: a write that sets the file of an id to what the table sets the id
  to leaves a directory that mirrors the table.
* **`InStep`** relates the two stores, with the ids that have been drawn; every call keeps it and is
  answered alike.

The calls may name any id, but what is written has to be such that a file can be named for it, and
that the file gives it back (`Takes`).
-/

namespace TenantConsole

/-! ## A directory and a table -/

namespace Folder

variable {ρ : Type} [Record ρ] {folder : Folder} {directory after : Directory} {disk : Disk}
  {table : Table ρ} {id : String}

/-- An entry counts as a record if its name has the extension and its content is read as the
record. -/
theorem held_eq_some_iff {extension : String} {entry : String × Entry} {file : String × ρ} :
    held ρ extension entry = some file
      ↔ extension? entry.1 = some extension ∧ recordOf? entry.2 = some file.2
        ∧ entry.1 = file.1 := by
  unfold held
  constructor
  · intro h
    split at h
    · rename_i hextension
      obtain ⟨record, hrecord, rfl⟩ := Option.map_eq_some_iff.1 h
      exact ⟨hextension, hrecord, rfl⟩
    · cases h
  · rintro ⟨hextension, hrecord, hname⟩
    rw [if_pos hextension, hrecord, hname]
    rfl

theorem mem_recordsIn {extension name : String} {record : ρ} :
    (name, record) ∈ recordsIn extension directory
      ↔ ∃ entry, (name, entry) ∈ directory ∧ extension? name = some extension
        ∧ recordOf? entry = some record := by
  rw [recordsIn_eq, List.mem_filterMap]
  constructor
  · rintro ⟨⟨n, entry⟩, hentry, hheld⟩
    obtain ⟨hextension, hrecord, rfl⟩ := held_eq_some_iff.1 hheld
    exact ⟨entry, hentry, hextension, hrecord⟩
  · rintro ⟨entry, hentry, hextension, hrecord⟩
    exact ⟨(name, entry), hentry, held_eq_some_iff.2 ⟨hextension, hrecord, rfl⟩⟩

/-- The files of the directory hold the rows of the table, each in the file that is named for its
id. Entries with another extension may be anything. -/
structure Mirrors (folder : Folder) (directory : Directory) (table : Table ρ) : Prop where
  once : (directory.map Prod.fst).Nodup
  named : ∀ name entry, (name, entry) ∈ directory → extension? name = some folder.extension →
    ∃ record : ρ, recordOf? entry = some record ∧ name = folder.fileName (Record.id record)
  rows : ∀ row, row ∈ table.rows ↔ ∃ name entry, (name, entry) ∈ directory
    ∧ extension? name = some folder.extension ∧ recordOf? entry = some row

/-- The name of a file is the one for the record in it. -/
theorem Mirrors.name_eq (h : folder.Mirrors directory table) {name : String} {entry : Entry}
    (hentry : (name, entry) ∈ directory) (hextension : extension? name = some folder.extension)
    {record : ρ} (hrecord : recordOf? entry = some record) :
    name = folder.fileName (Record.id record) := by
  obtain ⟨other, hother, hname⟩ := h.named name entry hentry hextension
  cases hother.symm.trans hrecord
  exact hname

/-- The row of an id is in the file of that name. -/
theorem Mirrors.file_of_row (h : folder.Mirrors directory table) {row : ρ}
    (hrow : row ∈ table.rows) : ∃ entry, (folder.fileName (Record.id row), entry) ∈ directory
      ∧ extension? (folder.fileName (Record.id row)) = some folder.extension
      ∧ recordOf? entry = some row := by
  obtain ⟨name, entry, hentry, hextension, hrecord⟩ := (h.rows row).1 hrow
  cases h.name_eq hentry hextension hrecord
  exact ⟨entry, hentry, hextension, hrecord⟩

/-- No two files hold records of one id, for they would have one name. -/
theorem Mirrors.ids_apart (h : folder.Mirrors directory table) :
    (recordsIn (ρ := ρ) folder.extension directory).Pairwise
      fun a b => Record.id a.2 ≠ Record.id b.2 := by
  have hdirectory : directory.Pairwise fun a b => a.1 ≠ b.1 := List.pairwise_map.1 h.once
  rw [recordsIn_eq, List.pairwise_filterMap]
  refine hdirectory.imp_of_mem fun {a b} ha hb hne first hfirst second hsecond hsame => hne ?_
  obtain ⟨hextension, hrecord, -⟩ := held_eq_some_iff.1 hfirst
  obtain ⟨hextension', hrecord', -⟩ := held_eq_some_iff.1 hsecond
  rw [h.name_eq ha hextension hrecord, h.name_eq hb hextension' hrecord', hsame]

/-- **Files are listed as the table lists its rows.** -/
theorem Mirrors.listed_eq (h : folder.Mirrors directory table) :
    listed ρ folder.extension directory = table.rows := by
  have hne : (listed ρ folder.extension directory).Pairwise
      fun a b => Record.id a ≠ Record.id b := by
    have hperm := List.mergeSort_perm (recordsIn (ρ := ρ) folder.extension directory) byId
    rw [listed, List.pairwise_map]
    exact (hperm.pairwise_iff fun hab => hab.symm).2 h.ids_apart
  -- files are sorted by ids that may repeat; here none does, so the order is strict
  have hsorted : (listed ρ folder.extension directory).Pairwise
      fun a b => Record.id a < Record.id b := by
    refine ((sorted_listed folder.extension directory).and hne).imp fun {a b} hab => ?_
    by_cases hlt : Record.id a < Record.id b
    · exact hlt
    · exact absurd (String.le_antisymm hab.1 (String.not_lt.1 hlt)) hab.2
  have hfiled : (⟨listed ρ folder.extension directory, hsorted⟩ : Table ρ) = table := by
    refine Table.eq_of_mem fun row => ?_
    show row ∈ listed ρ folder.extension directory ↔ row ∈ table.rows
    rw [mem_listed, h.rows row]
    exact exists_congr fun name => mem_recordsIn
  exact congrArg Table.rows hfiled

/-- **A record is located in the file that is named for its id**, if the table has it. -/
theorem Mirrors.locate_eq (h : folder.Mirrors directory table)
    (hdirectory : disk.directory? folder.path = some directory) (id : String) :
    folder.locate ρ disk id
      = if table.contains id then .ok (folder.fileName id) else .error (.missing ρ id) := by
  unfold locate
  rw [records_eq hdirectory]
  simp only
  -- a file that is found holds a row of the table, and a row of the id would have been found
  split
  · rename_i name record hfound
    have hid : Record.id record = id := by simpa using List.find?_some hfound
    have hmem : (name, record) ∈ recordsIn (ρ := ρ) folder.extension directory :=
      (List.mergeSort_perm _ _).mem_iff.1 (List.mem_of_find?_eq_some hfound)
    obtain ⟨entry, hentry, hextension, hrecord⟩ := mem_recordsIn.1 hmem
    have hrow : record ∈ table.rows := (h.rows record).2 ⟨name, entry, hentry, hextension, hrecord⟩
    rw [if_pos (Table.contains_eq_true_iff.2 ⟨record, hrow, hid⟩),
      h.name_eq hentry hextension hrecord, hid]
  · rename_i hnone
    have hfree : ¬ table.contains id = true := by
      intro hheld
      obtain ⟨row, hrow, hid⟩ := Table.contains_eq_true_iff.1 hheld
      obtain ⟨name, entry, hentry, hextension, hrecord⟩ := (h.rows row).1 hrow
      have hmem : (name, row) ∈ sortedRecords (ρ := ρ) folder.extension directory :=
        (List.mergeSort_perm _ _).mem_iff.2 (mem_recordsIn.2 ⟨entry, hentry, hextension, hrecord⟩)
      exact List.find?_eq_none.1 hnone _ hmem (decide_eq_true hid)
    rw [if_neg hfree]

/-! ## One write -/

/-- A record with a file name of its own, which gives it back. -/
structure Takes (folder : Folder) (record : ρ) : Prop where
  fileId : isFileId (Record.id record) = true
  noNul : '\x00' ∉ (folder.fileName (Record.id record)).toList
  short : (folder.fileName (Record.id record)).utf8ByteSize ≤ Directory.nameLimit
  survives : Survives record

theorem Takes.extension_eq (hext : '.' ∉ folder.extension.toList) {record : ρ}
    (h : folder.Takes record) :
    extension? (folder.fileName (Record.id record)) = some folder.extension := by
  refine extension?_fileName hext fun hid => ?_
  have hfile := h.fileId
  rw [hid] at hfile
  exact absurd hfile (by decide)

/-- **The step.** The file of an id is set to what the table sets the id to. -/
theorem Mirrors.sets {changed : Table ρ} {new : Option Entry} (h : folder.Mirrors directory table)
    (hextension : extension? (folder.fileName id) = some folder.extension)
    (hsets : Directory.Sets (folder.fileName id) new directory after)
    (hnew : ∀ entry, new = some entry → ∃ record : ρ, recordOf? entry = some record
      ∧ Record.id record = id)
    (hrows : ∀ row, row ∈ changed.rows
      ↔ (Record.id row = id ∧ ∃ entry, new = some entry ∧ recordOf? entry = some row)
        ∨ Record.id row ≠ id ∧ row ∈ table.rows) :
    folder.Mirrors after changed where
  once := hsets.once
  named name entry hentry hext := by
    by_cases hname : name = folder.fileName id
    · subst hname
      obtain ⟨record, hrecord, rfl⟩ := hnew entry ((hsets.here entry).1 hentry)
      exact ⟨record, hrecord, rfl⟩
    · exact h.named name entry ((hsets.mem_away hname).1 hentry) hext
  rows row := by
    rw [hrows]
    constructor
    · rintro (⟨rfl, entry, hsome, hrecord⟩ | ⟨hid, hrow⟩)
      · exact ⟨_, entry, (hsets.here entry).2 hsome, hextension, hrecord⟩
      · obtain ⟨name, entry, hentry, hext, hrecord⟩ := (h.rows row).1 hrow
        -- the file of another id has another name
        have hname : name ≠ folder.fileName id := by
          rw [h.name_eq hentry hext hrecord]
          exact fun hsame => hid (fileName_injective hsame)
        exact ⟨name, entry, (hsets.mem_away hname).2 hentry, hext, hrecord⟩
    · rintro ⟨name, entry, hentry, hext, hrecord⟩
      -- the file that was set holds the record of the id, all other files hold what they held
      by_cases hname : name = folder.fileName id
      · subst hname
        have hsome := (hsets.here entry).1 hentry
        obtain ⟨record, hother, hid⟩ := hnew entry hsome
        cases hother.symm.trans hrecord
        exact .inl ⟨hid, entry, hsome, hrecord⟩
      · have hbefore := (hsets.mem_away hname).1 hentry
        have hid : Record.id row ≠ id := by
          rintro rfl
          exact hname (h.name_eq hbefore hext hrecord)
        exact .inr ⟨hid, (h.rows row).2 ⟨name, entry, hbefore, hext, hrecord⟩⟩

/-- The entry that a record is written to a directory as. -/
def entryOf (record : ρ) : Entry := .file (Record.page record).toUTF8

/-- A record that is written to the file of its name is a row that is put in the table. -/
theorem Mirrors.put (h : folder.Mirrors directory table) (hext : '.' ∉ folder.extension.toList)
    {record : ρ} (htakes : folder.Takes record) :
    folder.Mirrors (directory.put (folder.fileName (Record.id record)) (entryOf record))
      (table.insert record) := by
  have hback : recordOf? (entryOf record) = some record := htakes.survives
  refine h.sets (htakes.extension_eq hext) (Directory.sets_put h.once _ (entryOf record)) ?_ ?_
  · rintro entry hsome
    cases hsome
    exact ⟨record, hback, rfl⟩
  · intro row
    have hrow : (∃ entry, some (entryOf record) = some entry ∧ recordOf? entry = some row)
        ↔ row = record := by
      constructor
      · rintro ⟨entry, hsome, hrecord⟩
        cases hsome
        exact Option.some.inj (hrecord.symm.trans hback)
      · rintro rfl
        exact ⟨_, rfl, hback⟩
    rw [Table.mem_insert_iff, hrow]

/-- A file that is removed is a row that is taken from the table. -/
theorem Mirrors.remove (h : folder.Mirrors directory table) {row : ρ} (hrow : row ∈ table.rows) :
    folder.Mirrors (directory.remove (folder.fileName (Record.id row)))
      (table.erase (Record.id row)) := by
  obtain ⟨entry, hentry, hextension, -⟩ := h.file_of_row hrow
  refine h.sets hextension (Directory.sets_remove h.once hentry) nofun fun other => ?_
  rw [Table.mem_erase]
  exact ⟨fun hother => .inr hother.symm, fun hother => hother.elim
    (fun hnone => nomatch hnone.2) fun hother => hother.symm⟩

/-- The entries of a directory that are none of the folder's files. -/
def foreign (folder : Folder) (directory : Directory) : Directory :=
  directory.filter fun entry => extension? entry.1 ≠ some folder.extension

/-- Nothing on a disk has changed but files of the folder. -/
structure Spares (folder : Folder) (before after : Disk) : Prop where
  elsewhere : ∀ path, path ≠ folder.path → after.directory? path = before.directory? path
  within : (after.directory? folder.path).map folder.foreign
    = (before.directory? folder.path).map folder.foreign

theorem Spares.refl (folder : Folder) (disk : Disk) : folder.Spares disk disk :=
  ⟨fun _ _ => rfl, rfl⟩

/-- What two writes spare one after the other, they spare together. -/
theorem Spares.trans {before middle last : Disk} (h₁ : folder.Spares before middle)
    (h₂ : folder.Spares middle last) : folder.Spares before last where
  elsewhere path hpath := (h₂.elsewhere path hpath).trans (h₁.elsewhere path hpath)
  within := h₂.within.trans h₁.within

/-- Setting a file of the folder spares other directories and files with other extensions. -/
theorem spares_of_sets {new : Option Entry}
    (hdirectory : disk.directory? folder.path = some directory)
    (hextension : extension? (folder.fileName id) = some folder.extension)
    (hsets : Directory.Sets (folder.fileName id) new directory after) :
    folder.Spares disk (disk.setDirectory folder.path after) where
  elsewhere path hpath := by
    rw [Disk.directory?_setDirectory, if_neg hpath.symm]
  within := by
    have hforeign : folder.foreign after = folder.foreign directory :=
      hsets.filter (p := fun name => extension? name ≠ some folder.extension) (by simp [hextension])
    rw [Disk.directory?_setDirectory, if_pos rfl, hdirectory, Option.map_some, Option.map_some,
      hforeign]

/-- Writing the file of a record that the folder takes succeeds. -/
theorem store_eq (hdirectory : disk.directory? folder.path = some directory)
    (h : folder.Mirrors directory table) (hext : '.' ∉ folder.extension.toList) {record : ρ}
    (htakes : folder.Takes record) :
    folder.store disk (folder.fileName (Record.id record)) record
      = .ok (disk.setDirectory folder.path
          (directory.put (folder.fileName (Record.id record)) (entryOf record))) := by
  have hwrite : directory.writeFile (folder.fileName (Record.id record))
        (Record.page record).toUTF8
      = .ok (directory.put (folder.fileName (Record.id record)) (entryOf record)) := by
    unfold Directory.writeFile
    rw [if_neg (by simpa using htakes.noNul), if_neg (Nat.not_lt.2 htakes.short)]
    split
    · -- what stands under the name is a record, so it is no folder
      rename_i hfolder
      obtain ⟨_, hrecord, -⟩ := h.named _ _ (Directory.mem_of_entry? hfolder)
        (htakes.extension_eq hext)
      cases hrecord
    · rfl
  unfold store change
  rw [hdirectory]
  simp only [hwrite]

theorem removeFile_eq (h : folder.Mirrors directory table) {row : ρ} (hrow : row ∈ table.rows) :
    directory.removeFile (folder.fileName (Record.id row))
      = .ok (directory.remove (folder.fileName (Record.id row))) := by
  obtain ⟨entry, hentry, -, hrecord⟩ := h.file_of_row hrow
  obtain ⟨above, below, rfl, habove, -, -⟩ := Directory.split_of_mem h.once hentry
  unfold Directory.removeFile
  rw [Directory.entry?_append habove]
  cases entry with
  | file content => rfl
  | folder => cases hrecord

/-! ## One call -/

/-- A store of files and a table, side by side: the same ids have been drawn for both, and the files
mirror the table. Since the start, nothing has changed on the disk but files of the folder. -/
structure InStep (folder : Folder) (start files memory : World) (table : Table ρ) : Prop where
  worlds : memory = { files with disk := memory.disk }
  ids : files.ids = start.ids
  mirrors : ∃ directory, files.disk.directory? folder.path = some directory
    ∧ folder.Mirrors directory table
  spares : folder.Spares start.disk files.disk

/-- What a write has to give: one answer from both, which are in step again. -/
structure Matches {α : Type} (folder : Folder) (start : World) (files : Except StoreError α × World)
    (memory : Outcome (Table ρ) α) : Prop where
  answer : files.1 = memory.1
  inStep : folder.InStep start files.2 memory.2.2 memory.2.1

variable {start files memory : World}

theorem InStep.readings (h : folder.InStep start files memory table) :
    (Store.files (ρ := ρ) folder).readings files.disk
      = (Store.memory table).readings memory.disk := by
  obtain ⟨directory, hdirectory, hmirrors⟩ := h.mirrors
  show Readings.ofListing (folder.listing files.disk) = .ofListing (.ok table.rows)
  rw [listing_eq hdirectory, hmirrors.listed_eq]

/-- The file of an id is set, and the table with it. -/
theorem InStep.set {changed : Table ρ} {new : Option Entry}
    (h : folder.InStep start files memory table)
    (hdirectory : files.disk.directory? folder.path = some directory)
    (hextension : extension? (folder.fileName id) = some folder.extension)
    (hsets : Directory.Sets (folder.fileName id) new directory after)
    (hmirrors : folder.Mirrors after changed) :
    folder.InStep start { files with disk := files.disk.setDirectory folder.path after } memory
      changed where
  worlds := h.worlds
  ids := h.ids
  mirrors := ⟨after, by rw [Disk.directory?_setDirectory, if_pos rfl], hmirrors⟩
  spares := h.spares.trans (spares_of_sets hdirectory hextension hsets)

/-- The file of a record is written, and the row put in the table. -/
theorem InStep.put (h : folder.InStep start files memory table)
    (hdirectory : files.disk.directory? folder.path = some directory)
    (hmirrors : folder.Mirrors directory table) (hext : '.' ∉ folder.extension.toList) {record : ρ}
    (htakes : folder.Takes record) :
    folder.InStep start
      { files with
        disk := files.disk.setDirectory folder.path
          (directory.put (folder.fileName (Record.id record)) (entryOf record)) }
      memory (table.insert record) :=
  h.set hdirectory (htakes.extension_eq hext) (Directory.sets_put hmirrors.once _ _)
    (hmirrors.put hext htakes)

/-- Drawing an id leaves both in step. -/
theorem InStep.afterNaming (h : folder.InStep start files memory table) (record : ρ) :
    folder.InStep start (files.afterNaming record) (memory.afterNaming record) table := by
  obtain ⟨hworlds, hids, hmirrors, hspares⟩ := h
  rw [hworlds]
  unfold World.afterNaming
  split
  · exact ⟨rfl, hids, hmirrors, hspares⟩
  · exact ⟨rfl, hids, hmirrors, hspares⟩

theorem InStep.named_eq (h : folder.InStep start files memory table) (record : ρ) :
    memory.named record = files.named record := by
  rw [h.worlds]
  rfl

/-- An addition is answered alike and leaves the stores in step. -/
theorem InStep.add (h : folder.InStep start files memory table)
    (hext : '.' ∉ folder.extension.toList) {record : ρ}
    (htakes : folder.Takes (files.named record)) :
    folder.Matches start (folder.add record files) (table.add record memory) := by
  have hafter := h.afterNaming record
  obtain ⟨directory, hdirectory, hmirrors⟩ := hafter.mirrors
  have hlocate := hmirrors.locate_eq hdirectory (Record.id (files.named record))
  unfold Folder.add Table.add
  rw [h.named_eq]
  simp only [htakes.fileId, not_true_eq_false, if_false, hlocate]
  -- a taken id is a conflict on both sides
  by_cases hheld : table.contains (Record.id (files.named record)) = true
  · simp only [hheld, if_true]
    exact ⟨rfl, hafter⟩
  · have hmissing : (StoreError.missing ρ (Record.id (files.named record))).isNotFound = true := rfl
    simp only [hheld, Bool.false_eq_true, if_false, hmissing, if_true,
      store_eq hdirectory hmirrors hext htakes, settle]
    exact ⟨rfl, hafter.put hdirectory hmirrors hext htakes⟩

theorem InStep.update (h : folder.InStep start files memory table)
    (hext : '.' ∉ folder.extension.toList) {record : ρ} (htakes : folder.Takes record) :
    folder.Matches start (folder.update record files) (table.write (.update record) memory) := by
  obtain ⟨directory, hdirectory, hmirrors⟩ := h.mirrors
  have hlocate := hmirrors.locate_eq hdirectory (Record.id record)
  unfold Folder.update Table.write
  by_cases hheld : table.contains (Record.id record) = true
  · rw [hlocate]
    simp only [hheld, if_true, store_eq hdirectory hmirrors hext htakes, settle]
    exact ⟨rfl, h.put hdirectory hmirrors hext htakes⟩
  · rw [hlocate]
    simp only [hheld, Bool.false_eq_true, if_false]
    exact ⟨rfl, h⟩

theorem InStep.delete (h : folder.InStep start files memory table) (id : String) :
    folder.Matches start (folder.delete ρ id files) (table.write (.delete id) memory) := by
  obtain ⟨directory, hdirectory, hmirrors⟩ := h.mirrors
  have hlocate := hmirrors.locate_eq hdirectory id
  unfold Folder.delete Table.write
  -- a row is deleted with its file, and an id without a row has no file
  by_cases hheld : table.contains id = true
  · obtain ⟨row, hrow, rfl⟩ := Table.contains_eq_true_iff.1 hheld
    obtain ⟨entry, hentry, hextension, -⟩ := hmirrors.file_of_row hrow
    have hchange : folder.change files.disk "remove" (folder.fileName (Record.id row))
          (fun directory => directory.removeFile (folder.fileName (Record.id row)))
        = .ok (files.disk.setDirectory folder.path
            (directory.remove (folder.fileName (Record.id row)))) := by
      unfold change
      rw [hdirectory]
      simp only [removeFile_eq hmirrors hrow]
    rw [hlocate]
    simp only [hheld, if_true, hchange, settle]
    exact ⟨rfl, h.set hdirectory hextension (Directory.sets_remove hmirrors.once hentry)
      (hmirrors.remove hrow)⟩
  · rw [hlocate]
    simp only [hheld, Bool.false_eq_true, if_false]
    exact ⟨rfl, h⟩

end Folder

/-! ## Runs of calls -/

section Runs

variable {ρ : Type} [Record ρ] {folder : Folder} {start files memory world : World}
  {table : Table ρ} {directory : Directory} {operations : List (Operation ρ)}

/-- What is written can be kept in a file of its own name, under any id that may be drawn for it. -/
def Operation.Keepable (folder : Folder) (ids : Nat → String) : Operation ρ → Prop
  | .add record => ∀ world : World, world.ids = ids → folder.Takes (world.named record)
  | .update record => folder.Takes record
  | .all => True
  | .get _ => True
  | .delete _ => True

/-- A call is answered alike by both, and leaves them in step. -/
theorem Folder.InStep.perform (h : folder.InStep start files memory table)
    (hext : '.' ∉ folder.extension.toList) (operation : Operation ρ)
    (hkeepable : operation.Keepable folder start.ids) :
    ∃ (answer : Answer ρ) (files' memory' : World) (table' : Table ρ),
      operation.perform (.files folder) files = (answer, .files folder, files')
        ∧ operation.perform (.memory table) memory = (answer, .memory table', memory')
        ∧ folder.InStep start files' memory' table' := by
  cases operation with
  | all =>
    refine ⟨_, files, memory, table, rfl, ?_, h⟩
    simp only [Operation.perform, h.readings]
  | get id =>
    refine ⟨_, files, memory, table, rfl, ?_, h⟩
    simp only [Operation.perform, h.readings]
  | add record =>
    obtain ⟨hanswer, hstep⟩ := h.add hext (hkeepable files h.ids)
    refine ⟨.record (folder.add record files).1, _, _, _, rfl, ?_, hstep⟩
    rw [hanswer]
    rfl
  | update record =>
    obtain ⟨hanswer, hstep⟩ := h.update hext hkeepable
    refine ⟨.done (folder.update record files).1, _, _, _, rfl, ?_, hstep⟩
    rw [hanswer]
    rfl
  | delete id =>
    obtain ⟨hanswer, hstep⟩ := h.delete id
    refine ⟨.done (folder.delete ρ id files).1, _, _, _, rfl, ?_, hstep⟩
    rw [hanswer]
    rfl

/-- A run of calls is answered alike over files and over the table, and leaves them in step. -/
theorem Folder.InStep.performAll (h : folder.InStep start files memory table)
    (hext : '.' ∉ folder.extension.toList)
    (hkeepable : ∀ operation ∈ operations, operation.Keepable folder start.ids) :
    ∃ (answers : List (Answer ρ)) (files' memory' : World) (table' : Table ρ),
      (Store.files folder).performAll files operations = (answers, .files folder, files')
        ∧ (Store.memory table).performAll memory operations = (answers, .memory table', memory')
        ∧ folder.InStep start files' memory' table' := by
  -- the stores are in step again after each call, with ids drawn from one sequence
  induction operations generalizing files memory table with
  | nil => exact ⟨[], files, memory, table, rfl, rfl, h⟩
  | cons operation rest ih =>
    obtain ⟨answer, files', memory', table', hfiles, hmemory, hstep⟩ :=
      h.perform hext operation (hkeepable operation List.mem_cons_self)
    obtain ⟨answers, files'', memory'', table'', hfiles', hmemory', hlast⟩ :=
      ih hstep fun operation hoperation => hkeepable operation (.tail _ hoperation)
    refine ⟨answer :: answers, files'', memory'', table'', ?_, ?_, hlast⟩
    · simp only [Store.performAll, hfiles, hfiles']
    · simp only [Store.performAll, hmemory, hmemory']

/-- **A directory of files that are named for their records is a table.** Over files that mirror a
table, a store of files answers any run of calls as the table does, with the same errors and the
same listings, as long as what is written can be kept. After every step, that is after each part of
the run that comes first, the files mirror the table that there is then, and all that is not a file
of the folder is as it was. An extension has no point in it, as it is what follows the last one.

Of the records that are kept in files, the plain ones are given back by their files: texts, flags
and names whatever they are, and free-form values without floats that are not nested too deep. -/
theorem files_act_as_table (hext : '.' ∉ folder.extension.toList)
    (hdirectory : world.disk.directory? folder.path = some directory)
    (hmirrors : folder.Mirrors directory table)
    (hkeepable : ∀ operation ∈ operations, operation.Keepable folder world.ids) :
    (∀ first, first <+: operations →
      ∃ (answers : List (Answer ρ)) (files memory : World) (directory' : Directory)
        (table' : Table ρ),
        (Store.files folder).performAll world first = (answers, .files folder, files)
          ∧ (Store.memory table).performAll world first = (answers, .memory table', memory)
          ∧ files.disk.directory? folder.path = some directory'
          ∧ folder.Mirrors directory' table'
          ∧ folder.Spares world.disk files.disk)
      ∧ ∀ plain : ρ → Prop, Filed ρ plain → ∀ record, plain record → Record.id record ≠ "" →
        Survives record := by
  refine ⟨fun first hfirst => ?_, fun plain hfiled record hplain hid => hfiled.survives hplain hid⟩
  -- at the start both worlds are the same one
  have hstart : folder.InStep world world world table :=
    ⟨rfl, rfl, ⟨directory, hdirectory, hmirrors⟩, .refl folder world.disk⟩
  obtain ⟨answers, files, memory, table', hfiles, hmemory, hstep⟩ := hstart.performAll hext
    fun operation hoperation => hkeepable operation (hfirst.subset hoperation)
  obtain ⟨directory', hdirectory', hmirrors'⟩ := hstep.mirrors
  exact ⟨answers, files, memory, directory', table', hfiles, hmemory, hdirectory', hmirrors',
    hstep.spares⟩

end Runs

namespace Resources

def resources : Folder := ⟨"resources", "src"⟩

def bravo : Source := { id := "b", name := "Bravo", url := "http://b" }

/-- One record, and a file that is none of the folder's. -/
def directory : Directory :=
  Directory.put (resources.fileName "b") (Folder.entryOf bravo) [("notes.txt", .folder)]

def table : Table Source := Table.empty.insert bravo

/-- A world in which the next id is always `5f2c`. -/
def world : World := { ids := fun _ => "5f2c", disk := [("resources", directory)] }

/-- A record is added under a drawn id and another one above it in the listing; one is changed, and
one that is not there is asked for. -/
def operations : List (Operation Source) :=
  [.add { bravo with id := "" }, .add { bravo with id := "a" }, .add bravo,
   .update { bravo with name := "Renamed" }, .get "c", .delete "b", .all]

/-- Sources with the ids of the run go into files of the folder. -/
theorem takes {source : Source} (h : source.id ∈ ["5f2c", "a", "b"]) : resources.Takes source := by
  have hnames : ∀ id ∈ ["5f2c", "a", "b"], Folder.isFileId id = true
      ∧ '\x00' ∉ (resources.fileName id).toList
      ∧ (resources.fileName id).utf8ByteSize ≤ Directory.nameLimit ∧ id ≠ "" := by decide
  obtain ⟨hfile, hnul, hshort, hid⟩ := hnames source.id h
  exact ⟨hfile, hnul, hshort, Filed.source.survives trivial hid⟩

/-- The directory is built from one that mirrors the empty table, by writing the source. -/
theorem mirrors : resources.Mirrors directory table := by
  have hempty : resources.Mirrors [("notes.txt", .folder)] (Table.empty : Table Source) := by
    have hother : Folder.extension? "notes.txt" ≠ some resources.extension := by decide
    refine ⟨by decide, fun name entry hentry hextension => ?_, fun row => ⟨nofun, ?_⟩⟩
    · cases List.mem_singleton.1 hentry
      exact absurd hextension hother
    · rintro ⟨name, entry, hentry, hextension, -⟩
      cases List.mem_singleton.1 hentry
      exact absurd hextension hother
  have hbravo : resources.Takes bravo := takes (by decide)
  exact hempty.put (by decide) hbravo

/-- Every record that the run writes can be kept in a file. -/
theorem keepable : ∀ operation ∈ operations, operation.Keepable resources world.ids := by
  simp only [operations, List.forall_mem_cons]
  refine ⟨fun world hids => takes ?_, fun world hids => takes ?_, fun world hids => takes ?_,
    takes (by decide), trivial, trivial, trivial, nofun⟩
  · -- the record without an id gets the one that is drawn for it
    show world.nextId ∈ ["5f2c", "a", "b"]
    unfold World.nextId
    rw [hids]
    exact List.mem_cons_self
  · show "a" ∈ ["5f2c", "a", "b"]
    decide
  · show "b" ∈ ["5f2c", "a", "b"]
    decide

end Resources

open Resources

/-- A run with additions, an update and a deletion, over files and over a table. -/
theorem files_act_as_table_resources :
    '.' ∉ resources.extension.toList ∧ world.disk.directory? resources.path = some directory
      ∧ resources.Mirrors directory table
      ∧ (∀ operation ∈ operations, operation.Keepable resources world.ids)
      ∧ ∃ (answers : List (Answer Source)) (files memory : World) (directory' : Directory)
        (table' : Table Source),
        (Store.files resources).performAll world operations = (answers, .files resources, files)
          ∧ (Store.memory table).performAll world operations = (answers, .memory table', memory)
          ∧ files.disk.directory? resources.path = some directory'
          ∧ resources.Mirrors directory' table'
          ∧ resources.Spares world.disk files.disk
          ∧ Survives bravo := by
  have hext : '.' ∉ resources.extension.toList := by decide
  have hdirectory : world.disk.directory? resources.path = some directory := rfl
  obtain ⟨hruns, hplain⟩ := files_act_as_table hext hdirectory mirrors keepable
  obtain ⟨answers, files, memory, directory', table', hfiles, hmemory, hthere, hmirrors, hspares⟩ :=
    hruns operations (List.prefix_refl _)
  have hbravo : Survives bravo := hplain _ .source bravo trivial (by decide)
  exact ⟨hext, hdirectory, mirrors, keepable, answers, files, memory, directory', table', hfiles,
    hmemory, hthere, hmirrors, hspares, hbravo⟩

end TenantConsole
