import TenantConsole.Proofs.FileStores

/-!
# What a write to record files does to the records beside it

Files count by the ids inside them, and whoever runs the console may name them freely. A record that
is updated or deleted is located by its id, so that no other record is touched. A new record is
written to the file that is named for its id, and nobody looks what that file holds.

* **`add_ok`**: a record is added by setting that file, and no file had held a record of the id.
* **`Swaps.first_swapped`**: what is read under an id after a swap is what has been put there, or
  the next record under the id.
* **`file_writes_affect`** says for each write which records are still listed, and what is read
  under the id. A record is lost exactly if it is in the file that an addition overwrites and in no
  other; a deletion leaves something under the id exactly if a second file holds it.
-/

namespace TenantConsole

open Readings

namespace Readings.Swaps

variable {ρ : Type} [Record ρ] {id : String} {old : ρ} {new : Option ρ} {before after : List ρ}

/-- Under the id stands what has been put there, or else the next record. -/
theorem first_swapped (h : Swaps id [old] new.toList before after) :
    firstWithId id after = new.or (Readings.namesakes id before)[1]? := by
  cases new with
  | none => exact h.first_next
  | some record => exact h.first_after

end Readings.Swaps

namespace Folder

section Additions

variable {ρ : Type} [Record ρ] {folder : Folder} {disk : Disk} {world world' : World}
  {directory after : Directory} {id : String}

/-- An id that is not found is in none of the files. -/
theorem under_of_missing {error : StoreError} (h : folder.locate ρ disk id = .error error)
    (herror : error.isNotFound = true) :
    ∃ directory, disk.directory? folder.path = some directory
      ∧ under id (recordsIn (ρ := ρ) folder.extension directory) = [] := by
  unfold locate at h
  cases hdirectory : disk.directory? folder.path with
  | none =>
    unfold records Folder.directory at h
    rw [hdirectory] at h
    cases h
    cases herror
  | some directory =>
    rw [records_eq hdirectory] at h
    simp only at h
    -- a record that was found would have been no error
    split at h
    · cases h
    · rename_i hnone
      refine ⟨directory, rfl, List.filter_eq_nil_iff.2 fun file hfile => ?_⟩
      exact List.find?_eq_none.1 hnone file ((List.mergeSort_perm _ _).mem_iff.2 hfile)

/-- A record whose id is not located is written to the file that is named for the id. -/
theorem add_of_missing {record : ρ} (hfile : isFileId (Record.id record) = true)
    (hlocate : folder.locate ρ world.disk (Record.id record)
      = .error (.missing ρ (Record.id record))) :
    folder.add record world
      = settle world record
        (folder.store world.disk (folder.fileName (Record.id record)) record) := by
  have hid : Record.id record ≠ "" := by
    intro hid
    rw [hid] at hfile
    exact absurd hfile (by decide)
  have hlacks : ¬ World.lacksId record = true := by simpa [World.lacksId] using hid
  have hmissing : (StoreError.missing ρ (Record.id record)).isNotFound = true := rfl
  unfold add World.named World.afterNaming
  simp only [if_neg hlacks, hfile, not_true_eq_false, if_false, hlocate, hmissing, if_true]

/-- **A record is added by setting the file that is named for its id**, of which no record had been
found. -/
theorem add_ok {record written : ρ} (h : folder.add record world = (.ok written, world')) :
    ∃ directory, world.disk.directory? folder.path = some directory
      ∧ under (Record.id written) (recordsIn (ρ := ρ) folder.extension directory) = []
      ∧ world'.disk = world.disk.setDirectory folder.path
          (directory.put (folder.fileName (Record.id written)) (entryOf written)) := by
  unfold add at h
  simp only [Table.afterNaming_disk] at h
  split at h
  · cases h
  · -- an id that is located is a conflict, and any other failure than a missing id is passed on
    split at h
    · cases h
    · rename_i error hlocate
      split at h
      · rename_i hmissing
        obtain ⟨directory, hdirectory, hunder⟩ := under_of_missing hlocate hmissing
        obtain ⟨cause, hrefused, -⟩ | ⟨found, changed, hfound, hwrite, hmade⟩ :=
          folder.change_cases world.disk "write"
            (folder.fileName (Record.id (world.named record))) fun directory =>
              directory.writeFile (folder.fileName (Record.id (world.named record)))
                (Record.page (world.named record)).toUTF8
        · rw [store, hrefused] at h
          cases h
        · rw [store, hmade] at h
          cases h
          cases hfound.symm.trans hdirectory
          rw [writeFile_ok hwrite]
          exact ⟨directory, hdirectory, hunder, rfl⟩
      · cases h

/-- **What an addition loses.** A record that had been listed is still listed exactly if another
file than the one that is set holds it. -/
theorem mem_listed_put {written found : ρ} (hnames : (directory.map Prod.fst).Nodup)
    (hback : ∀ read, readBack written = some read → Record.id read = Record.id written)
    (hunder : under (Record.id written) (recordsIn (ρ := ρ) folder.extension directory) = [])
    (hfound : found ∈ listed ρ folder.extension directory) :
    found ∈ listed ρ folder.extension
        (directory.put (folder.fileName (Record.id written)) (entryOf written))
      ↔ ∃ name, name ≠ folder.fileName (Record.id written)
        ∧ (name, found) ∈ recordsIn folder.extension directory := by
  have hsets := Directory.sets_put hnames (folder.fileName (Record.id written)) (entryOf written)
  -- one way round the file that is set is ruled out, the other way round the other file is still
  -- there
  constructor
  · intro hlisted
    obtain ⟨name, hname⟩ := mem_listed.1 hlisted
    obtain ⟨entry, hentry, hextension, hrecord⟩ := mem_recordsIn.1 hname
    have hother : name ≠ folder.fileName (Record.id written) := by
      rintro rfl
      -- the file that is set holds a record of the new id, and none had been listed
      obtain rfl : entryOf written = entry := Option.some.inj ((hsets.here entry).1 hentry)
      obtain ⟨before, hbefore⟩ := mem_listed.1 hfound
      have hmem : (before, found) ∈ under (Record.id written)
          (recordsIn folder.extension directory) :=
        List.mem_filter.2 ⟨hbefore, decide_eq_true (hback found hrecord)⟩
      rw [hunder] at hmem
      cases hmem
    exact ⟨name, hother,
      mem_recordsIn.2 ⟨entry, (hsets.mem_away hother).1 hentry, hextension, hrecord⟩⟩
  · rintro ⟨name, hother, hname⟩
    obtain ⟨entry, hentry, hextension, hrecord⟩ := mem_recordsIn.1 hname
    exact mem_listed.2 ⟨name,
      mem_recordsIn.2 ⟨entry, (hsets.mem_away hother).2 hentry, hextension, hrecord⟩⟩

end Additions

end Folder

/-! ## The three writes -/

section Writes

variable {ρ : Type} [Record ρ] {plain : ρ → Prop} {folder : Folder} {world : World}

/-- What a store of the files reads on a disk. -/
def Folder.reads (ρ : Type) [Record ρ] (folder : Folder) (disk : Disk) : Readings ρ :=
  (Store.files folder).readings disk

theorem Folder.reads_get {disk : Disk} {records : List ρ}
    (hlisting : folder.listing disk = .ok records) (id : String) :
    (folder.reads ρ disk).get id = orMissing id (firstWithId id records) := by
  show (Readings.ofListing (folder.listing disk)).get id = _
  rw [hlisting]
  rfl

/-- No file is listed for a record without an id. -/
theorem Folder.id_of_listing {disk : Disk} {records : List ρ}
    (hlisting : folder.listing disk = .ok records) {record : ρ} (hrecord : record ∈ records) :
    Record.id record ≠ "" := by
  unfold Folder.listing Folder.records Folder.directory at hlisting
  split at hlisting
  · rename_i directory hdirectory
    obtain rfl : Folder.listed ρ folder.extension directory = records := Except.ok.inj hlisting
    obtain ⟨name, hname⟩ := Folder.mem_listed.1 hrecord
    obtain ⟨entry, -, -, hheld⟩ := Folder.mem_recordsIn.1 hname
    -- a directory holds no record, and of a file the empty id is refused
    cases entry with
    | folder => cases hheld
    | file content =>
      obtain ⟨text, -, hread⟩ := Option.bind_eq_some_iff.1 hheld
      obtain ⟨read, -, hread⟩ := Option.bind_eq_some_iff.1 hread
      split at hread
      · cases hread
      · cases hread
        assumption
  · cases hlisting

/-- The answer of a store of files is the answer of their folder. -/
theorem Folder.files_write_iff {α : Type} {write : Write ρ α} {answer : Except StoreError α}
    {world' : World} :
    (Store.files folder).write write world = (answer, .files folder, world')
      ↔ folder.write write world = (answer, world') := by
  constructor
  · intro h
    have hanswer := congrArg (fun outcome => outcome.1) h
    have hworld := congrArg (fun outcome => outcome.2.2) h
    exact Prod.ext hanswer hworld
  · intro h
    have hwrite : (Store.files folder).write write world
        = ((folder.write write world).1, .files folder, (folder.write write world).2) := rfl
    rw [hwrite, h]

namespace Folder

/-- An addition changes the listing by what the overwritten file held and no other file holds. -/
theorem add_affects (hkind : Stored ρ plain) (hdisk : world.disk.NamesOnce) {record written : ρ}
    {world' : World} (h : folder.add record world = (.ok written, world')) :
    ∃ directory before after, world.disk.directory? folder.path = some directory
      ∧ (folder.reads ρ world.disk).all = .ok before
      ∧ (folder.reads ρ world'.disk).all = .ok after
      ∧ ∀ found ∈ before, found ∈ after
        ↔ ∃ name, name ≠ folder.fileName (Record.id written)
          ∧ (name, found) ∈ recordsIn folder.extension directory := by
  obtain ⟨directory, hdirectory, hunder, hafter⟩ := add_ok h
  refine ⟨directory, _, _, hdirectory, listing_eq hdirectory, ?_, fun found hfound =>
    mem_listed_put (hdisk _ _ hdirectory) (fun _ => hkind.id_of_readBack) hunder hfound⟩
  rw [hafter]
  exact listing_eq (by rw [Disk.directory?_setDirectory, if_pos rfl])

/-- An update leaves the records of other ids, and reads back under its own id what the page is read
as, or the next record of the id. -/
theorem update_affects (hkind : Stored ρ plain) (hdisk : world.disk.NamesOnce) {record : ρ}
    {world' : World} (h : folder.update record world = (.ok (), world')) :
    ∃ before after, (folder.reads ρ world.disk).all = .ok before
      ∧ (folder.reads ρ world'.disk).all = .ok after
      ∧ apart (Record.id record) after = apart (Record.id record) before
      ∧ (folder.reads ρ world'.disk).get (Record.id record)
        = orMissing (Record.id record)
          ((readBack record).or (namesakes (Record.id record) before)[1]?)
      ∧ (plain record → (folder.reads ρ world'.disk).get (Record.id record) = .ok record) := by
  obtain ⟨error, hrefused, -⟩ | ⟨disk', old, hmade, -, before, after, hbefore, hafter, hswaps⟩ :=
    folder.update_cases record hdisk fun _ => hkind.id_of_readBack
  · rw [hrefused] at h
    cases h
  · rw [hmade] at h
    cases h
    refine ⟨before, after, hbefore, hafter, hswaps.apart, ?_, fun hplain => ?_⟩
    · rw [reads_get hafter, hswaps.first_swapped]
    · obtain ⟨hold, hsame⟩ := of_firstWithId hswaps.first_before
      have hid : Record.id record ≠ "" := hsame ▸ id_of_listing hbefore hold
      -- a plain record comes back from its page, so it needs no other file
      have hsurvives : readBack record = some record :=
        survives_of_page (hkind.returns hplain).page hid
      rw [reads_get hafter, hswaps.first_swapped, hsurvives]
      rfl

theorem delete_affects (hdisk : world.disk.NamesOnce) {id : String} {world' : World}
    (h : folder.delete ρ id world = (.ok (), world')) :
    ∃ before after, (folder.reads ρ world.disk).all = .ok before
      ∧ (folder.reads ρ world'.disk).all = .ok after
      ∧ apart id after = apart id before
      ∧ (folder.reads ρ world'.disk).get id = orMissing id (namesakes id before)[1]? := by
  obtain ⟨error, hrefused, -⟩ | ⟨disk', old, hmade, -, before, after, hbefore, hafter, hswaps⟩ :=
    folder.delete_cases (ρ := ρ) id hdisk
  · rw [hrefused] at h
    cases h
  · rw [hmade] at h
    cases h
    refine ⟨before, after, hbefore, hafter, hswaps.apart, ?_⟩
    rw [reads_get hafter, hswaps.first_next]

end Folder

/-- **What a write to record files does to the other records.** Over any directories, whatever their
files are named and hold:

* after an addition, a record that had been listed is still listed exactly if another file than the
  one named for the new id holds it, so at most the record in that file is lost;
* after an update, all records with another id are listed as before, and under the id stands what
  the page reads back as, or else the next record of the id; for a plain record that is the record
  itself;
* after a deletion, all records with another id are listed as before, and under the id stands the
  next record of the id, if there is one. -/
theorem file_writes_affect (hkind : Stored ρ plain) (hdisk : world.disk.NamesOnce) :
    (∀ (record written : ρ) (world' : World),
      (Store.files folder).write (.add record) world = (.ok written, .files folder, world') →
      ∃ directory before after, world.disk.directory? folder.path = some directory
        ∧ (folder.reads ρ world.disk).all = .ok before
        ∧ (folder.reads ρ world'.disk).all = .ok after
        ∧ ∀ found ∈ before, found ∈ after
          ↔ ∃ name, name ≠ folder.fileName (Record.id written)
            ∧ (name, found) ∈ Folder.recordsIn folder.extension directory)
      ∧ (∀ (record : ρ) (world' : World),
        (Store.files folder).write (.update record) world = (.ok (), .files folder, world') →
        ∃ before after, (folder.reads ρ world.disk).all = .ok before
          ∧ (folder.reads ρ world'.disk).all = .ok after
          ∧ apart (Record.id record) after = apart (Record.id record) before
          ∧ (folder.reads ρ world'.disk).get (Record.id record)
            = orMissing (Record.id record)
              ((Folder.readBack record).or (namesakes (Record.id record) before)[1]?)
          ∧ (plain record → (folder.reads ρ world'.disk).get (Record.id record) = .ok record))
      ∧ ∀ (id : String) (world' : World),
        (Store.files (ρ := ρ) folder).write (.delete id) world = (.ok (), .files folder, world') →
        ∃ before after, (folder.reads ρ world.disk).all = .ok before
          ∧ (folder.reads ρ world'.disk).all = .ok after
          ∧ apart id after = apart id before
          ∧ (folder.reads ρ world'.disk).get id = orMissing id (namesakes id before)[1]? := by
  refine ⟨fun record written world' hwrite => ?_, fun record world' hwrite => ?_,
    fun id world' hwrite => ?_⟩
  · exact Folder.add_affects hkind hdisk (Folder.files_write_iff.1 hwrite)
  · exact Folder.update_affects hkind hdisk (Folder.files_write_iff.1 hwrite)
  · exact Folder.delete_affects hdisk (Folder.files_write_iff.1 hwrite)

end Writes

/-! ## Files with names of their own -/

namespace Resources

def alpha : Source := { id := "a", name := "Alpha", url := "http://a" }

/-- Sources in files of these names. -/
def filed (files : List (String × Source)) : World :=
  { ids := fun _ => "5f2c",
    disk := [("resources", files.map fun file => (file.1, Folder.entryOf file.2))] }

section Over

variable {files : List (String × Source)}

/-- The folder finds the records that have been filed, if their files are in the order of their
ids. -/
theorem records_filed (hsorted : files.Pairwise fun a b => Folder.byId a b = true)
    (hfiles : ∀ file ∈ files, Folder.extension? file.1 = some "src" ∧ file.2.id ≠ "") :
    resources.records (filed files).disk = .ok files := by
  have hrecords : Folder.recordsIn "src" (files.map fun file => (file.1, Folder.entryOf file.2))
      = files := by
    rw [Folder.recordsIn_eq, List.filterMap_map]
    refine (List.filterMap_congr fun file hfile => ?_).trans List.filterMap_some
    obtain ⟨hextension, hid⟩ := hfiles file hfile
    exact Folder.held_eq_some_iff.2 ⟨hextension, Filed.source.survives trivial hid, rfl⟩
  show (Folder.records resources _ : Except StoreError (List (String × Source))) = _
  rw [Folder.records_eq rfl, Folder.sortedRecords]
  show Except.ok ((Folder.recordsIn "src" _).mergeSort Folder.byId) = _
  rw [hrecords, List.mergeSort_of_pairwise hsorted]

theorem namesOnce_filed (hnames : (files.map Prod.fst).Nodup) : (filed files).disk.NamesOnce := by
  intro path directory hdirectory
  obtain ⟨⟨found, entries⟩, hfound, rfl⟩ := Option.map_eq_some_iff.1 hdirectory
  cases List.mem_singleton.1 (List.mem_of_find?_eq_some hfound)
  rw [List.map_map]
  exact hnames

theorem all_filed (hsorted : files.Pairwise fun a b => Folder.byId a b = true)
    (hfiles : ∀ file ∈ files, Folder.extension? file.1 = some "src" ∧ file.2.id ≠ "") :
    (resources.reads Source (filed files).disk).all = .ok (files.map Prod.snd) := by
  show (resources.records (filed files).disk).map (List.map Prod.snd) = _
  rw [records_filed hsorted hfiles]
  rfl

end Over

/-- A source in a file that is named for the id of another one. -/
theorem records_misnamed :
    resources.records (filed [("b.src", alpha)]).disk = .ok [("b.src", alpha)] :=
  records_filed (List.pairwise_singleton _ _) (by decide)

/-- A source in two files. -/
theorem records_doubled :
    resources.records (filed [("x.src", alpha), ("y.src", alpha)]).disk
      = .ok [("x.src", alpha), ("y.src", alpha)] :=
  records_filed (by decide) (by decide)

/-- Adding `bravo` overwrites `b.src`, in which `alpha` had been. -/
theorem add_misnamed : (Store.files resources).write (.add bravo) (filed [("b.src", alpha)])
    = (.ok bravo, .files resources, filed [("b.src", bravo)]) := by
  have hlocate : resources.locate Source (filed [("b.src", alpha)]).disk "b"
      = .error (.missing Source "b") := by
    rw [Folder.locate, records_misnamed]
    rfl
  have hadd : resources.add bravo (filed [("b.src", alpha)])
      = (.ok bravo, filed [("b.src", bravo)]) := by
    have hfile : Folder.isFileId (Record.id bravo) = true := by decide
    rw [Folder.add_of_missing hfile hlocate]
    rfl
  exact Folder.files_write_iff.2 hadd

theorem locate_doubled :
    resources.locate Source (filed [("x.src", alpha), ("y.src", alpha)]).disk "a"
      = .ok "x.src" := by
  rw [Folder.locate, records_doubled]
  rfl

/-- The first of two files is removed, whatever sources they hold. Said of the very sources, it would
have their pages spelled out to compare the directories. -/
theorem remove_first (first second : Source) :
    resources.change (filed [("x.src", first), ("y.src", second)]).disk "remove" "x.src"
        (fun directory => directory.removeFile "x.src")
      = .ok (filed [("y.src", second)]).disk := rfl

theorem store_first (first second written : Source) :
    resources.store (filed [("x.src", first), ("y.src", second)]).disk "x.src" written
      = .ok (filed [("x.src", written), ("y.src", second)]).disk := rfl

/-- Deleting `a` removes the first of its two files. -/
theorem delete_doubled :
    (Store.files resources).write (.delete "a" : Write Source Unit)
        (filed [("x.src", alpha), ("y.src", alpha)])
      = (.ok (), .files resources, filed [("y.src", alpha)]) := by
  have hdelete : resources.delete Source "a" (filed [("x.src", alpha), ("y.src", alpha)])
      = (.ok (), filed [("y.src", alpha)]) := by
    rw [Folder.delete, locate_doubled]
    exact congrArg (Folder.settle _ ()) (remove_first alpha alpha)
  exact Folder.files_write_iff.2 hdelete

/-- Updating `a` rewrites the first of its two files. -/
theorem update_doubled :
    (Store.files resources).write (.update { alpha with name := "Renamed" })
        (filed [("x.src", alpha), ("y.src", alpha)])
      = (.ok (), .files resources,
        filed [("x.src", { alpha with name := "Renamed" }), ("y.src", alpha)]) := by
  have hupdate : resources.update { alpha with name := "Renamed" }
        (filed [("x.src", alpha), ("y.src", alpha)])
      = (.ok (), filed [("x.src", { alpha with name := "Renamed" }), ("y.src", alpha)]) := by
    have hid : Record.id { alpha with name := "Renamed" } = "a" := rfl
    rw [Folder.update, hid, locate_doubled]
    exact congrArg (Folder.settle _ ()) (store_first alpha alpha _)
  exact Folder.files_write_iff.2 hupdate

end Resources

open Resources

/-- An updated record is read under its id, although an old one is still in the second file. -/
theorem file_writes_affect_doubled :
    (filed [("x.src", alpha), ("y.src", alpha)]).disk.NamesOnce
      ∧ (Store.files resources).write (.update { alpha with name := "Renamed" })
          (filed [("x.src", alpha), ("y.src", alpha)])
        = (.ok (), .files resources,
          filed [("x.src", { alpha with name := "Renamed" }), ("y.src", alpha)])
      ∧ (resources.reads Source
          (filed [("x.src", { alpha with name := "Renamed" }), ("y.src", alpha)]).disk).get "a"
        = .ok { alpha with name := "Renamed" } := by
  have hnames : (filed [("x.src", alpha), ("y.src", alpha)]).disk.NamesOnce :=
    namesOnce_filed (by decide)
  obtain ⟨-, hupdate, -⟩ := @file_writes_affect Source _ (fun _ => True) resources
    (filed [("x.src", alpha), ("y.src", alpha)]) .source hnames
  obtain ⟨before, after, -, -, -, -, hget⟩ := hupdate _ _ update_doubled
  exact ⟨hnames, update_doubled, hget trivial⟩

/-- **Writes that reach too far, and not far enough.** A source is added under an id for which
another source's file is named, and that source is gone. A source in two files is deleted, and is
still read under its id. -/
theorem misnamed_record_lost :
    ((Store.files resources).write (.add bravo) (filed [("b.src", alpha)])
          = (.ok bravo, .files resources, filed [("b.src", bravo)])
        ∧ (resources.reads Source (filed [("b.src", alpha)]).disk).all = .ok [alpha]
        ∧ (resources.reads Source (filed [("b.src", bravo)]).disk).all = .ok [bravo])
      ∧ (Store.files resources).write (.delete "a" : Write Source Unit)
          (filed [("x.src", alpha), ("y.src", alpha)])
        = (.ok (), .files resources, filed [("y.src", alpha)])
      ∧ (resources.reads Source (filed [("y.src", alpha)]).disk).get "a" = .ok alpha := by
  have hbefore : (resources.reads Source (filed [("b.src", alpha)]).disk).all = .ok [alpha] :=
    all_filed (List.pairwise_singleton _ _) (by decide)
  have hafter : (resources.reads Source (filed [("b.src", bravo)]).disk).all = .ok [bravo] :=
    all_filed (List.pairwise_singleton _ _) (by decide)
  have hleft : resources.listing (filed [("y.src", alpha)]).disk = .ok [alpha] :=
    all_filed (List.pairwise_singleton _ _) (by decide)
  refine ⟨⟨add_misnamed, hbefore, hafter⟩, delete_doubled, ?_⟩
  rw [Folder.reads_get hleft]
  rfl

end TenantConsole
