import TenantConsole.Proofs.FileStores

/-!
# Entries that are no record files

A directory may hold anything beside the files of a store: files with another extension, files that
cannot be decoded, records without an id, other directories. Two directories that hold the same
record files in the same order agree, whatever else is in them (`Folder.Agree`).

* **`Directory.filter_put` and `Directory.filter_remove`**: to set or to remove a record file and
  then to leave out the other entries is the same in either order.
* **`Folder.Agree.perform`** is the step: over directories that agree, a call that adds nothing is
  answered alike. It sets or removes one file at most, which holds the record of the id that the
  call names, and the directories agree again.
* **`stray_files_unnoticed`** says so for any run of such calls, with what is listed.
-/

namespace TenantConsole

open Readings

namespace Directory

section Filters

variable {p : String × Entry → Bool} {directory : Directory} {name : String} {old new : Entry}

theorem entry?_of_mem (hnames : (directory.map Prod.fst).Nodup) (h : (name, old) ∈ directory) :
    directory.entry? name = some old := by
  obtain ⟨above, below, rfl, habove, -, -⟩ := split_of_mem hnames h
  exact entry?_append habove

/-- Setting an entry that the filter keeps and filtering again is filtering first and setting it
then. -/
theorem filter_put (hnames : (directory.map Prod.fst).Nodup) (hold : (name, old) ∈ directory)
    (hp : p (name, old) = true) :
    (directory.put name new).filter p = (put name new (directory.filter p)).filter p := by
  obtain ⟨above, below, rfl, habove, -, -⟩ := split_of_mem hnames hold
  -- the entry is the first of its name in the filtered directory as well, so both writes find the
  -- same place
  have hfiltered : name ∉ (above.filter p).map Prod.fst := fun h =>
    habove ((List.filter_sublist.map Prod.fst).subset h)
  have hsplit : (above ++ (name, old) :: below).filter p
      = above.filter p ++ (name, old) :: below.filter p := by
    rw [List.filter_append, List.filter_cons_of_pos hp]
  rw [put_append habove, hsplit, put_append hfiltered, List.filter_append, List.filter_append]
  simp [List.filter_cons, List.filter_filter]

theorem filter_remove (directory : Directory) (name : String) :
    (directory.remove name).filter p = remove (directory.filter p) name := by
  show (List.filter _ _).filter p = List.filter _ (directory.filter p)
  rw [List.filter_filter, List.filter_filter]
  exact List.filter_congr fun entry _ => Bool.and_comm _ _

/-- A file that is there is written, unless its name cannot be. -/
theorem writeFile_of_mem {content : ByteArray} (hnames : (directory.map Prod.fst).Nodup)
    (h : (name, .file content) ∈ directory) (written : ByteArray) :
    directory.writeFile name written
      = if name.toList.contains '\x00' then .error .nulInName
        else if nameLimit < name.utf8ByteSize then .error .nameTooLong
        else .ok (directory.put name (.file written)) := by
  unfold writeFile
  rw [entry?_of_mem hnames h]

/-- A file that is there can be removed. -/
theorem removeFile_of_mem {content : ByteArray} (hnames : (directory.map Prod.fst).Nodup)
    (h : (name, .file content) ∈ directory) :
    directory.removeFile name = .ok (directory.remove name) := by
  unfold removeFile
  rw [entry?_of_mem hnames h]

end Filters

end Directory

namespace Disk

variable {disk : Disk} {path : String} {directory : Directory}

/-- Putting a directory back leaves the disk as it was. -/
theorem setDirectory_same (h : disk.directory? path = some directory) :
    disk.setDirectory path directory = disk := by
  -- along the directories of the disk, down to the first at this path
  induction disk with
  | nil => cases h
  | cons first rest ih =>
    obtain ⟨other, entries⟩ := first
    unfold setDirectory
    by_cases hpath : other = path
    · subst hpath
      have hentries : entries = directory := by simpa [directory?] using h
      rw [if_pos rfl, hentries]
    · have hrest : directory? rest path = some directory := by
        simpa [directory?, hpath] using h
      rw [if_neg hpath, ih hrest]

/-- Only the last directory put at a path counts. -/
theorem setDirectory_setDirectory (disk : Disk) (path : String) (first second : Directory) :
    (disk.setDirectory path first).setDirectory path second = disk.setDirectory path second := by
  induction disk with
  | nil => simp [setDirectory]
  | cons front rest ih =>
    obtain ⟨other, entries⟩ := front
    by_cases hpath : other = path
    · simp [setDirectory, hpath]
    · simp [setDirectory, hpath, ih]

end Disk

/-! ## Directories that agree -/

namespace Folder

/-- Whether an entry adds a record to those of its directory. -/
def isRecordFile (ρ : Type) [Record ρ] (extension : String) (entry : String × Entry) : Bool :=
  (held ρ extension entry).isSome

/-- Two directories hold the same record files, in the same order. -/
structure Agree (ρ : Type) [Record ρ] (folder : Folder) (left right : Directory) : Prop where
  onceLeft : (left.map Prod.fst).Nodup
  onceRight : (right.map Prod.fst).Nodup
  files : left.filter (isRecordFile ρ folder.extension)
    = right.filter (isRecordFile ρ folder.extension)

section Agree

variable {ρ : Type} [Record ρ] {folder : Folder} {left right directory : Directory}
  {name id : String}

/-- The records of a directory are those of its record files. -/
theorem recordsIn_filter (extension : String) (directory : Directory) :
    recordsIn (ρ := ρ) extension (directory.filter (isRecordFile ρ extension))
      = recordsIn extension directory := by
  rw [recordsIn_eq, recordsIn_eq, List.filterMap_filter]
  refine List.filterMap_congr fun entry _ => ?_
  unfold isRecordFile
  cases held ρ extension entry <;> rfl

theorem Agree.recordsIn_eq (h : folder.Agree ρ left right) :
    recordsIn (ρ := ρ) folder.extension left = recordsIn folder.extension right := by
  rw [← recordsIn_filter, h.files, recordsIn_filter]

/-- Disks whose directories agree give the folder the same records. -/
theorem Agree.records_eq (h : folder.Agree ρ left right) {disk disk' : Disk}
    (hleft : disk.directory? folder.path = some left)
    (hright : disk'.directory? folder.path = some right) :
    folder.records (ρ := ρ) disk = folder.records disk' := by
  rw [Folder.records_eq hleft, Folder.records_eq hright, sortedRecords, sortedRecords,
    h.recordsIn_eq]

/-- A record is in a file of its directory, which is a record file. -/
theorem file_of_record {old : ρ} (h : (name, old) ∈ recordsIn folder.extension directory) :
    ∃ content, (name, .file content) ∈ directory
      ∧ isRecordFile ρ folder.extension (name, .file content) = true := by
  obtain ⟨entry, hentry, hextension, hrecord⟩ := mem_recordsIn.1 h
  cases entry with
  | folder => cases hrecord
  | file content =>
    have hheld : held ρ folder.extension (name, .file content) = some (name, old) :=
      held_eq_some_iff.2 ⟨hextension, hrecord, rfl⟩
    exact ⟨content, hentry, Option.isSome_iff_exists.2 ⟨_, hheld⟩⟩

/-- A record file of one directory is one of the other. -/
theorem Agree.mem_right (h : folder.Agree ρ left right) {entry : String × Entry}
    (hentry : entry ∈ left) (hfile : isRecordFile ρ folder.extension entry = true) :
    entry ∈ right := by
  have hmem : entry ∈ right.filter (isRecordFile ρ folder.extension) := by
    rw [← h.files]
    exact List.mem_filter.2 ⟨hentry, hfile⟩
  exact (List.mem_filter.1 hmem).1

/-- Directories that agree still do so, when a record file of both is set. -/
theorem Agree.put (h : folder.Agree ρ left right) {old : Entry} (hleft : (name, old) ∈ left)
    (hfile : isRecordFile ρ folder.extension (name, old) = true) (new : Entry) :
    folder.Agree ρ (left.put name new) (right.put name new) where
  onceLeft := (Directory.sets_put h.onceLeft name new).once
  onceRight := (Directory.sets_put h.onceRight name new).once
  files := by
    rw [Directory.filter_put h.onceLeft hleft hfile, h.files,
      ← Directory.filter_put h.onceRight (h.mem_right hleft hfile) hfile]

theorem Agree.remove (h : folder.Agree ρ left right) {old : Entry} (hleft : (name, old) ∈ left)
    (hfile : isRecordFile ρ folder.extension (name, old) = true) :
    folder.Agree ρ (left.remove name) (right.remove name) where
  onceLeft := (Directory.sets_remove h.onceLeft hleft).once
  onceRight := (Directory.sets_remove h.onceRight (h.mem_right hleft hfile)).once
  files := by rw [Directory.filter_remove, h.files, ← Directory.filter_remove]

/-- What an action on a record file does to two directories that agree: it is refused for both with
one error, or it sets the file in both, and they agree again. -/
def Agree.Acts (ρ : Type) [Record ρ] (folder : Folder) (name : String)
    (act : Directory → Except FileError Directory) (left right : Directory) : Prop :=
  (∃ error, act left = .error error ∧ act right = .error error)
    ∨ ∃ left' right' new, act left = .ok left' ∧ act right = .ok right'
      ∧ folder.Agree ρ left' right' ∧ Directory.Sets name new left left'
      ∧ Directory.Sets name new right right'

/-- Writing to a record file is refused on both sides or carried out on both. -/
theorem Agree.writeFile (h : folder.Agree ρ left right) {old : ρ}
    (hold : (name, old) ∈ recordsIn folder.extension left) (content : ByteArray) :
    Agree.Acts ρ folder name (fun directory => directory.writeFile name content) left right := by
  obtain ⟨before, hleft, hfile⟩ := file_of_record hold
  have hright := h.mem_right hleft hfile
  have hwrite := Directory.writeFile_of_mem h.onceLeft hleft content
  have hwrite' := Directory.writeFile_of_mem h.onceRight hright content
  -- the verdict is about the name alone
  by_cases hnul : name.toList.contains '\x00' = true
  · rw [if_pos hnul] at hwrite hwrite'
    exact .inl ⟨_, hwrite, hwrite'⟩
  · rw [if_neg hnul] at hwrite hwrite'
    by_cases hlong : Directory.nameLimit < name.utf8ByteSize
    · rw [if_pos hlong] at hwrite hwrite'
      exact .inl ⟨_, hwrite, hwrite'⟩
    · rw [if_neg hlong] at hwrite hwrite'
      exact .inr ⟨_, _, _, hwrite, hwrite', h.put hleft hfile _,
        Directory.sets_put h.onceLeft _ _, Directory.sets_put h.onceRight _ _⟩

theorem Agree.removeFile (h : folder.Agree ρ left right) {old : ρ}
    (hold : (name, old) ∈ recordsIn folder.extension left) :
    Agree.Acts ρ folder name (fun directory => directory.removeFile name) left right := by
  obtain ⟨before, hleft, hfile⟩ := file_of_record hold
  have hright := h.mem_right hleft hfile
  exact .inr ⟨_, _, none, Directory.removeFile_of_mem h.onceLeft hleft,
    Directory.removeFile_of_mem h.onceRight hright, h.remove hleft hfile,
    Directory.sets_remove h.onceLeft hleft, Directory.sets_remove h.onceRight hright⟩

/-- What a call leaves of a directory: what was there, or all of it but one file, which holds a
record of the id that the call is about. -/
def Touches (ρ : Type) [Record ρ] (folder : Folder) (target : Option String)
    (before after : Directory) : Prop :=
  after = before ∨ ∃ name, ∃ old : ρ, ∃ new, (name, old) ∈ recordsIn folder.extension before
    ∧ target = some (Record.id old) ∧ Directory.Sets name new before after

/-- The world with another directory for the folder. -/
def worldWith (folder : Folder) (world : World) (directory : Directory) : World :=
  { world with disk := world.disk.setDirectory folder.path directory }

/-- What two runs of a call have to give: one answer, and directories that agree. -/
def Agree.Answers (ρ : Type) [Record ρ] (folder : Folder) {α : Type} (id : String)
    (call : World → Except StoreError α × World) (world world' : World) (left right : Directory) :
    Prop :=
  ∃ answer left' right', call world = (answer, folder.worldWith world left')
    ∧ call world' = (answer, folder.worldWith world' right') ∧ folder.Agree ρ left' right'
    ∧ folder.Touches ρ (some id) left left'
    ∧ folder.Touches ρ (some id) right right'

/-- With the directory it has, a world is itself. -/
theorem worldWith_same {world : World} (h : world.disk.directory? folder.path = some directory) :
    folder.worldWith world directory = world := by
  rw [worldWith, Disk.setDirectory_same h]

theorem worldWith_worldWith (folder : Folder) (world : World) (first second : Directory) :
    folder.worldWith (folder.worldWith world first) second = folder.worldWith world second := by
  unfold worldWith
  rw [Disk.setDirectory_setDirectory]

theorem directory?_worldWith (folder : Folder) (world : World) (directory : Directory) :
    (folder.worldWith world directory).disk.directory? folder.path = some directory := by
  unfold worldWith
  rw [Disk.directory?_setDirectory, if_pos rfl]

section Calls

variable {world world' : World} {α : Type}

/-- A call that changes nothing. -/
theorem Agree.answers_unchanged (h : folder.Agree ρ left right)
    (hleft : world.disk.directory? folder.path = some left)
    (hright : world'.disk.directory? folder.path = some right)
    {call : World → Except StoreError α × World} (answer : Except StoreError α)
    (hcall : call world = (answer, world)) (hcall' : call world' = (answer, world')) :
    Agree.Answers ρ folder id call world world' left right := by
  refine ⟨answer, left, right, ?_, ?_, h, .inl rfl, .inl rfl⟩
  · rw [worldWith_same hleft, hcall]
  · rw [worldWith_same hright, hcall']

/-- An action on the located file. -/
theorem Agree.answers_change (h : folder.Agree ρ left right)
    (hleft : world.disk.directory? folder.path = some left)
    (hright : world'.disk.directory? folder.path = some right) (doing : String)
    {act : Directory → Except FileError Directory} {old : ρ}
    (hold : (name, old) ∈ recordsIn folder.extension left) (hid : Record.id old = id)
    (hacts : Agree.Acts ρ folder name act left right) :
    Agree.Answers ρ folder id
      (fun world => settle world () (folder.change world.disk doing name act)) world world' left
      right := by
  have hright' : (name, old) ∈ recordsIn folder.extension right := h.recordsIn_eq ▸ hold
  obtain ⟨error, herror, herror'⟩ | ⟨left', right', new, hact, hact', hagree, hsets, hsets'⟩ :=
    hacts
  · have hcall : settle world () (folder.change world.disk doing name act)
        = (.error (change.failure folder doing name error), world) := by
      simp only [change, hleft, herror, settle]
    have hcall' : settle world' () (folder.change world'.disk doing name act)
        = (.error (change.failure folder doing name error), world') := by
      simp only [change, hright, herror', settle]
    exact h.answers_unchanged hleft hright _ hcall hcall'
  · -- both sides set the same name, which held the record of the id
    subst hid
    refine ⟨.ok (), left', right', ?_, ?_, hagree, .inr ⟨name, old, new, hold, rfl, hsets⟩,
      .inr ⟨name, old, new, hright', rfl, hsets'⟩⟩
    · simp only [change, hleft, hact, settle, worldWith]
    · simp only [change, hright, hact', settle, worldWith]

/-- An id is located in the same file on both sides. -/
theorem Agree.locate_eq (h : folder.Agree ρ left right)
    (hleft : world.disk.directory? folder.path = some left)
    (hright : world'.disk.directory? folder.path = some right) (id : String) :
    folder.locate ρ world'.disk id = folder.locate ρ world.disk id := by
  unfold locate
  rw [h.records_eq hleft hright]

/-- What is located is a record of the id. -/
theorem record_of_locate (hdirectory : world.disk.directory? folder.path = some directory)
    (hlocate : folder.locate ρ world.disk id = .ok name) :
    ∃ old : ρ, (name, old) ∈ recordsIn folder.extension directory ∧ Record.id old = id := by
  obtain ⟨found, old, rest, hfound, hunder⟩ := locate_ok hlocate
  cases hfound.symm.trans hdirectory
  have hmem : (name, old) ∈ under id (recordsIn (ρ := ρ) folder.extension directory) := by
    rw [hunder]
    exact List.mem_cons_self
  obtain ⟨hrecord, hid⟩ := List.mem_filter.1 hmem
  exact ⟨old, hrecord, of_decide_eq_true hid⟩

/-- A call that locates a record and acts on its file. -/
theorem Agree.answers_located (h : folder.Agree ρ left right)
    (hleft : world.disk.directory? folder.path = some left)
    (hright : world'.disk.directory? folder.path = some right)
    {call : World → Except StoreError Unit × World} (doing : String)
    {act : String → Directory → Except FileError Directory}
    (hmissing : ∀ {world : World} {error : StoreError},
      folder.locate ρ world.disk id = .error error → call world = (.error error, world))
    (hlocated : ∀ {world : World} {name : String}, folder.locate ρ world.disk id = .ok name →
      call world = settle world () (folder.change world.disk doing name (act name)))
    (hacts : ∀ {name : String} {old : ρ}, (name, old) ∈ recordsIn folder.extension left →
      Agree.Acts ρ folder name (act name) left right) :
    Agree.Answers ρ folder id call world world' left right := by
  have hsame := h.locate_eq hleft hright id
  -- either side locates the same file or the same failure, and does what it does with it
  cases hlocate : folder.locate ρ world.disk id with
  | error error =>
    rw [hlocate] at hsame
    exact h.answers_unchanged hleft hright (.error error) (hmissing hlocate) (hmissing hsame)
  | ok name =>
    rw [hlocate] at hsame
    obtain ⟨old, hold, hid⟩ := record_of_locate hleft hlocate
    obtain ⟨answer, left', right', hcall, hcall', hagree⟩ :=
      h.answers_change hleft hright doing hold hid (hacts hold)
    refine ⟨answer, left', right', ?_, ?_, hagree⟩
    · rw [hlocated hlocate, ← hcall]
    · rw [hlocated hsame, ← hcall']

/-- An update is answered alike over directories that agree. -/
theorem Agree.update (h : folder.Agree ρ left right)
    (hleft : world.disk.directory? folder.path = some left)
    (hright : world'.disk.directory? folder.path = some right) (record : ρ) :
    Agree.Answers ρ folder (Record.id record) (folder.update record) world world' left right := by
  refine h.answers_located hleft hright "write" (fun hmissing => ?_) (fun hlocate => ?_)
    fun hold => h.writeFile hold (Record.page record).toUTF8
  · simp only [Folder.update, hmissing]
  · simp only [Folder.update, hlocate]
    rfl

theorem Agree.delete (h : folder.Agree ρ left right)
    (hleft : world.disk.directory? folder.path = some left)
    (hright : world'.disk.directory? folder.path = some right) (id : String) :
    Agree.Answers ρ folder id (folder.delete ρ id) world world' left right := by
  refine h.answers_located hleft hright "remove" (fun hmissing => ?_) (fun hlocate => ?_)
    h.removeFile
  · simp only [Folder.delete, hmissing]
  · simp only [Folder.delete, hlocate]

end Calls

end Agree

end Folder

/-! ## Calls and runs of calls -/

namespace Operation

variable {ρ : Type} [Record ρ]

/-- Whether a call adds a record. -/
def isAddition : Operation ρ → Bool
  | .add _ => true
  | _ => false

/-- The id of the record that a call sets or removes. -/
def target? : Operation ρ → Option String
  | .update record => some (Record.id record)
  | .delete id => some id
  | _ => none

end Operation

section Runs

variable {ρ : Type} [Record ρ] {folder : Folder} {world world' : World} {left right : Directory}

/-- **Over directories that agree, a call is answered alike**, and they agree again. -/
theorem Folder.Agree.perform (h : folder.Agree ρ left right)
    (hleft : world.disk.directory? folder.path = some left)
    (hright : world'.disk.directory? folder.path = some right) (operation : Operation ρ)
    (hoperation : operation.isAddition = false) :
    ∃ answer left' right',
      operation.perform (.files folder) world
          = (answer, .files folder, folder.worldWith world left')
        ∧ operation.perform (.files folder) world'
          = (answer, .files folder, folder.worldWith world' right')
        ∧ folder.Agree ρ left' right' ∧ folder.Touches ρ operation.target? left left'
        ∧ folder.Touches ρ operation.target? right right' := by
  have hlisting : folder.listing (ρ := ρ) world'.disk = folder.listing world.disk := by
    unfold Folder.listing
    rw [h.records_eq hleft hright]
  -- the readings come from the listing alone
  have hreadings : (Store.files (ρ := ρ) folder).readings world'.disk
      = (Store.files folder).readings world.disk := by
    show Readings.ofListing (folder.listing world'.disk) = .ofListing (folder.listing world.disk)
    rw [hlisting]
  -- reading calls leave both directories; an update and a deletion act on the located file
  cases operation with
  | all =>
    refine ⟨.records (folder.listing world.disk), left, right, ?_, ?_, h, .inl rfl, .inl rfl⟩
    · rw [Folder.worldWith_same hleft]
      rfl
    · rw [Folder.worldWith_same hright, Operation.perform, hreadings]
      rfl
  | get id =>
    refine ⟨.record (((Store.files folder).readings world.disk).get id), left, right, ?_, ?_, h,
      .inl rfl, .inl rfl⟩
    · rw [Folder.worldWith_same hleft]
      rfl
    · rw [Folder.worldWith_same hright, Operation.perform, hreadings]
  | add record => cases hoperation
  | update record =>
    obtain ⟨answer, left', right', hcall, hcall', hagree⟩ := h.update hleft hright record
    refine ⟨.done answer, left', right', ?_, ?_, hagree⟩
    · show (Answer.done (folder.update record world).1, Store.files folder,
        (folder.update record world).2) = _
      rw [hcall]
    · show (Answer.done (folder.update record world').1, Store.files folder,
        (folder.update record world').2) = _
      rw [hcall']
  | delete id =>
    obtain ⟨answer, left', right', hcall, hcall', hagree⟩ := h.delete hleft hright id
    refine ⟨.done answer, left', right', ?_, ?_, hagree⟩
    · show (Answer.done (folder.delete ρ id world).1, Store.files folder,
        (folder.delete ρ id world).2) = _
      rw [hcall]
    · show (Answer.done (folder.delete ρ id world').1, Store.files folder,
        (folder.delete ρ id world').2) = _
      rw [hcall']

/-- The names of the record files of a directory. -/
def Folder.recordNames (ρ : Type) [Record ρ] (folder : Folder) (directory : Directory) :
    List String :=
  (recordsIn (ρ := ρ) folder.extension directory).map Prod.fst

/-- The entries that are no record files of a directory are in the other one as they are, in their
order, and the other one has no record files beside those. -/
structure Folder.Rests (ρ : Type) [Record ρ] (folder : Folder) (before after : Directory) :
    Prop where
  names : folder.recordNames ρ after ⊆ folder.recordNames ρ before
  others : after.filter (fun entry => entry.1 ∉ folder.recordNames ρ before)
    = before.filter fun entry => entry.1 ∉ folder.recordNames ρ before

theorem Folder.Rests.refl (folder : Folder) (directory : Directory) :
    folder.Rests ρ directory directory :=
  ⟨fun _ h => h, rfl⟩

/-- What two runs leave alone one after the other, they leave alone together. -/
theorem Folder.Rests.trans {before middle last : Directory} (h₁ : folder.Rests ρ before middle)
    (h₂ : folder.Rests ρ middle last) : folder.Rests ρ before last where
  names := fun _ hname => h₁.names (h₂.names hname)
  others := by
    -- the record files in the middle were record files before, so an entry that was none of the
    -- latter is none of the former
    have hothers (directory : Directory) :
        directory.filter (fun entry => entry.1 ∉ folder.recordNames ρ before)
          = (directory.filter fun entry => entry.1 ∉ folder.recordNames ρ middle).filter
            fun entry => entry.1 ∉ folder.recordNames ρ before := by
      rw [List.filter_filter]
      refine List.filter_congr fun entry _ => ?_
      by_cases hentry : entry.1 ∈ folder.recordNames ρ before
      · simp [hentry]
      · have hmiddle : entry.1 ∉ folder.recordNames ρ middle := fun h => hentry (h₁.names h)
        simp [hentry, hmiddle]
    rw [hothers last, h₂.others, ← hothers middle, h₁.others]

/-- A call that sets one record file leaves the other entries alone. -/
theorem Folder.Touches.rests {target : Option String} {before after : Directory}
    (h : folder.Touches ρ target before after) : folder.Rests ρ before after := by
  obtain rfl | ⟨name, old, new, hold, -, hsets⟩ := h
  · exact .refl folder after
  · have hname : name ∈ folder.recordNames ρ before := List.mem_map_of_mem hold
    refine ⟨fun other hother => ?_, hsets.filter
      (p := fun other => other ∉ folder.recordNames ρ before) (by simpa using hname)⟩
    obtain ⟨⟨file, record⟩, hrecord, rfl⟩ := List.mem_map.1 hother
    -- a record file afterwards is the one that was set or one that was there before
    by_cases hfile : file = name
    · exact hfile ▸ hname
    · obtain ⟨entry, hentry, hextension, hheld⟩ := Folder.mem_recordsIn.1 hrecord
      have hbefore : (file, record) ∈ Folder.recordsIn folder.extension before :=
        Folder.mem_recordsIn.2 ⟨entry, (hsets.mem_away hfile).1 hentry, hextension, hheld⟩
      exact List.mem_map_of_mem hbefore

/-- A run of calls without additions is answered alike over directories that agree, and leaves them
in agreement. -/
theorem Folder.Agree.performAll (h : folder.Agree ρ left right)
    (hleft : world.disk.directory? folder.path = some left)
    (hright : world'.disk.directory? folder.path = some right) {operations : List (Operation ρ)}
    (hoperations : ∀ operation ∈ operations, operation.isAddition = false) :
    ∃ answers left' right',
      (Store.files folder).performAll world operations
          = (answers, .files folder, folder.worldWith world left')
        ∧ (Store.files folder).performAll world' operations
          = (answers, .files folder, folder.worldWith world' right')
        ∧ folder.Agree ρ left' right' ∧ folder.Rests ρ left left'
        ∧ folder.Rests ρ right right' := by
  -- the directories agree again after each call, which is what the next one needs
  induction operations generalizing world world' left right with
  | nil =>
    refine ⟨[], left, right, ?_, ?_, h, .refl folder left, .refl folder right⟩
    · rw [Folder.worldWith_same hleft]
      rfl
    · rw [Folder.worldWith_same hright]
      rfl
  | cons operation rest ih =>
    obtain ⟨hfirst, hrest⟩ := List.forall_mem_cons.1 hoperations
    obtain ⟨answer, middle, middle', hcall, hcall', hagree, htouches, htouches'⟩ :=
      h.perform hleft hright operation hfirst
    obtain ⟨answers, left', right', hcalls, hcalls', hlast, hrests, hrests'⟩ :=
      ih hagree (folder.directory?_worldWith world middle)
        (folder.directory?_worldWith world' middle') hrest
    refine ⟨answer :: answers, left', right', ?_, ?_, hlast, htouches.rests.trans hrests,
      htouches'.rests.trans hrests'⟩
    · simp only [Store.performAll, hcall, hcalls, Folder.worldWith_worldWith]
    · simp only [Store.performAll, hcall', hcalls', Folder.worldWith_worldWith]

/-- **One bad file never hides the rest.** Let two directories hold the same record files in the
same order, and anything else. What is listed are the records of these files, sorted by id, records
of one id in the order of their files. A call that adds nothing is answered alike over both. It
leaves each directory as it was but for one record file at most, which held the record of the id
that the call named, and the directories agree again. So does a run of such calls, and each
directory keeps all entries that were none of its record files. -/
theorem stray_files_unnoticed (h : folder.Agree ρ left right)
    (hleft : world.disk.directory? folder.path = some left)
    (hright : world'.disk.directory? folder.path = some right) :
    (∃ records : List ρ, ((Store.files folder).readings world.disk).all = .ok records
        ∧ records.Perm ((Folder.recordsIn folder.extension left).map Prod.snd)
        ∧ records.Pairwise (fun a b => Record.id a ≤ Record.id b)
        ∧ ∀ id, namesakes id records
          = namesakes id ((Folder.recordsIn folder.extension left).map Prod.snd))
      ∧ (∀ operation : Operation ρ, operation.isAddition = false →
        ∃ answer left' right',
          operation.perform (.files folder) world
              = (answer, .files folder, folder.worldWith world left')
            ∧ operation.perform (.files folder) world'
              = (answer, .files folder, folder.worldWith world' right')
            ∧ folder.Agree ρ left' right' ∧ folder.Touches ρ operation.target? left left'
            ∧ folder.Touches ρ operation.target? right right')
      ∧ ∀ operations : List (Operation ρ),
        (∀ operation ∈ operations, operation.isAddition = false) →
        ∃ answers left' right',
          (Store.files folder).performAll world operations
              = (answers, .files folder, folder.worldWith world left')
            ∧ (Store.files folder).performAll world' operations
              = (answers, .files folder, folder.worldWith world' right')
            ∧ folder.Agree ρ left' right' ∧ folder.Rests ρ left left'
            ∧ folder.Rests ρ right right' := by
  refine ⟨⟨Folder.listed ρ folder.extension left, Folder.listing_eq hleft, ?_,
    Folder.sorted_listed folder.extension left, fun id => ?_⟩, h.perform hleft hright,
    fun operations => h.performAll hleft hright⟩
  · exact (List.mergeSort_perm _ _).map Prod.snd
  · rw [Folder.namesakes_listed, namesakes, List.filter_map]
    rfl

end Runs

namespace Resources

/-- A directory with one record file and nothing else. -/
def tidy : Directory := [("b.src", Folder.entryOf bravo)]

/-- The record file among one that holds nothing, a directory and a file of another kind. -/
def untidy : Directory :=
  [("broken.src", .file "".toUTF8), ("b.src", Folder.entryOf bravo), ("z.src", .folder),
    ("notes.txt", .file "b".toUTF8)]

/-- The world whose disk has this directory at `resources` and no other. -/
def holding (directory : Directory) : World :=
  { ids := fun _ => "5f2c", disk := [("resources", directory)] }

/-- The broken file, the directory and the notes are no record files. -/
theorem tidy_agrees : resources.Agree Source tidy untidy := by
  have hbravo : resources.Takes bravo := takes (by decide)
  have hfile : Folder.isRecordFile Source "src" ("b.src", Folder.entryOf bravo) = true := by
    have hheld : Folder.held Source "src" ("b.src", Folder.entryOf bravo) = some ("b.src", bravo) :=
      Folder.held_eq_some_iff.2 ⟨by decide, hbravo.survives, rfl⟩
    rw [Folder.isRecordFile, hheld]
    rfl
  have hbroken : Folder.isRecordFile Source "src" ("broken.src", .file "".toUTF8) = false := rfl
  have hfolder : Folder.isRecordFile Source "src" ("z.src", .folder) = false := rfl
  have hnotes : Folder.isRecordFile Source "src" ("notes.txt", .file "b".toUTF8) = false := rfl
  refine ⟨by decide, by decide, ?_⟩
  show List.filter (Folder.isRecordFile Source "src") _
    = List.filter (Folder.isRecordFile Source "src") _
  unfold tidy untidy
  simp only [List.filter_cons, hfile, hbroken, hfolder, hnotes, List.filter_nil, if_true,
    Bool.false_eq_true, if_false]

end Resources

open Resources

/-- The run lists, rewrites, deletes and looks up, and the entries beside `b.src` change none of its
answers. -/
theorem stray_files_unnoticed_untidy :
    let operations : List (Operation Source) := [.all, .update bravo, .delete "b", .get "b"]
    resources.Agree Source tidy untidy
      ∧ (holding tidy).disk.directory? resources.path = some tidy
      ∧ (holding untidy).disk.directory? resources.path = some untidy
      ∧ (∀ operation ∈ operations, operation.isAddition = false)
      ∧ ((Store.files resources).performAll (holding tidy) operations).1
        = ((Store.files resources).performAll (holding untidy) operations).1 := by
  intro operations
  have htidy : (holding tidy).disk.directory? resources.path = some tidy := rfl
  have huntidy : (holding untidy).disk.directory? resources.path = some untidy := rfl
  have hoperations : ∀ operation ∈ operations, operation.isAddition = false := by
    simp only [operations, List.forall_mem_cons]
    exact ⟨rfl, rfl, rfl, rfl, nofun⟩
  obtain ⟨-, -, hruns⟩ := stray_files_unnoticed tidy_agrees htidy huntidy
  obtain ⟨answers, left', right', hleft, hright, -⟩ := hruns operations hoperations
  refine ⟨tidy_agrees, htidy, huntidy, hoperations, ?_⟩
  rw [hleft, hright]

end TenantConsole
