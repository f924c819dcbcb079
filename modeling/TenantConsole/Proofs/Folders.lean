import TenantConsole.Proofs.Listings
import TenantConsole.Store.Basic

/-!
# What a write does to a directory of record files

A directory is listed by the ids in its files, and files with one id stand in the order of the
directory. Updating and deleting a record write or remove the file that holds the first record with
the id:

* **sorting keeps namesakes in their order** (`filter_key_mergeSort`), and a sorted listing is
  determined by the namesakes of each id (`sorted_unique`), so a swap in the directory is a swap in
  the listing;
* **`update_cases` and `delete_cases`** say that a write is refused and leaves the disk as it was,
  or that it swaps the located record: for the one that the written page reads back to, if there is
  one, or for nothing.

A directory names each of its entries once; writes keep it so.
-/

namespace TenantConsole

/-! ## Sorting -/

section Sorting

variable {α : Type}

/-- Sorting by a key keeps elements of one key in their order. -/
theorem filter_key_mergeSort (key : α → String) (k : String) (elements : List α) :
    (elements.mergeSort fun a b => decide (key a ≤ key b)).filter (fun a => decide (key a = k))
      = elements.filter fun a => decide (key a = k) := by
  have hsorted : (elements.filter fun a => decide (key a = k)).Pairwise
      fun a b => decide (key a ≤ key b) = true := by
    refine List.pairwise_of_forall_mem_list fun a ha b hb => ?_
    have ha : key a = k := by simpa using (List.mem_filter.1 ha).2
    have hb : key b = k := by simpa using (List.mem_filter.1 hb).2
    rw [ha, hb]
    exact decide_eq_true (String.le_refl k)
  -- elements of one key are in order already, so a stable sort does not move them past one another
  have hsublist : (elements.filter fun a => decide (key a = k)).Sublist
      (elements.mergeSort fun a b => decide (key a ≤ key b)) := by
    refine List.sublist_mergeSort (fun a b c hab hbc => ?_) (fun a b => ?_) hsorted
      List.filter_sublist
    · simp only [decide_eq_true_eq] at *
      exact String.le_trans hab hbc
    · simpa using String.le_total (key a) (key b)
  have hfiltered := hsublist.filter fun a => decide (key a = k)
  rw [List.filter_filter] at hfiltered
  simp only [Bool.and_self] at hfiltered
  refine (hfiltered.eq_of_length ?_).symm
  exact ((List.mergeSort_perm elements _).filter _).length_eq.symm

/-- Where elements are found again by their keys, the head of a sorted list is not above them. -/
theorem key_head_le (key : α → String) {a b : α} {left right : List α}
    (hsorted : ∀ c ∈ right, key b ≤ key c)
    (hsame : (a :: left).filter (fun c => key c = key a)
      = (b :: right).filter fun c => key c = key a) : key b ≤ key a := by
  have hmem : a ∈ (b :: right).filter fun c => key c = key a := by
    rw [← hsame]; simp
  rcases List.mem_cons.1 (List.mem_filter.1 hmem).1 with rfl | hmem
  · exact String.le_refl _
  · exact hsorted a hmem

/-- **Two sorted lists with the same elements for each key, in the same order, are one.** -/
theorem sorted_unique (key : α → String) {left right : List α}
    (hleft : left.Pairwise fun a b => key a ≤ key b)
    (hright : right.Pairwise fun a b => key a ≤ key b)
    (hsame : ∀ k, left.filter (fun a => key a = k) = right.filter fun a => key a = k) :
    left = right := by
  -- head by head: both lists start with the least key there is
  induction left generalizing right with
  | nil =>
    cases right with
    | nil => rfl
    | cons b right => have := hsame (key b); simp at this
  | cons a left ih =>
    obtain ⟨ha, hleft⟩ := List.pairwise_cons.1 hleft
    cases right with
    | nil => have := hsame (key a); simp at this
    | cons b right =>
      obtain ⟨hb, hrest⟩ := List.pairwise_cons.1 hright
      -- each head is found in the other list, so neither key is below the other
      have hkey : key a = key b := String.le_antisymm (key_head_le key ha (hsame (key b)).symm)
        (key_head_le key hb (hsame (key a)))
      have hheads := hsame (key a)
      rw [List.filter_cons_of_pos (by simp), List.filter_cons_of_pos (by simp [hkey])] at hheads
      obtain ⟨rfl, -⟩ := List.cons.inj hheads
      refine congrArg _ (ih hleft hrest fun k => ?_)
      have hk := hsame k
      by_cases hak : key a = k
      · rw [List.filter_cons_of_pos (by simpa using hak),
          List.filter_cons_of_pos (by simpa using hak)] at hk
        exact List.tail_eq_of_cons_eq hk
      · rwa [List.filter_cons_of_neg (by simpa using hak),
          List.filter_cons_of_neg (by simpa using hak)] at hk

end Sorting

/-! ## Names -/

/-- Every directory names each of its entries once. -/
def Disk.NamesOnce (disk : Disk) : Prop :=
  ∀ path directory, disk.directory? path = some directory → (directory.map Prod.fst).Nodup

namespace Directory

variable {above below : Directory} {name : String} {entry : Entry}

/-- Writing a file whose name is there replaces its entry in its place. -/
theorem put_append (habove : name ∉ above.map Prod.fst) (new : Entry) :
    put name new (above ++ (name, entry) :: below) = above ++ (name, new) :: below := by
  induction above with
  | nil => simp [put]
  | cons first rest ih =>
    obtain ⟨hfirst, hrest⟩ : first.1 ≠ name ∧ name ∉ rest.map Prod.fst := by
      simpa [eq_comm] using habove
    simp [put, hfirst, ih hrest]

/-- Removing a file whose name comes once takes out its entry and no other. -/
theorem remove_append (habove : name ∉ above.map Prod.fst) (hbelow : name ∉ below.map Prod.fst) :
    remove (above ++ (name, entry) :: below) name = above ++ below := by
  have hkeep {entries : Directory} (h : name ∉ entries.map Prod.fst) :
      entries.filter (fun (e : String × Entry) => decide (e.1 ≠ name)) = entries := by
    refine List.filter_eq_self.2 fun e he => decide_eq_true fun hname => h ?_
    exact hname ▸ List.mem_map_of_mem he
  show List.filter (fun (e : String × Entry) => decide (e.1 ≠ name)) _ = _
  rw [List.filter_append, List.filter_cons_of_neg (by simp), hkeep habove, hkeep hbelow]

end Directory

namespace Disk

/-- A directory that is put is found at its path, and other paths are as they were. -/
theorem directory?_setDirectory (disk : Disk) (path other : String) (directory : Directory) :
    (disk.setDirectory path directory).directory? other
      = if path = other then some directory else disk.directory? other := by
  unfold directory?
  -- along the disk, which is searched and changed in the same order
  induction disk with
  | nil => by_cases h : path = other <;> simp [setDirectory, h]
  | cons first rest ih =>
    obtain ⟨p, d⟩ := first
    unfold setDirectory
    by_cases hp : p = path
    · subst hp
      by_cases h : p = other <;> simp [h]
    · rw [if_neg hp]
      by_cases h : p = other
      · have : path ≠ other := fun h' => hp (h.trans h'.symm)
        simp [h, this]
      · simpa [h] using ih

/-- Putting a directory in which names come once keeps it so on the disk. -/
theorem NamesOnce.setDirectory {disk : Disk} (h : disk.NamesOnce) {path : String}
    {directory : Directory} (hdirectory : (directory.map Prod.fst).Nodup) :
    (disk.setDirectory path directory).NamesOnce := by
  intro other found hfound
  rw [directory?_setDirectory] at hfound
  split at hfound
  · cases hfound
    exact hdirectory
  · exact h other found hfound

end Disk

/-! ## The records of a directory -/

namespace Folder

open Readings

variable {ρ : Type} [Record ρ]

/-- The record that an entry adds to those of its directory. -/
def held (ρ : Type) [Record ρ] (extension : String) (entry : String × Entry) :
    Option (String × ρ) :=
  if extension? entry.1 = some extension then (recordOf? entry.2).map (entry.1, ·) else none

theorem recordsIn_eq (extension : String) (directory : Directory) :
    recordsIn (ρ := ρ) extension directory = directory.filterMap (held ρ extension) := rfl

/-- The entries whose records have an id. -/
def under (id : String) (entries : List (String × ρ)) : List (String × ρ) :=
  entries.filter fun entry => Record.id entry.2 = id

theorem under_append (id : String) (above below : List (String × ρ)) :
    under id (above ++ below) = under id above ++ under id below :=
  List.filter_append above below

/-- The directory around the file that holds the first record with an id. -/
theorem directory_split {extension id name : String} {old : ρ} {rest : List (String × ρ)}
    {directory : Directory}
    (h : under id (recordsIn extension directory) = (name, old) :: rest) :
    ∃ above entry below, directory = above ++ (name, entry) :: below
      ∧ under id (recordsIn (ρ := ρ) extension above) = []
      ∧ held ρ extension (name, entry) = some (name, old) ∧ Record.id old = id := by
  obtain ⟨first, last, hrecords, hfirst, hid, -⟩ := List.filter_eq_cons_iff.1 h
  -- the first record with the id is in the first entry that holds one
  obtain ⟨above, tail, rfl, habove, htail⟩ := List.filterMap_eq_append_iff.1 hrecords
  obtain ⟨skipped, ⟨n, entry⟩, below, rfl, hskipped, hentry, -⟩ :=
    List.filterMap_eq_cons_iff.1 htail
  have hheld : held ρ extension (n, entry) = some (name, old) := hentry
  have hname : n = name := by
    unfold held at hheld
    split at hheld
    · obtain ⟨record, -, heq⟩ := Option.map_eq_some_iff.1 hheld
      exact congrArg Prod.fst heq
    · cases hheld
  subst hname
  refine ⟨above ++ skipped, entry, below, by simp, ?_, hheld, by simpa using hid⟩
  have hnone : skipped.filterMap (held ρ extension) = [] := List.filterMap_eq_nil_iff.2 hskipped
  have hsome : above.filterMap (held ρ extension) = first := habove
  rw [recordsIn_eq, List.filterMap_append, hnone, List.append_nil, hsome]
  exact List.filter_eq_nil_iff.2 hfirst

/-! ## The listing of a directory -/

/-- What a directory lists, sorted by id. -/
def listed (ρ : Type) [Record ρ] (extension : String) (directory : Directory) : List ρ :=
  (sortedRecords extension directory).map Prod.snd

/-- The listing has the records of one id in the order of their files. -/
theorem namesakes_listed (extension id : String) (directory : Directory) :
    namesakes id (listed ρ extension directory)
      = (under id (recordsIn extension directory)).map Prod.snd := by
  unfold namesakes listed
  rw [List.filter_map]
  exact congrArg _ (filter_key_mergeSort (fun entry : String × ρ => Record.id entry.2) id _)

/-- A directory is listed by ascending ids. -/
theorem sorted_listed (extension : String) (directory : Directory) :
    (listed ρ extension directory).Pairwise fun a b => Record.id a ≤ Record.id b := by
  rw [listed, List.pairwise_map]
  have h : (sortedRecords (ρ := ρ) extension directory).Pairwise fun a b => byId a b := by
    refine List.pairwise_mergeSort (fun a b c hab hbc => ?_) (fun a b => ?_) _
    · simp only [byId, decide_eq_true_eq] at *
      exact String.le_trans hab hbc
    · simpa [byId] using String.le_total (Record.id a.2) (Record.id b.2)
  exact h.imp fun h => by simpa [byId] using h

/-- **A swap in the directory is a swap in its listing.** -/
theorem listed_swaps {extension id name : String} {above : Directory} {entry : Entry}
    (below : Directory) {old : ρ} {new : Option Entry}
    (habove : under id (recordsIn (ρ := ρ) extension above) = [])
    (hheld : held ρ extension (name, entry) = some (name, old)) (hold : Record.id old = id)
    {added : List (String × ρ)}
    (hadded : (new.map (name, ·)).toList.filterMap (held ρ extension) = added)
    (hnew : ∀ record ∈ added, Record.id record.2 = id) :
    Swaps id [old] (added.map Prod.snd)
      (listed ρ extension (above ++ (name, entry) :: below))
      (listed ρ extension (above ++ (new.map (name, ·)).toList ++ below)) := by
  have hbefore : recordsIn (ρ := ρ) extension (above ++ (name, entry) :: below)
      = recordsIn extension above ++ (name, old) :: recordsIn extension below := by
    rw [recordsIn_eq, List.filterMap_append, List.filterMap_cons_some hheld]
    rfl
  have hafter : recordsIn (ρ := ρ) extension (above ++ (new.map (name, ·)).toList ++ below)
      = recordsIn extension above ++ added ++ recordsIn extension below := by
    rw [recordsIn_eq, List.filterMap_append, List.filterMap_append, hadded]
    rfl
  have hnamesakes : under id added = added :=
    List.filter_eq_self.2 fun record hrecord => by simpa using hnew record hrecord
  constructor
  · -- apart from the id the two listings are sorted and have the same namesakes
    refine sorted_unique Record.id ((sorted_listed extension _).filter _)
      ((sorted_listed extension _).filter _) fun k => ?_
    show namesakes k (apart id _) = namesakes k (apart id _)
    by_cases hk : k = id
    · subst hk
      rw [namesakes_apart_self, namesakes_apart_self]
    · rw [namesakes_apart hk, namesakes_apart hk, namesakes_listed, namesakes_listed, hbefore,
        hafter, under_append, under_append, under_append]
      have hother : under k added = [] :=
        List.filter_eq_nil_iff.2 fun record hrecord => by
          simpa [hnew record hrecord] using Ne.symm hk
      have hold : under k ((name, old) :: recordsIn extension below)
          = under k (recordsIn extension below) :=
        List.filter_cons_of_neg (by simpa [hold] using Ne.symm hk)
      rw [hother, hold, List.append_nil]
  · refine ⟨(under id (recordsIn extension below)).map Prod.snd, ?_, ?_⟩
    · have hcons : under id ((name, old) :: recordsIn extension below)
          = (name, old) :: under id (recordsIn extension below) :=
        List.filter_cons_of_pos (by simpa using hold)
      rw [namesakes_listed, hbefore, under_append, habove, hcons]
      rfl
    · rw [namesakes_listed, hafter, under_append, under_append, habove, hnamesakes]
      simp

/-! ## Writes -/

section Writes

variable {folder : Folder} {disk : Disk} {directory : Directory} {id name : String}

theorem records_eq (h : disk.directory? folder.path = some directory) :
    folder.records (ρ := ρ) disk = .ok (sortedRecords folder.extension directory) := by
  unfold records Folder.directory
  rw [h]
  rfl

theorem listing_eq (h : disk.directory? folder.path = some directory) :
    folder.listing (ρ := ρ) disk = .ok (listed ρ folder.extension directory) := by
  unfold listing
  rw [records_eq h]
  rfl

/-- A record is located in the first file of the directory with its id. -/
theorem locate_ok (h : folder.locate ρ disk id = .ok name) :
    ∃ directory old rest, disk.directory? folder.path = some directory
      ∧ under id (recordsIn (ρ := ρ) folder.extension directory) = (name, old) :: rest := by
  unfold locate at h
  cases hdirectory : disk.directory? folder.path with
  | none =>
    unfold records Folder.directory at h
    rw [hdirectory] at h
    cases h
  | some directory =>
    rw [records_eq hdirectory] at h
    simp only at h
    split at h
    · rename_i found old hfound
      cases h
      have hhead : ((sortedRecords folder.extension directory).filter
          fun entry : String × ρ => Record.id entry.2 = id).head? = some (name, old) :=
        List.head?_filter.trans hfound
      rw [sortedRecords] at hhead
      have hsorted := filter_key_mergeSort (fun entry : String × ρ => Record.id entry.2) id
        (recordsIn folder.extension directory)
      obtain ⟨rest, hrest⟩ := List.head?_eq_some_iff.1 (hsorted ▸ hhead)
      exact ⟨directory, old, rest, rfl, hrest⟩
    · cases h

/-- A record that cannot be located leaves a chain to its next layer. -/
theorem locate_error {error : StoreError} (h : folder.locate ρ disk id = .error error) :
    error.fallsThrough = true := by
  unfold locate at h
  split at h
  · rename_i cause hrecords
    cases h
    unfold records Folder.directory at hrecords
    cases hdirectory : disk.directory? folder.path with
    | none => rw [hdirectory] at hrecords; cases hrecords; rfl
    | some directory => rw [hdirectory] at hrecords; cases hrecords
  · split at h
    · cases h
    · cases h; rfl

/-- A change to a directory is refused in a way that lets a chain go on, or it is made. -/
theorem change_cases (folder : Folder) (disk : Disk) (doing name : String)
    (act : Directory → Except FileError Directory) :
    (∃ error, folder.change disk doing name act = .error error ∧ error.fallsThrough = true)
      ∨ ∃ directory changed, disk.directory? folder.path = some directory
        ∧ act directory = .ok changed
        ∧ folder.change disk doing name act = .ok (disk.setDirectory folder.path changed) := by
  unfold change
  cases hdirectory : disk.directory? folder.path with
  | none => exact .inl ⟨_, rfl, rfl⟩
  | some directory =>
    cases hact : act directory with
    | error error => exact .inl ⟨change.failure folder doing name error, by simp only [hact], rfl⟩
    | ok changed => exact .inr ⟨directory, changed, rfl, hact, by simp only [hact]⟩

/-- What a file reads as, once a record has been written to it. -/
def readBack (record : ρ) : Option ρ := recordOf? (.file (Record.page record).toUTF8)

theorem writeFile_ok {changed : Directory} {content : ByteArray}
    (h : directory.writeFile name content = .ok changed) :
    changed = directory.put name (.file content) := by
  unfold Directory.writeFile at h
  split at h
  · cases h
  · split at h
    · cases h
    · split at h
      · cases h
      · cases h; rfl

theorem removeFile_ok {changed : Directory} (h : directory.removeFile name = .ok changed) :
    changed = directory.remove name := by
  unfold Directory.removeFile at h
  split at h
  · cases h; rfl
  · cases h
  · cases h

/-- What a write that is not refused does to the disk, seen from the listing of a folder. -/
structure Rewritten (folder : Folder) (disk : Disk) (id : String) (old : ρ) (new : Option ρ)
    (disk' : Disk) : Prop where
  namesOnce : disk'.NamesOnce
  listing : ∃ before after, folder.listing disk = .ok before ∧ folder.listing disk' = .ok after
    ∧ Swaps id [old] new.toList before after

/-- The located file is replaced or taken away, and all else stays. -/
theorem rewritten (hdisk : disk.NamesOnce) (hlocate : folder.locate ρ disk id = .ok name)
    (new : Option Entry) (changed : Directory)
    (hdirectory : disk.directory? folder.path = some directory)
    (hchanged : ∀ above entry below, name ∉ above.map Prod.fst → name ∉ below.map Prod.fst →
      directory = above ++ (name, entry) :: below →
      changed = above ++ (new.map (name, ·)).toList ++ below)
    (hnew : ∀ record, new.bind (recordOf? (ρ := ρ)) = some record → Record.id record = id) :
    ∃ old, folder.Rewritten disk id old (new.bind (recordOf? (ρ := ρ)))
      (disk.setDirectory folder.path changed) := by
  obtain ⟨found, old, rest, hfound, hunder⟩ := locate_ok hlocate
  cases hfound.symm.trans hdirectory
  obtain ⟨above, entry, below, rfl, habove, hheld, hold⟩ := directory_split hunder
  have hnames := hdisk _ _ hdirectory
  rw [List.map_append, List.map_cons, List.nodup_append] at hnames
  obtain ⟨hnodup, hcons, hdisjoint⟩ := hnames
  obtain ⟨hbelow, hrest⟩ := List.nodup_cons.1 hcons
  have hsides : name ∉ above.map Prod.fst := fun h => hdisjoint _ h _ List.mem_cons_self rfl
  cases hchanged above entry below hsides hbelow rfl
  -- the located file has the folder's extension, so what is written there counts
  have hextension : extension? name = some folder.extension := by
    unfold held at hheld
    split at hheld
    · assumption
    · cases hheld
  have hadded : (new.map (name, ·)).toList.filterMap (held ρ folder.extension)
      = (new.bind (recordOf? (ρ := ρ))).toList.map (name, ·) := by
    cases new with
    | none => rfl
    | some content =>
      cases hrecord : recordOf? (ρ := ρ) content <;> simp [held, hextension, hrecord]
  have hswaps := listed_swaps below habove hheld hold hadded fun record hrecord => by
    obtain ⟨added, hmem, rfl⟩ := List.mem_map.1 hrecord
    exact hnew added (by simpa using hmem)
  have hsnd (records : List ρ) : (records.map (name, ·)).map Prod.snd = records := by
    simp [Function.comp_def]
  rw [hsnd] at hswaps
  refine ⟨old, hdisk.setDirectory ?_, _, _, listing_eq hdirectory, listing_eq ?_, hswaps⟩
  · -- whatever takes its place, no name comes twice
    cases new with
    | none =>
      simp only [Option.map_none, Option.toList_none, List.append_nil, List.map_append]
      exact List.nodup_append.2 ⟨hnodup, hrest, fun a ha b hb => hdisjoint a ha b (.tail _ hb)⟩
    | some content =>
      simp only [Option.map_some, Option.toList_some, List.append_assoc, List.map_append,
        List.cons_append, List.nil_append, List.map_cons]
      exact List.nodup_append.2 ⟨hnodup, hcons, hdisjoint⟩
  · rw [Disk.directory?_setDirectory, if_pos rfl]

/-- **An update swaps the located record for the one that the new file reads as.** -/
theorem update_cases (folder : Folder) (record : ρ) {world : World} (hdisk : world.disk.NamesOnce)
    (hback : ∀ found, readBack record = some found → Record.id found = Record.id record) :
    (∃ error, folder.update record world = (.error error, world) ∧ error.fallsThrough = true)
      ∨ ∃ disk' old, folder.update record world = (.ok (), { world with disk := disk' })
        ∧ folder.Rewritten world.disk (Record.id record) old (readBack record) disk' := by
  unfold update
  cases hlocate : folder.locate ρ world.disk (Record.id record) with
  | error error => exact .inl ⟨error, rfl, locate_error hlocate⟩
  | ok name =>
    have hchange := folder.change_cases world.disk "write" name fun directory =>
      directory.writeFile name (Record.page record).toUTF8
    simp only [store]
    rcases hchange with ⟨error, hrefused, hfalls⟩ | ⟨directory, changed, hdirectory, hwrite, hmade⟩
    · exact .inl ⟨error, by rw [hrefused]; rfl, hfalls⟩
    · obtain ⟨old, hrewritten⟩ := rewritten hdisk hlocate
        (some (.file (Record.page record).toUTF8)) changed hdirectory
        (fun above entry below habove _ hsplit => by
          rw [writeFile_ok hwrite, hsplit, Directory.put_append habove]
          simp) hback
      exact .inr ⟨_, old, by rw [hmade]; rfl, hrewritten⟩

/-- **A deletion takes the located record away.** -/
theorem delete_cases (folder : Folder) (id : String) {world : World}
    (hdisk : world.disk.NamesOnce) :
    (∃ error, folder.delete ρ id world = (.error error, world) ∧ error.fallsThrough = true)
      ∨ ∃ disk' old, folder.delete ρ id world = (.ok (), { world with disk := disk' })
        ∧ folder.Rewritten (ρ := ρ) world.disk id old none disk' := by
  unfold delete
  cases hlocate : folder.locate ρ world.disk id with
  | error error => exact .inl ⟨error, rfl, locate_error hlocate⟩
  | ok name =>
    have hchange := folder.change_cases world.disk "remove" name fun directory =>
      directory.removeFile name
    simp only
    rcases hchange with ⟨error, hrefused, hfalls⟩ | ⟨directory, changed, hdirectory, hremove, hmade⟩
    · exact .inl ⟨error, by rw [hrefused]; rfl, hfalls⟩
    · obtain ⟨old, hrewritten⟩ := rewritten hdisk hlocate none changed hdirectory
        (fun above entry below habove hbelow hsplit => by
          rw [removeFile_ok hremove, hsplit, Directory.remove_append habove hbelow]
          simp) nofun
      exact .inr ⟨_, old, by rw [hmade]; rfl, hrewritten⟩

theorem mem_listed {extension : String} {directory : Directory} {record : ρ} :
    record ∈ listed ρ extension directory
      ↔ ∃ name, (name, record) ∈ recordsIn extension directory := by
  simp [listed, sortedRecords]

/-- A deletion lists nothing that has not been listed before, whatever names the disk repeats. -/
theorem listing_delete {world : World} {record : ρ} {after : List ρ}
    (hafter : folder.listing (folder.delete ρ id world).2.disk = .ok after)
    (hrecord : record ∈ after) :
    ∃ before, folder.listing world.disk = .ok before ∧ record ∈ before := by
  unfold delete at hafter
  cases hlocate : folder.locate ρ world.disk id with
  | error error =>
    rw [hlocate] at hafter
    exact ⟨after, hafter, hrecord⟩
  | ok name =>
    rw [hlocate] at hafter
    simp only at hafter
    rcases folder.change_cases world.disk "remove" name fun directory => directory.removeFile name
      with ⟨error, hrefused, -⟩ | ⟨directory, changed, hdirectory, hremove, hmade⟩
    · rw [hrefused] at hafter
      exact ⟨after, hafter, hrecord⟩
    · rw [hmade] at hafter
      have hchanged : (world.disk.setDirectory folder.path changed).directory? folder.path
          = some changed := by
        rw [Disk.directory?_setDirectory, if_pos rfl]
      have hlisted : folder.listing (world.disk.setDirectory folder.path changed)
          = .ok (listed ρ folder.extension changed) := listing_eq hchanged
      rw [show folder.listing (world.disk.setDirectory folder.path changed) = .ok after from hafter]
        at hlisted
      cases hlisted
      -- the entries that are left have all been there
      obtain ⟨file, hfile⟩ := mem_listed.1 hrecord
      rw [removeFile_ok hremove, recordsIn_eq] at hfile
      obtain ⟨entry, hentry, hheld⟩ := List.mem_filterMap.1 hfile
      have hthere : entry ∈ directory := (List.mem_filter.1 hentry).1
      refine ⟨_, listing_eq hdirectory, mem_listed.2 ⟨file, ?_⟩⟩
      rw [recordsIn_eq]
      exact List.mem_filterMap.2 ⟨entry, hthere, hheld⟩

/-- A file with another extension goes unnoticed. -/
theorem recordsIn_remove {extension name : String} (hname : extension? name ≠ some extension)
    (directory : Directory) :
    recordsIn (ρ := ρ) extension (directory.remove name) = recordsIn extension directory := by
  rw [recordsIn_eq, recordsIn_eq]
  induction directory with
  | nil => rfl
  | cons entry rest ih =>
    -- the entry that goes has held nothing of this extension
    by_cases hentry : entry.1 = name
    · have hnone : held ρ extension entry = none := if_neg (hentry ▸ hname)
      rw [Directory.remove, List.filter_cons_of_neg (by simpa using hentry),
        List.filterMap_cons_none hnone]
      exact ih
    · rw [Directory.remove, List.filter_cons_of_pos (by simpa using hentry), List.filterMap_cons,
        List.filterMap_cons]
      rw [Directory.remove] at ih
      rw [ih]

/-- A deletion leaves alone what is listed under another extension. -/
theorem listing_delete_apart {σ : Type} [Record σ] (folder : Folder) (id : String) (world : World)
    {extension : String} (hextension : extension ≠ folder.extension) :
    listing (ρ := σ) ⟨folder.path, extension⟩ (folder.delete ρ id world).2.disk
      = listing ⟨folder.path, extension⟩ world.disk := by
  unfold delete
  cases hlocate : folder.locate ρ world.disk id with
  | error error => rfl
  | ok name =>
    simp only
    rcases folder.change_cases world.disk "remove" name fun directory => directory.removeFile name
      with ⟨error, hrefused, -⟩ | ⟨directory, changed, hdirectory, hremove, hmade⟩
    · rw [hrefused]
      rfl
    · rw [hmade]
      have hchanged : (world.disk.setDirectory folder.path changed).directory? folder.path
          = some changed := by
        rw [Disk.directory?_setDirectory, if_pos rfl]
      have hname : extension? name = some folder.extension := by
        obtain ⟨located, old, rest, -, hunder⟩ := locate_ok hlocate
        obtain ⟨above, entry, below, -, -, hheld, -⟩ := directory_split hunder
        unfold held at hheld
        split at hheld
        · assumption
        · cases hheld
      have hother : extension? name ≠ some extension := by
        rw [hname]
        exact fun hsame => hextension (Option.some.inj hsame).symm
      have hrecords : recordsIn (ρ := σ) extension changed = recordsIn extension directory := by
        rw [removeFile_ok hremove, recordsIn_remove hother]
      have hlisted : listed σ extension changed = listed σ extension directory := by
        unfold listed sortedRecords
        rw [hrecords]
      let beside : Folder := ⟨folder.path, extension⟩
      have hafter : beside.listing (ρ := σ) (world.disk.setDirectory folder.path changed)
          = .ok (listed σ extension changed) := listing_eq hchanged
      have hbefore : beside.listing (ρ := σ) world.disk = .ok (listed σ extension directory) :=
        listing_eq hdirectory
      exact hafter.trans ((congrArg Except.ok hlisted).trans hbefore.symm)

end Writes

end Folder

end TenantConsole
