import TenantConsole.Proofs.Folders

/-!
# Names and entries of a directory

The name of a record file gives its id and its extension away, so ids that differ have files that
differ. What a write does to a directory in which every name comes once is said by
`Directory.Sets`: one name stands for another entry from now on, or for none, and nothing else
moves. Writing a file sets its name to the file (`sets_put`), removing it sets its name to nothing
(`sets_remove`).
-/

namespace TenantConsole

/-! ## Names of files -/

namespace Folder

variable {folder : Folder}

/-- A file name is the id, a point and the extension, letter by letter. -/
theorem toList_fileName (folder : Folder) (id : String) :
    (folder.fileName id).toList = id.toList ++ '.' :: folder.extension.toList := by
  unfold fileName
  rw [String.toList_append, String.toList_append, List.append_assoc]
  rfl

/-- The extension is what follows the last point. -/
theorem extension?_fileName (hext : '.' ∉ folder.extension.toList) {id : String} (hid : id ≠ "") :
    extension? (folder.fileName id) = some folder.extension := by
  have hno : ∀ c ∈ folder.extension.toList.reverse, decide (c ≠ '.') = true := by
    intro c hc
    rw [decide_eq_true_eq]
    rintro rfl
    exact hext (List.mem_reverse.1 hc)
  have hsome : id.toList.reverse ≠ [] := by
    intro h
    exact hid (String.toList_eq_nil_iff.1 (List.reverse_eq_nil_iff.1 h))
  -- the id is not empty, so something is left in front of the last point
  obtain ⟨c, rest, hcons⟩ := List.exists_cons_of_ne_nil hsome
  unfold extension?
  simp only [toList_fileName, List.reverse_append, List.reverse_cons, List.append_assoc,
    List.dropWhile_append_of_pos hno, List.takeWhile_append_of_pos hno, hcons]
  simp

/-- Two ids never share a file. All names of a folder end alike, so what is left of them is the
id. -/
theorem fileName_injective {a b : String} (h : folder.fileName a = folder.fileName b) : a = b := by
  have hlist := congrArg String.toList h
  rw [toList_fileName, toList_fileName] at hlist
  exact String.toList_inj.1 (List.append_cancel_right hlist)

end Folder

/-! ## Entries -/

namespace Directory

variable {name : String} {new : Option Entry} {directory before after : Directory}

theorem mem_of_entry? {entry : Entry} (h : directory.entry? name = some entry) :
    (name, entry) ∈ directory := by
  obtain ⟨⟨n, e⟩, hfound, rfl⟩ := Option.map_eq_some_iff.1 h
  have hname : n = name := by simpa using List.find?_some hfound
  rw [← hname]
  exact List.mem_of_find?_eq_some hfound

theorem entry?_append {above below : Directory} {entry : Entry}
    (habove : name ∉ above.map Prod.fst) :
    entry? (above ++ (name, entry) :: below) name = some entry := by
  have hnone : above.find? (fun (e : String × Entry) => decide (e.1 = name)) = none := by
    rw [List.find?_eq_none]
    intro e he hsame
    exact habove (of_decide_eq_true hsame ▸ List.mem_map_of_mem he)
  show Option.map Prod.snd (List.find? (fun (e : String × Entry) => decide (e.1 = name)) _) = _
  rw [List.find?_append, hnone, Option.none_or, List.find?_cons_of_pos (by simp)]
  rfl

/-- A file whose name is new is written at the end. -/
theorem put_new (h : name ∉ directory.map Prod.fst) (entry : Entry) :
    directory.put name entry = directory ++ [(name, entry)] := by
  -- `put` walks the entries as the list does, and the name is none of those it passes
  induction directory with
  | nil => rfl
  | cons first rest ih =>
    obtain ⟨hfirst, hrest⟩ : first.1 ≠ name ∧ name ∉ rest.map Prod.fst := by
      simpa [eq_comm] using h
    unfold put
    rw [if_neg hfirst, ih hrest]
    rfl

/-- An entry is named once if no other entry has its name. -/
theorem nodup_middle {above below : Directory} {entry : Entry} :
    ((above ++ (name, entry) :: below).map Prod.fst).Nodup
      ↔ name ∉ (above ++ below).map Prod.fst ∧ ((above ++ below).map Prod.fst).Nodup := by
  have hperm : (above ++ (name, entry) :: below).Perm ((name, entry) :: (above ++ below)) :=
    List.perm_middle
  rw [(hperm.map Prod.fst).nodup_iff, List.map_cons, List.nodup_cons]

/-- The directory around an entry. -/
theorem split_of_mem (hnames : (directory.map Prod.fst).Nodup) {entry : Entry}
    (h : (name, entry) ∈ directory) :
    ∃ above below, directory = above ++ (name, entry) :: below
      ∧ name ∉ above.map Prod.fst ∧ name ∉ below.map Prod.fst
      ∧ ((above ++ below).map Prod.fst).Nodup := by
  obtain ⟨above, below, rfl⟩ := List.append_of_mem h
  obtain ⟨hname, hsides⟩ := nodup_middle.1 hnames
  rw [List.map_append, List.mem_append, not_or] at hname
  exact ⟨above, below, rfl, hname.1, hname.2, hsides⟩

/-- A name stands for this entry from now on, or for none; nothing else moves. -/
structure Sets (name : String) (new : Option Entry) (before after : Directory) : Prop where
  once : (after.map Prod.fst).Nodup
  here : ∀ entry, (name, entry) ∈ after ↔ new = some entry
  away : after.filter (fun e => e.1 ≠ name) = before.filter fun e => e.1 ≠ name

theorem Sets.mem_away (h : Sets name new before after) {other : String} (hother : other ≠ name)
    {entry : Entry} : (other, entry) ∈ after ↔ (other, entry) ∈ before := by
  have hfilter (entries : Directory) : (other, entry) ∈ entries.filter (fun e => e.1 ≠ name)
      ↔ (other, entry) ∈ entries := by
    rw [List.mem_filter]
    simp [hother]
  rw [← hfilter after, h.away, hfilter before]

/-- Entries of another kind of name stay, in their order. -/
theorem Sets.filter (h : Sets name new before after) {p : String → Bool} (hname : p name = false) :
    after.filter (fun e => p e.1) = before.filter fun e => p e.1 := by
  have hfilter (entries : Directory) : entries.filter (fun e => p e.1)
      = (entries.filter fun e => e.1 ≠ name).filter fun e => p e.1 := by
    rw [List.filter_filter]
    refine List.filter_congr fun e _ => ?_
    by_cases he : e.1 = name
    · simp [he, hname]
    · simp [he]
  -- a name outside `p` is dropped by the filter anyway, so dropping it first changes nothing
  rw [hfilter after, h.away, ← hfilter before]

/-- Both writes come down to this: a directory is cut around the entry of a name, and the piece in
the middle, which may be empty, is exchanged for another. -/
theorem sets_of_split {above below : Directory} (old new : Option Entry)
    (hnames : ((above ++ below).map Prod.fst).Nodup) (habove : name ∉ above.map Prod.fst)
    (hbelow : name ∉ below.map Prod.fst) :
    Sets name new (above ++ (old.map (name, ·)).toList ++ below)
      (above ++ (new.map (name, ·)).toList ++ below) where
  once := by
    cases new with
    | none => simpa using hnames
    | some entry =>
      have hnew : name ∉ (above ++ below).map Prod.fst := by
        rw [List.map_append, List.mem_append]
        exact fun h => h.elim habove hbelow
      rw [Option.map_some, Option.toList_some, List.append_assoc]
      exact nodup_middle.2 ⟨hnew, hnames⟩
  here entry := by
    have hleft : (name, entry) ∉ above := fun h => habove (List.mem_map_of_mem h)
    have hright : (name, entry) ∉ below := fun h => hbelow (List.mem_map_of_mem h)
    simp [hleft, hright]
  away := by
    have hnone (entry : Option Entry) :
        (entry.map (name, ·)).toList.filter (fun e => e.1 ≠ name) = [] := by
      cases entry <;> simp
    rw [List.filter_append, List.filter_append, List.filter_append, List.filter_append, hnone old,
      hnone new]

/-- A file that is written stands under its name. -/
theorem sets_put (hnames : (directory.map Prod.fst).Nodup) (name : String) (entry : Entry) :
    Sets name (some entry) directory (directory.put name entry) := by
  -- an entry that is there is replaced where it stands, a new one is appended
  by_cases hname : name ∈ directory.map Prod.fst
  · obtain ⟨⟨n, old⟩, hold, rfl⟩ := List.mem_map.1 hname
    obtain ⟨above, below, rfl, habove, hbelow, hsides⟩ := split_of_mem hnames hold
    have hsets := sets_of_split (some old) (some entry) hsides habove hbelow
    rw [put_append habove]
    simpa using hsets
  · have hall : ((directory ++ []).map Prod.fst).Nodup := by simpa using hnames
    have hsets := sets_of_split none (some entry) hall hname List.not_mem_nil
    rw [put_new hname]
    simpa using hsets

/-- A file that is removed leaves its name to none. -/
theorem sets_remove (hnames : (directory.map Prod.fst).Nodup) {entry : Entry}
    (hentry : (name, entry) ∈ directory) : Sets name none directory (directory.remove name) := by
  obtain ⟨above, below, rfl, habove, hbelow, hsides⟩ := split_of_mem hnames hentry
  have hsets := sets_of_split (some entry) none hsides habove hbelow
  rw [remove_append habove hbelow]
  simpa using hsets

end Directory

end TenantConsole
