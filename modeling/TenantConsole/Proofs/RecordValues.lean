import Mathlib.Data.List.Forall2
import TenantConsole.Proofs.PlainRecords

/-!
# Values that formats give back

A record has three forms: two layouts of text and a JSON value, which holds the members of every
object in the order of their names (`Json.sorted`). A format gives one answer to all of them
(`Gives`), so that what is said of a member is said once.

* **`sorted_of_plain`** and **`unembed_of_plain`**: a plain value is sorted already, and no text is
  embedded in it, so the format of free-form values gives it back.
* **`gives_list`** and **`gives_record`** put the answers together. The members of a record are
  looked up by their names; that the value has them in another order makes no difference
  (`found?_of_perm`).
* **`gives_embed`** is about the one thing that no plain value holds: an object that embeds the text
  of a value is read as that value.
* **`slot_of_ofJson`** goes the other way: what stands in a slot of a decoded record is the default
  of the slot, or its format has made it of a part of the value, which is as plain as the value.
-/

namespace TenantConsole

theorem map_eq_ok {ε α β : Type} {answer : Except ε α} {f : α → β} {value : β} :
    answer.map f = .ok value ↔ ∃ a, answer = .ok a ∧ f a = value := by
  cases answer <;> simp [Except.map]

/-- If the function answers on each item, it answers on the list. -/
theorem mapM_eq_ok {ε α β : Type} {items : List α} {f : α → Except ε β} {made : α → β}
    (h : ∀ a ∈ items, f a = .ok (made a)) : items.mapM f = .ok (items.map made) := by
  induction items with
  | nil => rfl
  | cons a items ih =>
    obtain ⟨ha, hitems⟩ := List.forall_mem_cons.1 h
    rw [List.mapM_cons, ha, ih hitems]
    rfl

namespace Json

/-! ## Sorted values -/

mutual

/-- The value with the members of all objects in the order of their names. -/
def sorted : Json → Json
  | .arr items => .arr (sortedItems items)
  | .obj members => ofMembers (sortedMembers members)
  | value => value

/-- Item by item, since a recursion through a `map` would not be seen to end. -/
def sortedItems : List Json → List Json
  | [] => []
  | item :: items => item.sorted :: sortedItems items

def sortedMembers : List (String × Json) → List (String × Json)
  | [] => []
  | (name, value) :: members => (name, value.sorted) :: sortedMembers members

end

/-- The mutual definition once the auxiliary functions are out of sight. -/
theorem sorted_arr (items : List Json) : (arr items).sorted = .arr (items.map sorted) := by
  have hitems : sortedItems items = items.map sorted := by
    induction items with
    | nil => rfl
    | cons item items ih => rw [sortedItems, ih, List.map_cons]
  rw [sorted, hitems]

theorem sorted_obj (members : List (String × Json)) :
    (obj members).sorted = ofMembers (members.map fun member => (member.1, member.2.sorted)) := by
  have hmembers : sortedMembers members
      = members.map fun member => (member.1, member.2.sorted) := by
    induction members with
    | nil => rfl
    | cons member members ih => rw [sortedMembers, ih, List.map_cons]
  rw [sorted, hmembers]

section Plain

variable {depth : Nat} {value : Json}

/-- **A plain value is sorted already.** Induction on plainness; only the object has a case of its
own, and its members come in order. -/
theorem sorted_of_plain (h : Plain depth value) : value.sorted = value := by
  induction h with
  | null => rfl
  | bool => rfl
  | int => rfl
  | str => rfl
  | @arr depth items _ ih =>
    rw [sorted_arr, List.map_congr_left ih]
    exact congrArg Json.arr (List.map_id' items)
  | @obj depth members hsorted _ _ ih =>
    have hmembers : members.map (fun member => (member.1, member.2.sorted)) = members := by
      have hsame : ∀ member ∈ members, (member.1, member.2.sorted) = member :=
        fun member hmember => Prod.ext rfl (ih member hmember)
      rw [List.map_congr_left hsame]
      exact List.map_id' members
    -- the values are sorted by induction, and the names because the object is plain
    rw [sorted_obj, hmembers, ofMembers_sorted hsorted]

theorem unembedItems_of_same {items : List Json} (h : ∀ item ∈ items, unembed item = .ok item) :
    unembedItems items = .ok items := by
  induction items with
  | nil => rfl
  | cons item items ih =>
    obtain ⟨hitem, hitems⟩ := List.forall_mem_cons.1 h
    rw [unembedItems, hitem, ih hitems]
    rfl

/-- The values of the members stay, and so do the names. -/
theorem unembedMembers_of_same {members : List (String × Json)}
    (h : ∀ member ∈ members, unembed member.2 = .ok member.2) :
    unembedMembers members = .ok members := by
  induction members with
  | nil => rfl
  | cons member members ih =>
    obtain ⟨hmember, hmembers⟩ := List.forall_mem_cons.1 h
    rw [unembedMembers, hmember, ih hmembers]
    rfl

/-- **No text is embedded in a plain value.** An object embeds one only under the reserved name, and
the first name of a plain object is another one. -/
theorem unembed_of_plain (h : Plain depth value) : unembed value = .ok value := by
  induction h with
  | null => rfl
  | bool => rfl
  | int => rfl
  | str => rfl
  | arr _ ih =>
    rw [unembed, unembedItems_of_same ih]
    rfl
  | @obj depth members _ hname _ ih =>
    match members, hname, ih with
    | [], _, _ => rfl
    | (name, value) :: members, hname, ih =>
      have hne : name ≠ embeddingName := hname (name, value) rfl
      obtain ⟨hmember, hmembers⟩ := List.forall_mem_cons.1 ih
      simp only [unembed, if_neg hne, hmember, unembedMembers_of_same hmembers]
      rfl

end Plain

/-! ## The order of members -/

section Members

variable {name : String} {value : Json} {members before after : List (String × Json)}

/-- A member with a new name takes no one's place. -/
theorem insertMember_perm (h : name ∉ members.map Prod.fst) :
    (insertMember name value members).Perm ((name, value) :: members) := by
  induction members with
  | nil => exact .refl _
  | cons first rest ih =>
    obtain ⟨hne, hrest⟩ : name ≠ first.1 ∧ name ∉ rest.map Prod.fst := by simpa using h
    rw [insertMember, if_neg hne]
    -- it goes in front of the first one, or further down
    split
    · exact .refl _
    · exact ((ih hrest).cons first).trans (.swap (name, value) first rest)

/-- Members with different names are inserted one after the other. Induction on what is left, with
what is sorted already in front. -/
theorem foldl_insertMember_perm (h : ((before ++ after).map Prod.fst).Nodup) :
    (after.foldl (fun sorted (name, value) => insertMember name value sorted) before).Perm
      (before ++ after) := by
  induction after generalizing before with
  | nil =>
    rw [List.foldl_nil, List.append_nil]
  | cons member rest ih =>
    have hmiddle : (before ++ member :: rest).Perm (member :: before ++ rest) := List.perm_middle
    have hnames : ((member :: before ++ rest).map Prod.fst).Nodup :=
      (hmiddle.map Prod.fst).nodup_iff.1 h
    have hnew : member.1 ∉ before.map Prod.fst := by
      rw [List.cons_append, List.map_cons, List.nodup_cons, List.map_append,
        List.mem_append, not_or] at hnames
      exact hnames.1.1
    -- the next member is new to those in front, so it is added to them
    have hinsert : (insertMember member.1 member.2 before ++ rest).Perm
        (member :: before ++ rest) := (insertMember_perm hnew).append_right rest
    rw [List.foldl_cons]
    exact (ih ((hinsert.map Prod.fst).nodup_iff.2 hnames)).trans (hinsert.trans hmiddle.symm)

/-- Sorting the members of an object brings them in another order, if no name comes twice. -/
theorem ofMembers_perm (h : (members.map Prod.fst).Nodup) :
    ∃ sorted, ofMembers members = .obj sorted ∧ sorted.Perm members :=
  ⟨_, rfl, foldl_insertMember_perm h⟩

end Members

end Json

namespace Format

open Json

section Members

variable {name : String} {value : Json} {members other : List (String × Json)}

theorem found?_eq_none_iff : found? members name = none ↔ name ∉ members.map Prod.fst := by
  unfold found?
  rw [Option.map_eq_none_iff, List.find?_eq_none]
  constructor
  · intro h hname
    obtain ⟨member, hmember, hsame⟩ := List.mem_map.1 hname
    exact h member hmember (decide_eq_true hsame)
  · intro h member hmember hsame
    exact h (List.mem_map.2 ⟨member, hmember, of_decide_eq_true hsame⟩)

/-- No earlier member has the name of a later one. -/
theorem not_mem_of_nodup {before : List (String × Json)} {member : String × Json}
    (h : ((before ++ member :: members).map Prod.fst).Nodup) :
    member.1 ∉ before.map Prod.fst := by
  intro hbefore
  rw [List.map_append, List.nodup_append] at h
  exact h.2.2 _ hbefore _ List.mem_cons_self rfl

/-- **If no name comes twice, looking up by name is membership.** This is what makes the order of
the members irrelevant. -/
theorem found?_eq_some_iff (h : (members.map Prod.fst).Nodup) :
    found? members name = some value ↔ (name, value) ∈ members := by
  constructor
  · intro hfound
    obtain ⟨⟨n, v⟩, hfind, rfl⟩ := Option.map_eq_some_iff.1 hfound
    have hname : n = name := by simpa using List.find?_some hfind
    rw [← hname]
    exact List.mem_of_find?_eq_some hfind
  · intro hmember
    -- nothing above the member has its name, so the search gets to it
    obtain ⟨above, below, rfl⟩ := List.append_of_mem hmember
    have habove : above.find? (fun member => member.1 = name) = none :=
      Option.map_eq_none_iff.1 (found?_eq_none_iff.2 (not_mem_of_nodup h))
    show ((above ++ (name, value) :: below).find? fun member => member.1 = name).map Prod.snd = _
    rw [List.find?_append, habove, Option.none_or, List.find?_cons_of_pos (by simp)]
    rfl

/-- Slots are filled from what is found under their names. -/
theorem fill_congr (h : ∀ name, found? members name = found? other name) (slots : List Slot) :
    fill members slots = fill other slots := by
  induction slots with
  | nil => rfl
  | cons slot slots ih =>
    unfold fill
    rw [h, ih]

end Members

/-! ## Formats -/

/-- One answer to a value in both layouts, at a depth that is left for it, and as it is held. -/
structure Gives (format : Format Json) (depth : Nat) (value found : Json) : Prop where
  reads : format.ReadsAs depth value found
  decodes : format.ofJson value.sorted = .ok found

section Formats

variable {depth : Nat} {value : Json}

/-- A free-form value is given back if it is plain: in text as it is written, and as it is held
because it is sorted and embeds nothing. -/
theorem gives_any (h : Plain depth value) : any.Gives depth value value where
  reads := readsAs_any h
  decodes := by
    rw [sorted_of_plain h]
    exact unembed_of_plain h

theorem gives_text (depth : Nat) (content : String) :
    text.Gives depth (.str content) (.str content) :=
  ⟨readsAs_text depth content, rfl⟩

theorem gives_flag (depth : Nat) (up : Bool) : flag.Gives depth (.bool up) (.bool up) :=
  ⟨readsAs_flag depth up, rfl⟩

theorem gives_oneOf (depth : Nat) {known : List String} {name : String} (hname : name ∈ known) :
    (oneOf known).Gives depth (.str name) (.str name) :=
  ⟨readsAs_oneOf depth hname, if_pos hname⟩

/-- A list gives what its items give, one level further down. -/
theorem gives_list {α : Type} {item : Format Json} {items : List α} {value found : α → Json}
    (hitems : ∀ a ∈ items, item.Gives depth (value a) (found a)) :
    item.list.Gives (depth + 1) (.arr (items.map value)) (.arr (items.map found)) where
  reads := readsAs_list fun a ha => (hitems a ha).reads
  decodes := by
    -- the items are sorted one by one, so they are decoded one by one
    have hdecodes : ((items.map value).map sorted).mapM item.ofJson = .ok (items.map found) := by
      rw [List.map_map, List.mapM_map]
      exact mapM_eq_ok fun a ha => (hitems a ha).decodes
    rw [sorted_arr]
    show (((items.map value).map sorted).mapM item.ofJson).map Json.arr = _
    rw [hdecodes]
    rfl

end Formats

/-! ## Embedded texts -/

/-- An object that stands for the value that its text spells. -/
def embed (value : Json) : Json := .obj [(embeddingName, .str value.compact)]

section Embedded

variable {depth : Nat} {value : Json}

/-- The embedded text is read with the reader of whole values, which has an embedding less to spend
on what is inside. A plain value spends none. -/
theorem readWhole_compact (h : Plain depthLimit value) {embeddings : Nat} (hsome : 0 < embeddings) :
    readWhole embeddings (bytesOf value.compact) = .ok value := by
  obtain ⟨fewer, rfl⟩ : ∃ fewer, embeddings = fewer + 1 := ⟨embeddings - 1, by omega⟩
  have hreads : Reads (readValueWith (readObject (readWhole fewer)) depthLimit)
      (written .compact 0 value) value := reads_value compact_airy h 0
  have hread := hreads [] [] nofun nofun
  rw [List.nil_append, List.append_nil] at hread
  rw [bytesOf_compact, readWhole, hread]
  rfl

/-- A plain value is parsed back from its compact text. -/
theorem parse_compact (h : Plain depthLimit value) : parse value.compact = .ok value := by
  rw [parse, bytesOf_compact]
  exact finish_written (readsAs_any h) compact_airy

/-- An object whose one member has the reserved name is read as the value that its text spells. -/
theorem readsAs_embed (h : Plain depthLimit value) :
    any.ReadsAs (depth + 1) (embed value) value := by
  intro style hstyle indent blanks rest hblanks hends
  obtain ⟨before, hcolon, hbefore⟩ := hstyle.colon
  show readValueWith _ _ _ = _
  -- the reader may go into as many embeddings as there are characters, so there is one to spend
  generalize hlength : (blanks ++ (written style indent (embed value) ++ rest)).length = length
  have hsome : 0 < length := by
    rw [← hlength, embed, written_obj hstyle]
    simp only [List.length_append, List.length_cons]
    omega
  refine reads_of_head hstyle (fun c tail rest htext _ => ?_) blanks rest hblanks hends
  rw [embed, written_obj hstyle] at htext
  obtain ⟨rfl, rfl⟩ := List.cons.inj htext
  -- the member is read sign by sign: the colon, the quotes of the text, and the brace behind it
  have hafter (text : List Char) : readColon (style.colon ++ text) = .ok (before ++ text) := by
    rw [hcolon]
    rfl
  have hopening (text : List Char) : skipBlanks (before ++ '"' :: text) = '"' :: text := by
    rw [skipBlanks_append hbefore, skipBlanks_cons (by decide)]
  have hclosing : skipBlanks (style.gap indent ++ '}' :: rest) = '}' :: rest := by
    rw [skipBlanks_append (hstyle.gap indent), skipBlanks_cons (by decide)]
  rw [readValueWith_obj, List.map_singleton, entriesText, followed, writtenMember, bytes_writeText,
    written_str]
  simp only [List.append_assoc, List.cons_append, List.nil_append]
  -- an object is opened, and its first name is the reserved one
  unfold readObject afterEmbeddingName?
  rw [skipBlanks_append (hstyle.gap _), skipBlanks_cons (by decide)]
  simp only [readText_written, if_true]
  unfold readEmbedded
  simp only [hafter, bind, Except.bind, hopening, readText_written, readWhole_compact h hsome,
    hclosing]
  rfl

/-- An embedded text is given as the value that it spells, in text and as it is held. -/
theorem gives_embed (h : Plain depthLimit value) : any.Gives (depth + 1) (embed value) value where
  reads := readsAs_embed h
  decodes := by
    show unembed (embed value) = .ok value
    rw [embed, unembed, if_pos rfl, parse_compact h]
    rfl

end Embedded

/-! ## Records -/

/-- What the format of its slot makes of a member. -/
def Given (slots : List Slot) (depth : Nat) (member entry : String × Json) : Prop :=
  entry.1 = member.1 ∧ ∃ slot, findSlot? slots member.1 = some slot
    ∧ slot.format.Gives depth member.2 entry.2

section Records

variable {slots : List Slot} {depth : Nat} {name : String} {slot : Slot} {kind : String}
  {members found read : List (String × Json)} {values : List Json}

/-- A member that a slot declares as a text is found as it is. -/
theorem Given.text {content : String} (hslot : findSlot? slots name = some slot)
    (hformat : slot.format = Format.text) :
    Given slots depth (name, .str content) (name, .str content) :=
  ⟨rfl, slot, hslot, hformat ▸ gives_text depth content⟩

theorem Given.flag {up : Bool} (hslot : findSlot? slots name = some slot)
    (hformat : slot.format = Format.flag) :
    Given slots depth (name, .bool up) (name, .bool up) :=
  ⟨rfl, slot, hslot, hformat ▸ gives_flag depth up⟩

/-- A list of free-form values. -/
theorem Given.list {items : List Json} (hslot : findSlot? slots name = some slot)
    (hformat : slot.format = Format.any.list) (hplain : ∀ item ∈ items, Plain depth item) :
    Given slots (depth + 1) (name, .arr items) (name, .arr items) := by
  have hitems : any.list.Gives (depth + 1) (.arr (items.map id)) (.arr (items.map id)) :=
    gives_list fun item hitem => gives_any (hplain item hitem)
  rw [List.map_id] at hitems
  exact ⟨rfl, slot, hslot, hformat ▸ hitems⟩

theorem names_of_given (h : List.Forall₂ (Given slots depth) members found) :
    found.map Prod.fst = members.map Prod.fst := by
  induction h with
  | nil => rfl
  | cons hfirst _ ih => rw [List.map_cons, List.map_cons, hfirst.1, ih]

theorem exists_given (h : List.Forall₂ (Given slots depth) members found) {member : String × Json}
    (hmember : member ∈ members) : ∃ entry ∈ found, Given slots depth member entry := by
  induction h with
  | nil => cases hmember
  | cons hfirst _ ih =>
    rcases List.mem_cons.1 hmember with rfl | hrest
    · exact ⟨_, List.mem_cons_self, hfirst⟩
    · obtain ⟨entry, hentry, hgiven⟩ := ih hrest
      exact ⟨entry, List.mem_cons_of_mem _ hentry, hgiven⟩

/-- Members of different names are found one after the other. -/
theorem steps_of_given {before : List (String × Json)}
    (h : List.Forall₂ (Given slots depth) members found)
    (hnames : ((before ++ members).map Prod.fst).Nodup) :
    Steps (Adds slots depth) members before (before ++ found) := by
  induction h generalizing before with
  | nil =>
    rw [List.append_nil]
    exact .nil
  | @cons member entry members found hfirst _ ih =>
    obtain ⟨name, value⟩ := entry
    obtain ⟨rfl, slot, hslot, hgives⟩ := hfirst
    -- the name is new to what has been found, so no slot is filled twice
    have hnew : found? before member.1 = none := found?_eq_none_iff.2 (not_mem_of_nodup hnames)
    have hrest : ((before ++ [(member.1, value)] ++ members).map Prod.fst).Nodup := by
      rw [List.append_assoc, List.map_append, List.map_append]
      rwa [List.map_append] at hnames
    have hsteps := ih hrest
    rw [List.append_assoc] at hsteps
    exact .cons (.declared hslot hnew hgives.reads) hsteps

/-- In whatever order they come, members are decoded to what is found of them. -/
theorem decodeMembers_of_given
    (h : ∀ member ∈ members, ∃ slot value, findSlot? slots member.1 = some slot
      ∧ slot.format.ofJson member.2 = .ok value ∧ (member.1, value) ∈ found) :
    ∃ read, decodeMembers slots members = .ok read ∧ read.map Prod.fst = members.map Prod.fst
      ∧ ∀ entry ∈ read, entry ∈ found := by
  induction members with
  | nil => exact ⟨[], rfl, rfl, nofun⟩
  | cons member members ih =>
    obtain ⟨⟨slot, value, hslot, hvalue, hmember⟩, hmembers⟩ := List.forall_mem_cons.1 h
    obtain ⟨read, hread, hnames, hfound⟩ := ih hmembers
    refine ⟨(member.1, value) :: read, ?_, by rw [List.map_cons, hnames, List.map_cons],
      List.forall_mem_cons.2 ⟨hmember, hfound⟩⟩
    rw [decodeMembers]
    simp only [hslot, hvalue, hread]
    rfl

/-- What is read of the members in another order fills the slots as before. -/
theorem found?_of_perm (hnames : (found.map Prod.fst).Nodup)
    (hperm : (read.map Prod.fst).Perm (found.map Prod.fst)) (hread : ∀ entry ∈ read, entry ∈ found)
    (name : String) : found? read name = found? found name := by
  refine Option.ext fun value => ?_
  rw [found?_eq_some_iff (hperm.nodup_iff.2 hnames), found?_eq_some_iff hnames]
  refine ⟨hread _, fun hentry => ?_⟩
  -- the name has been read with some value; that value has been found as well, so it is the same
  obtain ⟨⟨n, v⟩, hother, rfl⟩ := List.mem_map.1 (hperm.mem_iff.2 (List.mem_map_of_mem hentry))
  have hsame : some v = some value := by
    rw [← (found?_eq_some_iff hnames).2 (hread _ hother), (found?_eq_some_iff hnames).2 hentry]
  cases hsame
  exact hother

/-- **A record is given back, if its members are.** -/
theorem gives_record (h : List.Forall₂ (Given slots depth) members found)
    (hnames : (members.map Prod.fst).Nodup) (hfill : fill found slots = .ok values) :
    (record kind slots).Gives (depth + 1) (.obj members) (.arr values) where
  reads := readsAs_record (steps_of_given h hnames) hfill
  decodes := by
    have hsame := names_of_given h
    have hkept : (members.map fun member => (member.1, member.2.sorted)).map Prod.fst
        = members.map Prod.fst := by
      rw [List.map_map]
      rfl
    -- as it is held, the record has its members in another order
    obtain ⟨held, hheld, hperm⟩ := ofMembers_perm (hkept ▸ hnames)
    have hgiven : ∀ member ∈ held, ∃ slot value, findSlot? slots member.1 = some slot
        ∧ slot.format.ofJson member.2 = .ok value ∧ (member.1, value) ∈ found := by
      intro member hmember
      obtain ⟨first, hfirst, rfl⟩ := List.mem_map.1 (hperm.mem_iff.1 hmember)
      obtain ⟨entry, hentry, hname, slot, hslot, hgives⟩ := exists_given h hfirst
      exact ⟨slot, entry.2, hslot, hgives.decodes, hname ▸ hentry⟩
    obtain ⟨read, hread, hreadnames, hfound⟩ := decodeMembers_of_given hgiven
    -- each of them is decoded as it was found in the text, so the same slots are filled
    have hreadperm : (read.map Prod.fst).Perm (found.map Prod.fst) := by
      rw [hreadnames, hsame, ← hkept]
      exact hperm.map Prod.fst
    have hfilled : fill read slots = .ok values := by
      rw [fill_congr (found?_of_perm (hsame ▸ hnames) hreadperm hfound), hfill]
    rw [sorted_obj, hheld]
    simp only [record, hread, bind, Except.bind, hfilled]
    rfl

end Records

/-! ## Decoded slots -/

section Decoded

variable {slots : List Slot} {depth : Nat} {slot : Slot} {kind : String} {index : Nat}
  {members read : List (String × Json)} {values items : List Json} {value found : Json}

/-- The slot holds its default or what its format has made of a plain part of the value. -/
def Slot.Made (slot : Slot) (depth : Nat) (found : Json) : Prop :=
  slot.absence.inObject? = some found
    ∨ ∃ part, Plain depth part ∧ slot.format.ofJson part = .ok found

/-- What a list may leave out, an object may leave out. -/
theorem Absence.inObject?_of_inList? {absence : Absence} (h : absence.inList? = some value) :
    absence.inObject? = some value := by
  cases absence with
  | refused => cases h
  | null => cases h
  | default other => exact h

/-- Members that no slot declares are passed over; the others are what the format of their slot has
made of a plain part. Induction on the members. -/
theorem made_of_decodeMembers (hmembers : ∀ member ∈ members, Plain depth member.2)
    (hread : decodeMembers slots members = .ok read) :
    ∀ entry ∈ read, ∃ slot, findSlot? slots entry.1 = some slot ∧ slot.Made depth entry.2 := by
  induction members generalizing read with
  | nil =>
    cases hread
    nofun
  | cons member members ih =>
    obtain ⟨hmember, hmembers⟩ := List.forall_mem_cons.1 hmembers
    rw [decodeMembers] at hread
    split at hread
    · exact ih hmembers hread
    · rename_i slot hslot
      obtain ⟨value, hvalue, hread⟩ := bind_eq_ok.1 hread
      obtain ⟨rest, hrest, hreturn⟩ := bind_eq_ok.1 hread
      cases hreturn
      exact List.forall_mem_cons.2 ⟨⟨slot, hslot, .inr ⟨_, hmember, hvalue⟩⟩, ih hmembers hrest⟩

/-- Slots are filled one by one, from what has been found or by default. -/
theorem filled_of_fill (hfill : fill read slots = .ok values) (hslot : slots[index]? = some slot) :
    ∃ value, values[index]? = some value
      ∧ (found? read slot.name).or slot.absence.inObject? = some value := by
  induction slots generalizing values index with
  | nil => cases hslot
  | cons first slots ih =>
    unfold fill at hfill
    -- a slot that cannot be filled ends it all
    split at hfill
    · cases hfill
    · rename_i value hvalue
      obtain ⟨rest, hrest, rfl⟩ := map_eq_ok.1 hfill
      cases index with
      | zero =>
        cases hslot
        exact ⟨value, rfl, hvalue⟩
      | succ index =>
        simp only [List.getElem?_cons_succ] at hslot ⊢
        exact ih hrest hslot

/-- A record that comes as a list is decoded slot by slot. Induction on the slots, with the items
that are left. -/
theorem made_of_decodeSlots {expected : String} {start : Nat}
    (hitems : ∀ item ∈ items, Plain depth item)
    (hread : decodeSlots expected start slots items = .ok values)
    (hslot : slots[index]? = some slot) :
    ∃ value, values[index]? = some value ∧ slot.Made depth value := by
  induction slots generalizing items values start index with
  | nil => cases hslot
  | cons first slots ih =>
    cases items with
    | nil =>
      rw [decodeSlots] at hread
      -- the list is too short: the slot holds its default, or there is no record
      split at hread
      · rename_i value hvalue
        obtain ⟨rest, hrest, rfl⟩ := map_eq_ok.1 hread
        cases index with
        | zero =>
          cases hslot
          exact ⟨value, rfl, .inl (Absence.inObject?_of_inList? hvalue)⟩
        | succ index =>
          simp only [List.getElem?_cons_succ] at hslot ⊢
          exact ih (List.forall_mem_nil _) hrest hslot
      · cases hread
    | cons item items =>
      obtain ⟨hitem, hitems⟩ := List.forall_mem_cons.1 hitems
      rw [decodeSlots] at hread
      obtain ⟨value, hvalue, hread⟩ := bind_eq_ok.1 hread
      obtain ⟨rest, hrest, hreturn⟩ := bind_eq_ok.1 hread
      cases hreturn
      cases index with
      | zero =>
        cases hslot
        exact ⟨value, rfl, .inr ⟨item, hitem, hvalue⟩⟩
      | succ index =>
        simp only [List.getElem?_cons_succ] at hslot ⊢
        exact ih hitems hrest hslot

theorem item_arr (h : values[index]? = some value) : (Json.arr values).item index = value := by
  show values.getD index .null = value
  rw [List.getD_eq_getElem?_getD, h]
  rfl

/-- A slot that is filled from the members of an object holds its default, or what its format has
made of the member with its name. -/
theorem made_of_filled (hmembers : ∀ member ∈ members, Plain depth member.2)
    (hread : decodeMembers slots members = .ok read)
    (hfirst : findSlot? slots slot.name = some slot)
    (hfilled : (found? read slot.name).or slot.absence.inObject? = some value) :
    slot.Made depth value := by
  cases hfound : found? read slot.name with
  | none =>
    rw [hfound] at hfilled
    exact .inl hfilled
  | some other =>
    rw [hfound] at hfilled
    cases hfilled
    obtain ⟨entry, hentry, rfl⟩ := Option.map_eq_some_iff.1 hfound
    have hname : entry.1 = slot.name := by simpa using List.find?_some hentry
    -- what was found under the name was made for the first slot of that name, and that is this one
    obtain ⟨declared, hdeclared, hmade⟩ :=
      made_of_decodeMembers hmembers hread entry (List.mem_of_find?_eq_some hentry)
    rw [hname, hfirst] at hdeclared
    cases hdeclared
    exact hmade

/-- **What stands in a slot of a decoded record has been made of a part of the value.** -/
theorem slot_of_ofJson (hplain : Plain (depth + 1) value)
    (hread : (record kind slots).ofJson value = .ok found) (hslot : slots[index]? = some slot)
    (hfirst : findSlot? slots slot.name = some slot) : slot.Made depth (found.item index) := by
  cases hplain with
  | null => cases hread
  | bool => cases hread
  | int => cases hread
  | str => cases hread
  | arr hitems =>
    -- a record in the form of a list
    obtain ⟨values, hvalues, rfl⟩ := map_eq_ok.1 hread
    obtain ⟨value, hvalue, hmade⟩ := made_of_decodeSlots hitems hvalues hslot
    rwa [item_arr hvalue]
  | obj _ _ hmembers =>
    -- a record in the form of an object
    obtain ⟨read, hmembersread, hread⟩ := bind_eq_ok.1 hread
    split at hread
    · rename_i values hfill
      cases hread
      obtain ⟨value, hvalue, hfilled⟩ := filled_of_fill hfill hslot
      rw [item_arr hvalue]
      exact made_of_filled hmembers hmembersread hfirst hfilled
    · cases hread

end Decoded

end Format

end TenantConsole
