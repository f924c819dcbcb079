import TenantConsole.Proofs.Folders
import TenantConsole.Proofs.RecordValues
import TenantConsole.Record.Dashboard
import TenantConsole.Record.Server

/-!
# Records read back from their pages

A record file holds the page of its record. Read again, the page may be refused, but it is never
mistaken for another record: members are found under their names, and those that are texts have the
texts that were written (`text_of_page`). For owned records that is as much as the scopes need: what
has been written under an id, for an owner, is read under that id and for that owner (`Legible`).
-/

namespace TenantConsole

namespace Format

open Json

/-! ## Formats of members -/

/-- A text reads as itself; of other values nothing is said. -/
def Echoes (value found : Json) : Prop := ∀ text, value = .str text → found = .str text

/-- A slot reads a value wherever it stands on a page, to its end and no further. -/
def Slot.Reads (slot : Slot) (value : Json) : Prop :=
  ∀ depth indent, Spans (slot.format.read depth) (written .indented indent value) (Echoes value)

section Formats

variable {slot : Slot}

/-- A member that is a text is read as that text. -/
theorem Slot.reads_text (hformat : slot.format = Format.text) (text : String) :
    slot.Reads (.str text) := by
  intro depth indent
  rw [hformat]
  exact (readsAs_text depth text .indented indented_airy indent).spans fun _ h => h

theorem Slot.reads_flag (hformat : slot.format = Format.flag) (flag : Bool) :
    slot.Reads (.bool flag) := by
  intro depth indent
  rw [hformat]
  exact (readsAs_flag depth flag .indented indented_airy indent).spans nofun

/-- Whatever is read where any value may stand, exactly the written value is taken off the text. -/
theorem spans_any (depth indent : Nat) (value : Json) :
    Spans (any.read depth) (written .indented indent value) fun _ => True := by
  intro blanks hblanks rest found rest' hends hread
  exact spans_value indented_airy depth indent value blanks hblanks rest found rest' hends hread

/-- A member that may be anything is read over to its end, and echoes texts. -/
theorem Slot.reads_any (hformat : slot.format = Format.any) (value : Json) :
    slot.Reads value := by
  intro depth indent
  rw [hformat]
  -- only of a text is the finding itself known; of other values it is enough where they end
  cases value with
  | str text =>
    exact (readsAs_any (.str text) .indented indented_airy indent).spans fun _ h => h
  | _ =>
    intro blanks hblanks rest found rest' hends hread
    exact ⟨(spans_any depth indent _ blanks hblanks rest found rest' hends hread).1, nofun⟩

/-- A list is read item by item. -/
theorem Slot.reads_list {item : Format Json} (hformat : slot.format = item.list)
    {items : List Json}
    (hitems : ∀ value ∈ items, ∀ depth indent,
      Spans (item.read depth) (written .indented indent value) fun _ => True) :
    slot.Reads (.arr items) := by
  intro depth indent blanks hblanks rest found rest' hends hread
  refine ⟨?_, nofun⟩
  rw [hformat] at hread
  have hskip : skipBlanks (blanks ++ written .indented indent (.arr items) ++ rest)
      = '[' :: (entriesText (Style.indented.gap (indent + 1)) (Style.indented.gap indent)
          (items.map (written .indented (indent + 1))) ++ ']' :: rest) := by
    rw [List.append_assoc, skipBlanks_written indented_airy hblanks, written_arr indented_airy,
      List.cons_append, List.append_assoc]
    rfl
  simp only [Format.list, hskip] at hread
  -- at the depth limit the list is refused, and nothing has been read
  cases depth with
  | zero => cases hread
  | succ depth =>
    obtain ⟨read, hitemsread, hfound⟩ := map_eq_ok.1 hread
    cases hfound
    exact rest_of_items indented_airy (fun value hvalue => hitems value hvalue depth (indent + 1))
      hitemsread

end Formats

/-! ## Members -/

section Members

variable {slots : List Slot} {found found' : List (String × Json)} {name : String} {value : Json}

/-- What reading a declared member adds to the members before it. -/
def Reading (member : String × Json) (found found' : List (String × Json)) : Prop :=
  ∃ value, found' = found ++ [(member.1, value)] ∧ Echoes member.2 value
    ∧ found? found member.1 = none

/-- Reading one member takes its text off the page and adds one finding, under a name that was new
until then. -/
theorem takes_member {slot : Slot} (hslot : findSlot? slots name = some slot)
    (hreads : slot.Reads value) (depth indent : Nat) (found : List (String × Json)) :
    Takes (readMember slots depth found) (writtenMember .indented indent (name, value))
      (Reading (name, value) found) := by
  intro rest found' rest' hends hread
  rw [writtenMember, bytes_writeText] at hread
  simp only [List.cons_append, List.append_assoc, List.nil_append, readMember] at hread
  rw [readText_written] at hread
  obtain ⟨⟨_, text⟩, hname, hread⟩ := bind_eq_ok.1 hread
  cases hname
  simp only [hslot] at hread
  split at hread
  · -- a name that was found before is refused
    cases hread
  · rename_i hnew
    obtain ⟨text, hcolon, hread⟩ := bind_eq_ok.1 hread
    obtain rfl : ' ' :: (written .indented indent value ++ rest) = text := Except.ok.inj hcolon
    obtain ⟨⟨read, text⟩, hvalue, hreturn⟩ := bind_eq_ok.1 hread
    cases hreturn
    -- between the colon and the value stands one blank
    have hblank : ∀ c ∈ [' '], isBlank c = true := List.forall_mem_singleton.2 rfl
    obtain ⟨hrest, hechoes⟩ := hreads depth indent [' '] hblank rest read text hends hvalue
    exact ⟨hrest, read, rfl, hechoes, by simpa using hnew⟩

/-- A finding counts for its name only as long as that name has none before it. -/
theorem found?_append (found : List (String × Json)) (member : String × Json) (name : String) :
    found? (found ++ [member]) name
      = (found? found name).or (if member.1 = name then some member.2 else none) := by
  unfold found?
  rw [List.find?_append, Option.map_or]
  congr 1
  by_cases hname : member.1 = name
  · simp [hname]
  · simp [hname]

/-- What has been found stays found. -/
theorem found?_of_steps {members : List (String × Json)}
    (hsteps : Steps Reading members found found') (hfound : found? found name = some value) :
    found? found' name = some value := by
  -- over the members read since; each of them is appended behind what has been found
  induction hsteps with
  | nil => exact hfound
  | cons hstep _ ih =>
    obtain ⟨read, rfl, -, -⟩ := hstep
    refine ih ?_
    rw [found?_append, hfound]
    rfl

/-- **A member that is a text is found as that text.** -/
theorem found?_of_mem {members : List (String × Json)} {text : String}
    (hsteps : Steps Reading members found found') (hmember : (name, .str text) ∈ members) :
    found? found' name = some (.str text) := by
  induction hsteps with
  | nil => cases hmember
  | cons hstep hrest ih =>
    rcases List.mem_cons.1 hmember with rfl | hmember
    · -- its name was new when it was read, so it is the first of that name
      obtain ⟨read, rfl, hechoes, hnone⟩ := hstep
      refine found?_of_steps hrest ?_
      rw [found?_append, hnone, hechoes text rfl]
      simp
    · exact ih hmember

end Members

/-! ## Pages -/

/-- A member that one of the slots reads. -/
def Declared (slots : List Slot) (member : String × Json) : Prop :=
  ∃ slot, findSlot? slots member.1 = some slot ∧ slot.Reads member.2

section Pages

variable {kind : String} {slots : List Slot} {members : List (String × Json)} {found : Json}

theorem Declared.text {slot : Slot} {name text : String} (hslot : findSlot? slots name = some slot)
    (hformat : slot.format = Format.text) : Declared slots (name, .str text) :=
  ⟨slot, hslot, slot.reads_text hformat text⟩

theorem Declared.flag {slot : Slot} {name : String} {flag : Bool}
    (hslot : findSlot? slots name = some slot) (hformat : slot.format = Format.flag) :
    Declared slots (name, .bool flag) :=
  ⟨slot, hslot, slot.reads_flag hformat flag⟩

theorem Declared.list {slot : Slot} {name : String} {items : List Json}
    (hslot : findSlot? slots name = some slot) (hformat : slot.format = Format.any.list) :
    Declared slots (name, .arr items) :=
  ⟨slot, hslot, slot.reads_list hformat fun value _ depth indent =>
    spans_any depth indent value⟩

/-- The members of a record are read one by one, then they fill its slots. -/
theorem spans_record (hmembers : ∀ member ∈ members, Declared slots member) (depth indent : Nat) :
    Spans ((record kind slots).read (depth + 1)) (written .indented indent (.obj members))
      fun found => ∃ read values, Steps Reading members [] read ∧ fill read slots = .ok values
        ∧ found = .arr values := by
  intro blanks hblanks rest found rest' hends hread
  have hskip : skipBlanks (blanks ++ written .indented indent (.obj members) ++ rest)
      = '{' :: (entriesText (Style.indented.gap (indent + 1)) (Style.indented.gap indent)
          (members.map (writtenMember .indented (indent + 1))) ++ '}' :: rest) := by
    rw [List.append_assoc, skipBlanks_written indented_airy hblanks, written_obj indented_airy,
      List.cons_append, List.append_assoc]
    rfl
  simp only [record, hskip] at hread
  obtain ⟨⟨read, text⟩, hentries, hread⟩ := bind_eq_ok.1 hread
  obtain ⟨hrest, hsteps⟩ := takes_entries Reading (.inr rfl) (indented_airy.gap _)
    (indented_airy.gap _)
    (fun member hmember found => by
      obtain ⟨slot, hslot, hreads⟩ := hmembers member hmember
      exact takes_member hslot hreads depth (indent + 1) found)
    (fun member _ => head_writtenMember (indent + 1) member) hentries
  simp only at hread
  split at hread
  · rename_i values hvalues
    cases hread
    exact ⟨hrest, read, values, hsteps, hvalues, rfl⟩
  · cases hread

/-- A record within a record, wherever it stands. -/
theorem Slot.reads_record {slot : Slot} (hformat : slot.format = record kind slots)
    (hmembers : ∀ member ∈ members, Declared slots member) : slot.Reads (.obj members) := by
  intro depth indent blanks hblanks rest found rest' hends hread
  refine ⟨?_, nofun⟩
  rw [hformat] at hread
  -- at the depth limit the record is refused, as a list is
  cases depth with
  | zero =>
    have hskip := skipBlanks_written indented_airy hblanks indent (.obj members) rest
    rw [written_obj indented_airy, ← List.append_assoc, List.cons_append] at hskip
    rw [written_obj indented_airy] at hread
    simp only [record, hskip] at hread
    cases hread
  | succ depth =>
    exact (spans_record hmembers depth indent blanks hblanks rest found rest' hends hread).1

/-- **The texts of a page are kept.** -/
theorem text_of_page (hmembers : ∀ member ∈ members, Declared slots member)
    (hread : (record kind slots).readAll (Json.obj members).indented = .ok found)
    {index : Nat} {slot : Slot} {text : String} (hslot : slots[index]? = some slot)
    (hmember : (slot.name, .str text) ∈ members) : (found.item index).asText = text := by
  -- a page is read byte by byte, as its value has been written
  unfold readAll at hread
  rw [bytesOf_indented] at hread
  cases hrecord : (record kind slots).read depthLimit (written .indented 0 (.obj members)) with
  | error error => rw [hrecord] at hread; cases hread
  | ok front =>
    obtain ⟨front, rest⟩ := front
    have hends : Ends [] := nofun
    have hread' : (record kind slots).read depthLimit
        ([] ++ written .indented 0 (.obj members) ++ []) = .ok (front, rest) := by
      rw [List.append_nil]
      exact hrecord
    obtain ⟨-, read, values, hsteps, hfill, rfl⟩ :=
      spans_record hmembers 126 0 [] nofun [] front rest hends hread'
    rw [hrecord] at hread
    unfold finish at hread
    simp only at hread
    split at hread
    · cases hread
      -- the slot is filled with what was found under its name, and that is the text
      obtain ⟨value, hvalue, hfilled⟩ := filled_of_fill hfill hslot
      rw [found?_of_mem hsteps hmember] at hfilled
      cases hfilled
      rw [item_arr hvalue]
      rfl
    · cases hread

end Pages

end Format

/-! ## Owned records -/

/-- Records of a kind read from a file as what was written to it, as far as id and owner go. -/
def Legible (ρ : Type) [Owned ρ] : Prop :=
  ∀ record found : ρ, Folder.readBack record = some found →
    Record.id found = Record.id record ∧ Owned.owner found = Owned.owner record

/-- A written file is read as the text of its page. -/
theorem Folder.readBack_eq {ρ : Type} [Record ρ] (record : ρ) :
    Folder.readBack record = (Record.ofText (Record.page record)).toOption.bind fun read =>
      if Record.id read = "" then none else some read := by
  have htext : String.fromUTF8? (Record.page record).toUTF8 = some (Record.page record) := by
    have hvalid : (Record.page record).toUTF8.IsValidUTF8 := (Record.page record).isValidUTF8
    unfold String.fromUTF8?
    rw [dif_pos hvalid]
    rfl
  unfold Folder.readBack Folder.recordOf?
  simp only [htext, Option.bind_eq_bind, Option.bind_some]

/-- What is read back from a record's file is what the text of its page stands for. -/
theorem ofText_of_readBack {ρ : Type} [Record ρ] {record found : ρ}
    (h : Folder.readBack record = some found) :
    Record.ofText (Record.page record) = .ok found := by
  rw [Folder.readBack_eq] at h
  obtain ⟨read, hread, hsome⟩ := Option.bind_eq_some_iff.1 h
  split at hsome
  · cases hsome
  · cases hsome
    cases hpage : Record.ofText (ρ := ρ) (Record.page record) with
    | error error => rw [hpage] at hread; cases hread
    | ok read => rw [hpage] at hread; cases hread; rfl

/-- A page read as a record has been read as a value first. -/
theorem readAll_map {α β : Type} {f : α → β} {format : Format α} {text : String} {found : β}
    (h : (format.map f).readAll text = .ok found) :
    ∃ value, format.readAll text = .ok value ∧ f value = found := by
  unfold Format.readAll at h
  rw [Format.finish_map] at h
  unfold Format.readAll
  cases hread : Json.finish (format.read Json.depthLimit (Json.bytesOf text)) with
  | error error => rw [hread] at h; cases h
  | ok value => rw [hread] at h; cases h; exact ⟨value, rfl, rfl⟩

/-- What the kinds of records have in common: an id and an owner among members that are declared. -/
theorem legible_of {ρ : Type} [Owned ρ] {kind : String} {slots : List Format.Slot}
    {ofSlots : Json → ρ} {members : ρ → List (String × Json)} {idSlot ownerSlot : Format.Slot}
    (hformat : Record.format = (Format.record kind slots).map ofSlots)
    (hmembers : ∀ record, Record.toJson record = .obj (members record))
    (hdeclared : ∀ record, ∀ member ∈ members record, Format.Declared slots member)
    (idAt ownerAt : Nat) (hidSlot : slots[idAt]? = some idSlot)
    (hownerSlot : slots[ownerAt]? = some ownerSlot)
    (hid : ∀ record, (idSlot.name, .str (Record.id record)) ∈ members record)
    (howner : ∀ record, (ownerSlot.name, .str (Owned.owner record)) ∈ members record)
    (hidOf : ∀ value, Record.id (ofSlots value) = (value.item idAt).asText)
    (hownerOf : ∀ value, Owned.owner (ofSlots value) = (value.item ownerAt).asText) :
    Legible ρ := by
  intro record found hback
  have hread := ofText_of_readBack hback
  unfold Record.ofText Record.page at hread
  rw [hformat, hmembers] at hread
  obtain ⟨value, hvalue, rfl⟩ := readAll_map hread
  rw [hidOf, hownerOf]
  exact ⟨Format.text_of_page (hdeclared record) hvalue hidSlot (hid record),
    Format.text_of_page (hdeclared record) hvalue hownerSlot (howner record)⟩

/-- The password is a member of its own or none at all; either way its slot is there. -/
theorem declared_password {slots : List Format.Slot}
    (hslot : Format.findSlot? slots "password" = some (.optionalText "password"))
    (password : String) :
    ∀ member ∈ passwordMember password, Format.Declared slots member := by
  unfold passwordMember
  split
  · nofun
  · exact List.forall_mem_singleton.2 (.text hslot rfl)

/-- The page of a source keeps its id and its owner. -/
theorem legible_source : Legible Source := by
  refine legible_of rfl (fun _ => rfl) (fun source => ?_) 0 9 rfl rfl (fun source => ?_)
    (fun source => ?_) (fun _ => rfl) fun _ => rfl
  · simp only [List.forall_mem_append, List.forall_mem_cons]
    exact ⟨⟨⟨.text rfl rfl, .text rfl rfl, .text rfl rfl, .text rfl rfl, nofun⟩,
      declared_password rfl source.password⟩,
      .text rfl rfl, .flag rfl rfl, .flag rfl rfl, .text rfl rfl, .text rfl rfl, nofun⟩
  · exact List.mem_append_left _ (List.mem_append_left _ List.mem_cons_self)
  · exact List.mem_append_right _ (List.mem_of_getLast? rfl)

theorem legible_server : Legible Server := by
  refine legible_of rfl (fun _ => rfl) (fun server => ?_) 0 8 rfl rfl (fun server => ?_)
    (fun server => ?_) (fun _ => rfl) fun _ => rfl
  · simp only [List.forall_mem_append, List.forall_mem_cons]
    exact ⟨⟨⟨.text rfl rfl, .text rfl rfl, .text rfl rfl, .text rfl rfl, nofun⟩,
      declared_password rfl server.password⟩,
      .text rfl rfl, .flag rfl rfl, .flag rfl rfl, .text rfl rfl, nofun⟩
  · exact List.mem_append_left _ (List.mem_append_left _ List.mem_cons_self)
  · exact List.mem_append_right _ (List.mem_of_getLast? rfl)

/-- The page of a dashboard keeps its id and its owner, although its parts may be anything. -/
theorem legible_dashboard : Legible Dashboard := by
  refine legible_of rfl (fun _ => rfl) (fun dashboard => ?_) 0 4 rfl rfl (fun dashboard => ?_)
    (fun dashboard => ?_) (fun _ => rfl) fun _ => rfl
  · simp only [List.forall_mem_cons]
    exact ⟨.text rfl rfl, .text rfl rfl, .list rfl rfl, .list rfl rfl, .text rfl rfl, nofun⟩
  · exact List.mem_cons_self
  · exact List.mem_of_getLast? rfl

end TenantConsole
