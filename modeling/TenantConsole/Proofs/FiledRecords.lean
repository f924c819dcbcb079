import TenantConsole.Proofs.Pages
import TenantConsole.Proofs.StoredForms

/-!
# Records that survive in a file

Seven kinds of records can be kept in files. A record with an id survives there, if its free-form
values are plain: written to a file and read again, it is the record that was handed in
(`Filed.survives`). The page in the file is one of the forms in which records are stored, and an
empty id is all that a file refuses beside a page that cannot be decoded. A page of whatever record
is never read under another id (`Stored.id_of_readBack`).
-/

namespace TenantConsole

/-- A record that its file gives back as it has been written. -/
def Survives {ρ : Type} [Record ρ] (record : ρ) : Prop := Folder.readBack record = some record

/-- The kinds of records that are kept in files, with what their free-form values have to be. -/
inductive Filed : (ρ : Type) → [Record ρ] → (ρ → Prop) → Prop where
  | source : Filed Source fun _ => True
  | server : Filed Server fun _ => True
  | organization : Filed Organization fun _ => True
  | configTemplate : Filed ConfigTemplate fun _ => True
  | dashboard : Filed Dashboard fun dashboard =>
      (∀ cell ∈ dashboard.cells, Json.Plain 125 cell)
        ∧ ∀ template ∈ dashboard.templates, Json.Plain 125 template
  | layout : Filed Layout fun layout => ∀ cell ∈ layout.cells, Json.Plain 125 cell
  | protoboard : Filed Protoboard fun protoboard => Json.Plain 126 protoboard.data

section Filed

variable {ρ : Type} [Record ρ] {plain : ρ → Prop}

/-- What is kept in files is stored as its page. -/
theorem Filed.stored (h : Filed ρ plain) : Stored ρ plain := by
  cases h with
  | source => exact .source
  | server => exact .server
  | organization => exact .organization
  | configTemplate => exact .configTemplate
  | dashboard => exact .dashboard
  | layout => exact .layout
  | protoboard => exact .protoboard

/-- A record survives if its page is read as the record and its id is not empty. -/
theorem survives_of_page {record : ρ} (hpage : Record.ofText (Record.page record) = .ok record)
    (hid : Record.id record ≠ "") : Survives record := by
  unfold Survives
  rw [Folder.readBack_eq, hpage]
  exact if_neg hid

/-- **A plain record survives in its file.** -/
theorem Filed.survives (h : Filed ρ plain) {record : ρ} (hplain : plain record)
    (hid : Record.id record ≠ "") : Survives record :=
  survives_of_page (h.stored.returns hplain).page hid

end Filed

/-! ## Ids -/

section Ids

variable {ρ : Type} [Record ρ] {plain : ρ → Prop} {record found : ρ}

theorem eq_of_readBack (hpage : Record.ofText (Record.page record) = .ok record)
    (hback : Folder.readBack record = some found) : found = record :=
  Except.ok.inj ((ofText_of_readBack hback).symm.trans hpage)

/-- The id is the first text of a page. -/
theorem id_of_page {kind : String} {slots : List Format.Slot} {ofSlots : Json → ρ}
    {members : List (String × Json)} {slot : Format.Slot}
    (hformat : Record.format = (Format.record kind slots).map ofSlots)
    (hmembers : Record.toJson record = .obj members)
    (hdeclared : ∀ member ∈ members, Format.Declared slots member) (hslot : slots[0]? = some slot)
    (hid : (slot.name, .str (Record.id record)) ∈ members)
    (hidOf : ∀ value, Record.id (ofSlots value) = (value.item 0).asText)
    (hback : Folder.readBack record = some found) : Record.id found = Record.id record := by
  have hread := ofText_of_readBack hback
  unfold Record.ofText Record.page at hread
  rw [hformat, hmembers] at hread
  obtain ⟨value, hvalue, rfl⟩ := readAll_map hread
  rw [hidOf]
  exact Format.text_of_page hdeclared hvalue hslot hid

/-- The part about a protoboard is texts but for the measurements, which are a list of them. -/
theorem declared_about (about : Protoboard.About) :
    Format.Declared Protoboard.slots ("meta", about.toJson) := by
  have hmeasurements : Format.Declared Protoboard.aboutSlots
      ("measurements", .arr (about.measurements.map Json.str)) := by
    refine ⟨_, rfl, Format.Slot.reads_list rfl fun value hvalue depth indent => ?_⟩
    obtain ⟨measurement, -, rfl⟩ := List.mem_map.1 hvalue
    exact (Format.readsAs_text depth measurement .indented Json.indented_airy indent).spans trivial
  refine ⟨_, rfl, Format.Slot.reads_record rfl ?_⟩
  simp only [List.forall_mem_cons]
  exact ⟨.text rfl rfl, .text rfl rfl, .text rfl rfl, hmeasurements, .text rfl rfl, .text rfl rfl,
    .text rfl rfl, .text rfl rfl, nofun⟩

/-- **A page that can be read is read under the id of its record**, whatever becomes of its
free-form values. -/
theorem Stored.id_of_readBack (h : Stored ρ plain) (hback : Folder.readBack record = some found) :
    Record.id found = Record.id record := by
  have hsame (hplain : plain record) : Record.id found = Record.id record :=
    congrArg Record.id (eq_of_readBack (h.returns hplain).page hback)
  -- kinds without free-form values are plain whatever they hold; of the other three the id is read
  -- off the page
  cases h with
  | dashboard => exact (legible_dashboard record found hback).1
  | layout =>
    refine id_of_page rfl rfl ?_ rfl List.mem_cons_self (fun _ => rfl) hback
    simp only [List.forall_mem_cons]
    exact ⟨.text rfl rfl, .text rfl rfl, .text rfl rfl, .flag rfl rfl, .list rfl rfl, nofun⟩
  | protoboard =>
    refine id_of_page rfl rfl ?_ rfl List.mem_cons_self (fun _ => rfl) hback
    simp only [List.forall_mem_cons]
    exact ⟨.text rfl rfl, declared_about record.about,
      ⟨_, rfl, Format.Slot.reads_any rfl record.data⟩, nofun⟩
  | source => exact hsame trivial
  | server => exact hsame trivial
  | user => exact hsame trivial
  | organization => exact hsame trivial
  | config => exact hsame trivial
  | mapping => exact hsame trivial
  | configTemplate => exact hsame trivial

end Ids

end TenantConsole
