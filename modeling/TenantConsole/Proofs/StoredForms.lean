import TenantConsole.Proofs.RecordValues
import TenantConsole.Record.Config
import TenantConsole.Record.ConfigTemplate
import TenantConsole.Record.Dashboard
import TenantConsole.Record.Layout
import TenantConsole.Record.Mapping
import TenantConsole.Record.Organization
import TenantConsole.Record.Protoboard
import TenantConsole.Record.Server
import TenantConsole.Record.User

/-!
# Records and their stored forms

A record is stored as a text without blanks, as the page that a file holds, or as a JSON value.
Whatever its texts, flags and names are, each of these forms is decoded to the record (`DecodesTo`).
What has to be said concerns free-form values only: they are plain, and they stand inside the
record, some of them in a list, so that they nest less deep than the reader follows by one or two.

* **`Stored.returns`** says so for all ten kinds of records (`Stored`).
* **`Stored.plain_of_ofJson`**: a record that is decoded from a plain value is plain. What it does
  not take from the value are defaults, and these are plain.
* **`stored_forms_return`** puts both together: a decoded record has a normal form, which decodes to
  the record and is written again as it was.
-/

namespace TenantConsole

open Format Json

/-! ## Forms -/

section Forms

variable {ρ : Type} [Record ρ] {record back : ρ}

/-- Each form of a record is decoded to this one. -/
structure DecodesTo (record back : ρ) : Prop where
  compact : Record.ofText (Record.toJson record).compact = .ok back
  page : Record.ofText (Record.page record) = .ok back
  value : Record.format.ofJson (Record.toJson record).sorted = .ok back

/-- Each form of the record, decoded and encoded again, is what it was. -/
structure Normal (record : ρ) : Prop where
  compact : (Record.ofText (Record.toJson record).compact).map
    (fun read : ρ => (Record.toJson read).compact) = .ok (Record.toJson record).compact
  page : (Record.ofText (Record.page record)).map (fun read : ρ => Record.page read)
    = .ok (Record.page record)
  value : (Record.format.ofJson (Record.toJson record).sorted).map
    (fun read : ρ => (Record.toJson read).sorted) = .ok (Record.toJson record).sorted

/-- A record that each form gives back is written again as it was. -/
theorem DecodesTo.normal (h : DecodesTo record record) : Normal record where
  compact := by rw [h.compact]; rfl
  page := by rw [h.page]; rfl
  value := by rw [h.value]; rfl

variable {kind : String} {slots : List Slot} {ofSlots : Json → ρ}
  {members found : List (String × Json)}

/-- A record is decoded to what is put together from its members. -/
theorem decodesTo_of_given (values : List Json)
    (hformat : Record.format = (Format.record kind slots).map ofSlots)
    (hmembers : Record.toJson record = .obj members)
    (hgiven : List.Forall₂ (Given slots 126) members found) (hnames : (members.map Prod.fst).Nodup)
    (hfill : fill found slots = .ok values) (hslots : ofSlots (.arr values) = back) :
    DecodesTo record back := by
  have hgives : (Format.record kind slots).Gives depthLimit (Record.toJson record)
      (.arr values) := by
    rw [hmembers]
    exact gives_record hgiven hnames hfill
  -- both texts are written from the one value, and a layout only adds blanks
  have htext {style : Style} (hstyle : style.Airy) {text : String}
      (hbytes : bytesOf text = written style 0 (Record.toJson record)) :
      Record.ofText text = .ok back := by
    unfold Record.ofText readAll
    rw [hformat, hbytes, finish_map, finish_written hgives.reads hstyle]
    exact congrArg Except.ok hslots
  refine ⟨htext compact_airy (bytesOf_compact _), htext indented_airy (bytesOf_indented _), ?_⟩
  rw [hformat]
  show ((Format.record kind slots).ofJson _).map ofSlots = _
  rw [hgives.decodes]
  exact congrArg Except.ok hslots

/-- A record whose members are all kept as they are decodes to what its slots make of them. -/
theorem decodesTo_of_kept (values : List Json)
    (hformat : Record.format = (Format.record kind slots).map ofSlots)
    (hmembers : Record.toJson record = .obj members)
    (hkept : ∀ member ∈ members, Given slots 126 member member)
    (hnames : (members.map Prod.fst).Nodup) (hfill : fill members slots = .ok values)
    (hslots : ofSlots (.arr values) = back) : DecodesTo record back :=
  decodesTo_of_given values hformat hmembers (List.forall₂_same.2 hkept) hnames hfill hslots

end Forms

/-- The password is written where there is one. -/
theorem kept_password {slots : List Slot} {depth : Nat}
    (hslot : findSlot? slots "password" = some (.optionalText "password")) (password : String) :
    ∀ member ∈ passwordMember password, Given slots depth member member := by
  unfold passwordMember
  split
  · nofun
  · exact List.forall_mem_singleton.2 (.text hslot rfl)

/-! ## Names of roles -/

theorem RoleName.text_mem (name : RoleName) : name.text ∈ RoleName.all.map RoleName.text := by
  cases name <;> decide

/-- The name of a role stands for the role. -/
theorem RoleName.ofText_text (name : RoleName) : RoleName.ofText name.text = name := by
  unfold RoleName.ofText
  rw [RoleName.ofText?_text]
  rfl

/-! ## The kinds -/

/-- A source has nothing but texts and flags. -/
theorem returns_source (source : Source) : DecodesTo source source := by
  refine decodesTo_of_kept [.str source.id, .str source.name, .str source.kind,
    .str source.username, .str source.password, .str source.url, .bool source.insecureSkipVerify,
    .bool source.isDefault, .str source.telegraf, .str source.organization] rfl rfl ?_ ?_ ?_ rfl
  · simp only [List.forall_mem_append, List.forall_mem_cons]
    exact ⟨⟨⟨.text rfl rfl, .text rfl rfl, .text rfl rfl, .text rfl rfl, nofun⟩,
      kept_password rfl source.password⟩,
      .text rfl rfl, .flag rfl rfl, .flag rfl rfl, .text rfl rfl, .text rfl rfl, nofun⟩
  · unfold passwordMember
    split
    · show ["id", "name", "type", "username", "url", "insecure_skip_verify", "default", "telegraf",
        "organization"].Nodup
      decide
    · show ["id", "name", "type", "username", "password", "url", "insecure_skip_verify", "default",
        "telegraf", "organization"].Nodup
      decide
  · unfold passwordMember
    split
    · -- without a password its slot is empty, and so is the password
      rename_i hpassword
      rw [hpassword]
      rfl
    · rfl

/-- A server has nothing but texts and flags, and leaves out an empty password. -/
theorem returns_server (server : Server) : DecodesTo server server := by
  refine decodesTo_of_kept [.str server.id, .str server.sourceId, .str server.name,
    .str server.username, .str server.password, .str server.url, .bool server.insecureSkipVerify,
    .bool server.active, .str server.organization] rfl rfl ?_ ?_ ?_ rfl
  · simp only [List.forall_mem_append, List.forall_mem_cons]
    exact ⟨⟨⟨.text rfl rfl, .text rfl rfl, .text rfl rfl, .text rfl rfl, nofun⟩,
      kept_password rfl server.password⟩,
      .text rfl rfl, .flag rfl rfl, .flag rfl rfl, .text rfl rfl, nofun⟩
  · unfold passwordMember
    split
    · show ["id", "source_id", "name", "username", "url", "insecure_skip_verify", "active",
        "organization"].Nodup
      decide
    · show ["id", "source_id", "name", "username", "password", "url", "insecure_skip_verify",
        "active", "organization"].Nodup
      decide
  · unfold passwordMember
    split
    · rename_i hpassword
      rw [hpassword]
      rfl
    · rfl

theorem gives_role (depth : Nat) (role : Role) : Role.slotsFormat.Gives (depth + 1) role.toJson
    (.arr [.str role.organization, .str role.name.text]) := by
  refine gives_record (List.forall₂_same.2 ?_) ?_ rfl
  · simp only [List.forall_mem_cons]
    exact ⟨.text rfl rfl, ⟨rfl, _, rfl, gives_oneOf depth role.name.text_mem⟩, nofun⟩
  · show ["organization", "name"].Nodup
    decide

/-- A user has a list of roles, each read as a record and made into a role again. -/
theorem returns_user (user : User) : DecodesTo user user := by
  have hroles : (user.roles.map fun role : Role => Json.arr [.str role.organization,
      .str role.name.text]).map Role.ofSlots = user.roles := by
    have hrole (role : Role) : Role.ofSlots (.arr [.str role.organization, .str role.name.text])
        = role := by
      show Role.mk role.organization (RoleName.ofText role.name.text) = role
      rw [role.name.ofText_text]
    rw [List.map_map]
    exact (List.map_congr_left fun role _ => hrole role).trans (List.map_id _)
  -- the members in the order in which they are written, and what is found of each
  have hgiven : List.Forall₂ (Given User.slots 126) user.members
      [("id", .str user.id), ("name", .str user.name), ("provider", .str user.provider),
        ("scheme", .str user.scheme), ("super_admin", .bool user.superAdmin),
        ("roles", .arr (user.roles.map fun role => .arr [.str role.organization,
          .str role.name.text]))] :=
    .cons (.text rfl rfl) <| .cons (.text rfl rfl) <| .cons (.text rfl rfl) <|
      .cons (.text rfl rfl) <| .cons (.flag rfl rfl) <|
      .cons ⟨rfl, _, rfl, gives_list fun role _ => gives_role 124 role⟩ .nil
  refine decodesTo_of_given _ rfl rfl hgiven ?_ rfl ?_
  · show ["id", "name", "provider", "scheme", "super_admin", "roles"].Nodup
    decide
  · show ({ user with roles := (user.roles.map fun role : Role =>
      Json.arr [.str role.organization, .str role.name.text]).map Role.ofSlots } : User) = user
    rw [hroles]

theorem returns_organization (organization : Organization) :
    DecodesTo organization organization := by
  refine decodesTo_of_kept [.str organization.id, .str organization.name,
    .str organization.defaultRole.text] rfl rfl ?_ ?_ rfl ?_
  · simp only [List.forall_mem_cons]
    exact ⟨.text rfl rfl, .text rfl rfl,
      ⟨rfl, _, rfl, gives_oneOf 126 organization.defaultRole.text_mem⟩, nofun⟩
  · show ["id", "name", "default_role"].Nodup
    decide
  · show ({ organization with
      defaultRole := RoleName.ofText organization.defaultRole.text } : Organization) = organization
    rw [organization.defaultRole.ofText_text]

theorem returns_config (config : Config) : DecodesTo config config := by
  have hauth : (Format.record "AuthConfig" Config.authSlots).Gives 126
      (.obj [("super_admin_new_users", .bool config.superAdminNewUsers)])
      (.arr [.bool config.superAdminNewUsers]) :=
    gives_record (.cons (.flag rfl rfl) .nil) (List.pairwise_singleton _ _) rfl
  have hgiven : List.Forall₂ (Given Config.slots 126)
      [("auth", .obj [("super_admin_new_users", .bool config.superAdminNewUsers)])]
      [("auth", .arr [.bool config.superAdminNewUsers])] := .cons ⟨rfl, _, rfl, hauth⟩ .nil
  exact decodesTo_of_given _ rfl rfl hgiven (List.pairwise_singleton _ _) rfl rfl

theorem returns_mapping (mapping : Mapping) : DecodesTo mapping mapping := by
  refine decodesTo_of_kept [.str mapping.id, .str mapping.organization, .str mapping.provider,
    .str mapping.scheme, .str mapping.providerOrganization] rfl rfl ?_ ?_ rfl rfl
  · simp only [List.forall_mem_cons]
    exact ⟨.text rfl rfl, .text rfl rfl, .text rfl rfl, .text rfl rfl, .text rfl rfl, nofun⟩
  · show ["id", "organization", "provider", "scheme", "provider_organization"].Nodup
    decide

theorem returns_configTemplate (template : ConfigTemplate) : DecodesTo template template := by
  refine decodesTo_of_kept [.str template.id, .str template.name, .str template.description,
    .str template.template] rfl rfl ?_ ?_ rfl rfl
  · simp only [List.forall_mem_cons]
    exact ⟨.text rfl rfl, .text rfl rfl, .text rfl rfl, .text rfl rfl, nofun⟩
  · show ["id", "name", "description", "template"].Nodup
    decide

/-- Its cells and templates stand in lists, two levels below the top. -/
theorem returns_dashboard {dashboard : Dashboard}
    (hcells : ∀ cell ∈ dashboard.cells, Plain 125 cell)
    (htemplates : ∀ template ∈ dashboard.templates, Plain 125 template) :
    DecodesTo dashboard dashboard := by
  refine decodesTo_of_kept [.str dashboard.id, .str dashboard.name, .arr dashboard.cells,
    .arr dashboard.templates, .str dashboard.organization] rfl rfl ?_ ?_ rfl rfl
  · simp only [List.forall_mem_cons]
    exact ⟨.text rfl rfl, .text rfl rfl, .list rfl rfl hcells, .list rfl rfl htemplates,
      .text rfl rfl, nofun⟩
  · show ["id", "name", "cells", "templates", "organization"].Nodup
    decide

theorem returns_layout {layout : Layout} (hcells : ∀ cell ∈ layout.cells, Plain 125 cell) :
    DecodesTo layout layout := by
  refine decodesTo_of_kept [.str layout.id, .str layout.application, .str layout.measurement,
    .bool layout.autoflow, .arr layout.cells] rfl rfl ?_ ?_ rfl rfl
  · simp only [List.forall_mem_cons]
    exact ⟨.text rfl rfl, .text rfl rfl, .text rfl rfl, .flag rfl rfl, .list rfl rfl hcells, nofun⟩
  · show ["id", "app", "measurement", "autoflow", "cells"].Nodup
    decide

/-- What a protoboard says about itself, as the record within the record. -/
theorem gives_about (about : Protoboard.About) :
    (Format.record "ProtoboardMeta" Protoboard.aboutSlots).Gives 126 about.toJson
      (.arr [.str about.name, .str about.version, .str about.dashboardVersion,
        .arr (about.measurements.map Json.str), .str about.description, .str about.author,
        .str about.license, .str about.url]) := by
  refine gives_record (List.forall₂_same.2 ?_) ?_ rfl
  · simp only [List.forall_mem_cons]
    exact ⟨.text rfl rfl, .text rfl rfl, .text rfl rfl,
      ⟨rfl, _, rfl, gives_list fun measurement _ => gives_text 124 measurement⟩,
      .text rfl rfl, .text rfl rfl, .text rfl rfl, .text rfl rfl, nofun⟩
  · show ["name", "version", "dashboard_version", "measurements", "description", "author",
      "license", "url"].Nodup
    decide

/-- The data of a protoboard stands one level below the top, and beside it a record with a list of
texts. -/
theorem returns_protoboard {protoboard : Protoboard} (hdata : Plain 126 protoboard.data) :
    DecodesTo protoboard protoboard := by
  have hmeasurements : (protoboard.about.measurements.map Json.str).map Json.asText
      = protoboard.about.measurements := by
    rw [List.map_map]
    exact List.map_id _
  have hgiven : List.Forall₂ (Given Protoboard.slots 126)
      [("id", .str protoboard.id), ("meta", protoboard.about.toJson), ("data", protoboard.data)]
      [("id", .str protoboard.id),
        ("meta", .arr [.str protoboard.about.name, .str protoboard.about.version,
          .str protoboard.about.dashboardVersion,
          .arr (protoboard.about.measurements.map Json.str), .str protoboard.about.description,
          .str protoboard.about.author, .str protoboard.about.license, .str protoboard.about.url]),
        ("data", protoboard.data)] :=
    .cons (.text rfl rfl) <| .cons ⟨rfl, _, rfl, gives_about protoboard.about⟩ <|
      .cons ⟨rfl, _, rfl, gives_any hdata⟩ .nil
  refine decodesTo_of_given _ rfl rfl hgiven ?_ rfl ?_
  · show ["id", "meta", "data"].Nodup
    decide
  · show ({ protoboard with about := { protoboard.about with
      measurements := (protoboard.about.measurements.map Json.str).map Json.asText } } : Protoboard)
        = protoboard
    rw [hmeasurements]

/-- The kinds of records, with what their free-form values have to be. -/
inductive Stored : (ρ : Type) → [Record ρ] → (ρ → Prop) → Prop where
  | source : Stored Source fun _ => True
  | server : Stored Server fun _ => True
  | user : Stored User fun _ => True
  | dashboard : Stored Dashboard fun dashboard =>
      (∀ cell ∈ dashboard.cells, Plain 125 cell)
        ∧ ∀ template ∈ dashboard.templates, Plain 125 template
  | organization : Stored Organization fun _ => True
  | config : Stored Config fun _ => True
  | mapping : Stored Mapping fun _ => True
  | layout : Stored Layout fun layout => ∀ cell ∈ layout.cells, Plain 125 cell
  | protoboard : Stored Protoboard fun protoboard => Plain 126 protoboard.data
  | configTemplate : Stored ConfigTemplate fun _ => True

section Stored

variable {ρ : Type} [Record ρ] {plain : ρ → Prop} {record : ρ} {value : Json}

/-- **Each form of a plain record gives it back.** -/
theorem Stored.returns (h : Stored ρ plain) (hplain : plain record) : DecodesTo record record := by
  cases h with
  | source => exact returns_source record
  | server => exact returns_server record
  | user => exact returns_user record
  | dashboard => exact returns_dashboard hplain.1 hplain.2
  | organization => exact returns_organization record
  | config => exact returns_config record
  | mapping => exact returns_mapping record
  | layout => exact returns_layout hplain
  | protoboard => exact returns_protoboard hplain
  | configTemplate => exact returns_configTemplate record

/-! ## Decoded records -/

/-- A slot for any value holds a part of the value, if it is not left to its default. -/
theorem plain_of_made {slot : Slot} {depth : Nat} {found : Json}
    (hformat : slot.format = Format.any) (habsence : slot.absence = .default .null)
    (h : slot.Made depth found) : Plain depth found := by
  obtain hdefault | ⟨part, hpart, hread⟩ := h
  · rw [habsence] at hdefault
    obtain rfl : Json.null = found := Option.some.inj hdefault
    exact .null
  · rw [hformat] at hread
    obtain rfl : part = found := Except.ok.inj ((unembed_of_plain hpart).symm.trans hread)
    exact hpart

/-- The items of a list of any values are parts of the value. -/
theorem plain_items_of_made {name : String} {depth : Nat} {found : Json}
    (h : (Slot.optionalList name .any).Made (depth + 1) found) :
    ∀ item ∈ found.asItems, Plain depth item := by
  obtain hdefault | ⟨part, hpart, hread⟩ := h
  · obtain rfl : Json.arr [] = found := Option.some.inj hdefault
    nofun
  · -- only a list is decoded as one
    cases hpart with
    | null => cases hread
    | bool => cases hread
    | int => cases hread
    | str => cases hread
    | obj => cases hread
    | @arr _ items hitems =>
      have hsame : items.mapM unembed = .ok (items.map id) :=
        mapM_eq_ok fun item hitem => unembed_of_plain (hitems item hitem)
      obtain ⟨read, hitemsread, rfl⟩ := map_eq_ok.1 hread
      obtain rfl : items.map id = read := Except.ok.inj (hsame.symm.trans hitemsread)
      rw [List.map_id]
      exact hitems

/-- **What is decoded from a plain value is a plain record.** -/
theorem Stored.plain_of_ofJson (h : Stored ρ plain) (hvalue : Plain depthLimit value)
    (hread : Record.format.ofJson value = .ok record) : plain record := by
  cases h with
  -- of the kinds with free-form values, each such slot has been made of a part of the value
  | dashboard =>
    obtain ⟨found, hfound, rfl⟩ := map_eq_ok.1 hread
    have hcells : (Slot.optionalList "cells" .any).Made 126 (found.item 2) :=
      slot_of_ofJson hvalue hfound rfl rfl
    have htemplates : (Slot.optionalList "templates" .any).Made 126 (found.item 3) :=
      slot_of_ofJson hvalue hfound rfl rfl
    exact ⟨plain_items_of_made hcells, plain_items_of_made htemplates⟩
  | layout =>
    obtain ⟨found, hfound, rfl⟩ := map_eq_ok.1 hread
    have hcells : (Slot.optionalList "cells" .any).Made 126 (found.item 4) :=
      slot_of_ofJson hvalue hfound rfl rfl
    exact plain_items_of_made hcells
  | protoboard =>
    obtain ⟨found, hfound, rfl⟩ := map_eq_ok.1 hread
    have hdata : (⟨"data", .any, .default .null⟩ : Slot).Made 126 (found.item 2) :=
      slot_of_ofJson hvalue hfound rfl rfl
    exact plain_of_made rfl rfl hdata
  | source => trivial
  | server => trivial
  | user => trivial
  | organization => trivial
  | config => trivial
  | mapping => trivial
  | configTemplate => trivial

/-- **Stored forms give records back.** Each form of a plain record is decoded to the record, and
what is decoded from a plain value is a plain record. So there is one normal form for each layout:
decoded and encoded again, it is what it was. -/
theorem stored_forms_return (h : Stored ρ plain) :
    (∀ record : ρ, plain record → DecodesTo record record ∧ Normal record)
      ∧ ∀ (value : Json) (record : ρ), Record.format.ofJson value = .ok record →
        Plain depthLimit value ∨ plain record →
        plain record ∧ DecodesTo record record ∧ Normal record := by
  have hreturns (record : ρ) (hplain : plain record) :
      DecodesTo record record ∧ Normal record :=
    ⟨h.returns hplain, (h.returns hplain).normal⟩
  refine ⟨hreturns, fun value record hread hvalue => ?_⟩
  -- the record is plain by itself, or because of the value that it is decoded from
  have hplain : plain record := hvalue.elim (fun hvalue => h.plain_of_ofJson hvalue hread) id
  exact ⟨hplain, hreturns record hplain⟩

end Stored

/-- A dashboard with few members: the others are left to their defaults and written from then on. -/
theorem sparse_dashboard_returns :
    let found : Dashboard := { name := "n", cells := [.obj [("x", .int 1)], .null] }
    DecodesTo found found ∧ Normal found := by
  intro found
  have hcell : Plain 125 (.obj [("x", .int 1)]) := by
    refine .obj (List.pairwise_singleton _ _) ?_ ?_
    · rintro _ ⟨⟩
      decide
    · exact List.forall_mem_singleton.2 (.int ⟨by decide, by decide⟩)
  have hcells : Plain 126 (.arr [.obj [("x", .int 1)], .null]) := by
    refine .arr ?_
    simp only [List.forall_mem_cons]
    exact ⟨hcell, .null, nofun⟩
  have hplain : Plain depthLimit (.obj [("cells", .arr [.obj [("x", .int 1)], .null]),
      ("name", .str "n")]) := by
    refine .obj (by decide) ?_ ?_
    · rintro _ ⟨⟩
      decide
    · simp only [List.forall_mem_cons]
      exact ⟨hcells, .str "n", nofun⟩
  exact ((stored_forms_return .dashboard).2 _ found rfl (.inl hplain)).2

/-! ## Embedded texts -/

/-- **An embedded text does not survive.** A cell that is one is replaced by the value that its text
spells. -/
theorem embedded_cells_replaced {dashboard : Dashboard} {values : List Json}
    (hvalues : ∀ value ∈ values, Plain depthLimit value)
    (hcells : dashboard.cells = values.map embed)
    (htemplates : ∀ template ∈ dashboard.templates, Plain 125 template) :
    DecodesTo dashboard { dashboard with cells := values } := by
  have hlist : (Format.any.list).Gives 126 (.arr (values.map embed)) (.arr (values.map id)) :=
    gives_list fun value hvalue => gives_embed (hvalues value hvalue)
  rw [List.map_id, ← hcells] at hlist
  -- the cells are read as the values that they spell, all else as it is
  have hgiven : List.Forall₂ (Given Dashboard.slots 126)
      [("id", .str dashboard.id), ("name", .str dashboard.name), ("cells", .arr dashboard.cells),
        ("templates", .arr dashboard.templates), ("organization", .str dashboard.organization)]
      [("id", .str dashboard.id), ("name", .str dashboard.name), ("cells", .arr values),
        ("templates", .arr dashboard.templates), ("organization", .str dashboard.organization)] :=
    .cons (.text rfl rfl) <| .cons (.text rfl rfl) <| .cons ⟨rfl, _, rfl, hlist⟩ <|
      .cons (.list rfl rfl htemplates) <| .cons (.text rfl rfl) .nil
  refine decodesTo_of_given _ rfl rfl hgiven ?_ rfl rfl
  show ["id", "name", "cells", "templates", "organization"].Nodup
  decide

/-- A cell without floats, two levels deep, that no form of its dashboard gives back. -/
theorem embedded_number_replaced :
    let cell : Json := .obj [("$serde_json::private::RawValue", .str "1")]
    let dashboard : Dashboard := { id := "d", name := "n", cells := [cell], organization := "o" }
    DecodesTo dashboard { dashboard with cells := [.int 1] } ∧ ¬ DecodesTo dashboard dashboard := by
  intro cell dashboard
  have hnumber : ∀ value ∈ [Json.int 1], Plain depthLimit value :=
    List.forall_mem_singleton.2 (.int ⟨by decide, by decide⟩)
  have hreplaced : DecodesTo dashboard { dashboard with cells := [.int 1] } :=
    embedded_cells_replaced hnumber rfl nofun
  refine ⟨hreplaced, fun hkept => ?_⟩
  -- decoding has one answer, so the two dashboards would be the same
  have hsame := hreplaced.value.symm.trans hkept.value
  have hcells : [Json.int 1] = [cell] := congrArg Dashboard.cells (Except.ok.inj hsame)
  exact Json.noConfusion (List.cons.inj hcells).1

end TenantConsole
