import Mathlib.Logic.Basic
import TenantConsole.Proofs.Chains
import TenantConsole.Proofs.Listings
import TenantConsole.Proofs.RoleVerdicts

/-!
# Roles by mappings

The mappings are gone through one by one, and an organization that has been granted is not granted
again. `Principal.entitlements` says what comes of it without going through anything: the
organizations of the mappings that apply, as far as they exist, each one once.

* **Groups** are the segments of the text that the issuer reports (`mem_groups_iff`), so a text may
  name them in any order, and repeat them.
* **What has been seen** is left out of the listing to come, and this carries the induction over
  the mappings (`run_granted`).
* **`mapped_by_groups`**: more groups bring more roles, and the same groups bring the same. With the
  issuer given, a mapping applies by the groups alone (`applies_mono`). What is granted besides does
  not take a role away, for the role is that of the organization and not of the mapping
  (`mem_entitlements`).
-/

namespace TenantConsole

open Collection

/-! ## Groups -/

/-- The pieces of a list that is split have no separator in them. -/
theorem not_mem_of_mem_splitOn {α : Type} [BEq α] [LawfulBEq α] {separator : α}
    {text piece : List α} (h : piece ∈ text.splitOn separator) : separator ∉ piece := by
  -- along the text; a separator opens a new piece, anything else goes to the piece at the front
  induction text generalizing piece with
  | nil =>
    rw [List.splitOn_nil, List.mem_singleton] at h
    simp [h]
  | cons first rest ih =>
    rw [List.splitOn_cons_eq_if_modifyHead] at h
    obtain ⟨head, tail, hsplit⟩ := List.exists_cons_of_ne_nil (List.splitOn_ne_nil separator rest)
    rw [hsplit] at h ih
    have hhead : separator ∉ head := ih List.mem_cons_self
    have htail : ∀ piece ∈ tail, separator ∉ piece := fun _ hpiece =>
      ih (List.mem_cons_of_mem head hpiece)
    split at h
    · -- a separator ends an empty piece
      rcases List.mem_cons.1 h with rfl | h
      · exact List.not_mem_nil
      · exact ih h
    · rename_i hother
      rw [List.modifyHead_cons] at h
      rcases List.mem_cons.1 h with rfl | h
      · rw [List.mem_cons, not_or]
        exact ⟨fun hsame => hother (by simp [hsame]), hhead⟩
      · exact htail piece h

/-- A text is cut at its commas into these segments. -/
structure Segments (text : String) (segments : List String) : Prop where
  joined : ",".intercalate segments = text
  plain : ∀ segment ∈ segments, ',' ∉ segment.toList

/-- Every text can be cut. -/
theorem exists_segments (text : String) : ∃ segments, Segments text segments := by
  refine ⟨(text.toList.splitOn ',').map String.ofList, ?_, ?_⟩
  · rw [← String.toList_inj, String.toList_intercalate, List.map_map]
    have hpieces : (text.toList.splitOn ',').map (String.toList ∘ String.ofList)
        = text.toList.splitOn ',' := by simp
    rw [hpieces]
    exact List.intercalate_splitOn ','
  · rw [List.forall_mem_map]
    intro piece hpiece
    rw [String.toList_ofList]
    exact not_mem_of_mem_splitOn hpiece

namespace Principal

variable {principal first second : Principal} {group : String} {segments : List String}

/-- **The groups are the segments** of the text but the empty ones, in their order. -/
theorem groups_eq_filter (h : Segments principal.group segments) :
    principal.groups = segments.filter (· ≠ "") := by
  unfold groups
  cases segments with
  | nil =>
    have htext : principal.group = "" := h.joined.symm
    simp [htext]
  | cons head tail =>
    have hplain : ∀ piece ∈ (head :: tail).map String.toList, ',' ∉ piece :=
      List.forall_mem_map.2 h.plain
    have hsplit : principal.group.toList.splitOn ',' = (head :: tail).map String.toList := by
      rw [← h.joined, String.toList_intercalate]
      exact List.splitOn_intercalate ',' hplain (by simp)
    have hnames : ((fun piece : List Char => decide (piece ≠ [])) ∘ String.toList)
        = fun segment => decide (segment ≠ "") := by
      funext segment
      simp
    rw [hsplit, List.filter_map, List.map_map, hnames]
    simp

/-- A group that the issuer reports: it is a segment of the text, and not an empty one. -/
def Reports (principal : Principal) (group : String) : Prop :=
  group ≠ "" ∧ ∃ segments, Segments principal.group segments ∧ group ∈ segments

/-- The groups of a principal are those that its issuer reports. -/
theorem mem_groups_iff : group ∈ principal.groups ↔ principal.Reports group := by
  constructor
  · intro h
    obtain ⟨segments, hsegments⟩ := exists_segments principal.group
    rw [groups_eq_filter hsegments, List.mem_filter] at h
    exact ⟨by simpa using h.2, segments, hsegments, h.1⟩
  · rintro ⟨hname, segments, hsegments, hmem⟩
    rw [groups_eq_filter hsegments, List.mem_filter]
    exact ⟨hmem, by simpa using hname⟩

theorem inGroup_iff : principal.inGroup group = true ↔ principal.Reports group := by
  rw [inGroup, List.contains_iff_mem, mem_groups_iff]

theorem isSuperAdmin_mono {adminGroup : Option String} (hissuer : first.issuer = second.issuer)
    (hgroups : ∀ group, first.Reports group → second.Reports group)
    (h : first.isSuperAdmin adminGroup = true) : second.isSuperAdmin adminGroup = true := by
  simp only [isSuperAdmin_iff, inGroup_iff] at h ⊢
  obtain ⟨hadmin, group, hgroup, hblank, hreports⟩ := h
  exact ⟨hissuer ▸ hadmin, group, hgroup, hblank, hgroups group hreports⟩

end Principal

namespace Mapping

/-- **A mapping goes by the issuer and the groups.** -/
theorem applies_mono {mapping : Mapping} {first second : Principal}
    (hissuer : first.issuer = second.issuer)
    (hgroups : ∀ group, first.Reports group → second.Reports group)
    (h : mapping.applies first = true) : mapping.applies second = true := by
  simp only [applies, Bool.and_eq_true, Bool.or_eq_true, Principal.inGroup_iff] at h ⊢
  obtain ⟨⟨hprovider, hscheme⟩, hgroup⟩ := h
  exact ⟨⟨hissuer ▸ hprovider, hscheme⟩, hgroup.imp_right (hgroups mapping.providerOrganization)⟩

end Mapping

/-! ## Listings without what has been seen -/

namespace Readings

variable {ρ : Type} [Record ρ]

/-- A record at the front is left out if it has been seen, and has been seen from there on. -/
theorem filter_distinct_cons (seen : List String) (record : ρ) (rest : List ρ) :
    (distinct (record :: rest)).filter (fun other => Record.id other ∉ seen)
      = if Record.id record ∈ seen then
          (distinct rest).filter fun other => Record.id other ∉ seen
        else
          record :: (distinct rest).filter fun other =>
            Record.id other ∉ Record.id record :: seen := by
  rw [distinct]
  split
  · rename_i hseen
    rw [List.filter_cons_of_neg (by simpa using hseen), List.filter_filter]
    refine List.filter_congr fun other _ => ?_
    by_cases hsame : Record.id other = Record.id record
    · simp [hsame, hseen]
    · simp [hsame]
  · rename_i hnew
    rw [List.filter_cons_of_pos (by simpa using hnew), List.filter_filter]
    congr 1
    refine List.filter_congr fun other _ => ?_
    simp [Bool.and_comm]

/-- Where an id stands for one record only, no record is lost. -/
theorem mem_distinct_iff {records : List ρ} (hone : ∀ record ∈ records, ∀ other ∈ records,
      Record.id other = Record.id record → other = record) {record : ρ} :
    record ∈ distinct records ↔ record ∈ records := by
  -- over the records, of which the first one is always kept
  induction records with
  | nil => exact .rfl
  | cons first rest ih =>
    have hrest := ih fun record hrecord other hother =>
      hone record (.tail _ hrecord) other (.tail _ hother)
    rw [distinct, List.mem_cons, List.mem_cons, List.mem_filter, hrest]
    refine or_congr_right' fun hother => and_iff_left_of_imp fun hmem => decide_eq_true ?_
    -- it is hidden only by a namesake, and that would be the record itself
    exact fun hsame => hother (hone first List.mem_cons_self record (.tail _ hmem) hsame)

end Readings

/-! ## Entitlements -/

/-- The role that a newcomer has in an organization. -/
def Organization.startingRole (organization : Organization) : Role :=
  ⟨organization.id, organization.defaultRole⟩

/-- The organizations that the mappings admit a principal to, as far as they are found: each one
once, in the order of the first mappings to them that apply. -/
def Principal.admitted (principal : Principal) (find : String → Option Organization)
    (mappings : List Mapping) : List Organization :=
  Readings.distinct ((mappings.filter (·.applies principal)).filterMap fun mapping =>
    find mapping.organization)

/-- A starting role in each of them. -/
def Principal.entitlements (principal : Principal) (find : String → Option Organization)
    (mappings : List Mapping) : List Role :=
  (principal.admitted find mappings).map Organization.startingRole

section Entitlements

variable {principal first second : Principal} {find : String → Option Organization}
  {mapping : Mapping} {mappings : List Mapping}

/-- A mapping that does not apply, or leads nowhere, admits to nothing. -/
theorem admitted_cons_skip
    (h : mapping.applies principal = true → find mapping.organization = none) :
    principal.admitted find (mapping :: mappings) = principal.admitted find mappings := by
  unfold Principal.admitted
  rw [List.filter_cons]
  split
  · rename_i happlies
    rw [List.filterMap_cons, h happlies]
  · rfl

/-- A mapping that applies admits to its organization, unless that has been seen. -/
theorem admitted_cons_unseen (happlies : mapping.applies principal = true)
    {organization : Organization} (hfound : find mapping.organization = some organization)
    (seen : List String) :
    (principal.admitted find (mapping :: mappings)).filter (fun other => other.id ∉ seen)
      = if organization.id ∈ seen then
          (principal.admitted find mappings).filter fun other => other.id ∉ seen
        else
          organization :: (principal.admitted find mappings).filter fun other =>
            other.id ∉ organization.id :: seen := by
  unfold Principal.admitted
  rw [List.filter_cons, if_pos happlies, List.filterMap_cons, hfound]
  exact Readings.filter_distinct_cons seen organization _

/-- What is found under an id has it. -/
def FindsById (find : String → Option Organization) : Prop :=
  ∀ id organization, find id = some organization → organization.id = id

/-- An organization is admitted to by any mapping that applies and finds it. -/
theorem mem_admitted (hfind : FindsById find) {organization : Organization} :
    organization ∈ principal.admitted find mappings
      ↔ ∃ mapping ∈ mappings, mapping.applies principal = true
        ∧ find mapping.organization = some organization := by
  unfold Principal.admitted
  rw [Readings.mem_distinct_iff]
  · simp only [List.mem_filterMap, List.mem_filter, and_assoc]
  · -- two mappings that find the same id name the same organization
    intro record hrecord other hother hsame
    obtain ⟨_, -, hfound⟩ := List.mem_filterMap.1 hrecord
    obtain ⟨_, -, hfound'⟩ := List.mem_filterMap.1 hother
    rw [← hfind _ _ hfound] at hfound
    rw [← hfind _ _ hfound', show other.id = record.id from hsame, hfound] at hfound'
    exact (Option.some.inj hfound').symm

/-- **A role is granted by any mapping that applies**, to the organization that it names. -/
theorem mem_entitlements (hfind : FindsById find) {role : Role} :
    role ∈ principal.entitlements find mappings
      ↔ ∃ mapping ∈ mappings, mapping.applies principal = true
        ∧ ∃ organization, find mapping.organization = some organization
          ∧ organization.startingRole = role := by
  unfold Principal.entitlements
  simp only [List.mem_map, mem_admitted hfind]
  constructor
  · rintro ⟨organization, ⟨mapping, hmapping, happlies, hfound⟩, hrole⟩
    exact ⟨mapping, hmapping, happlies, organization, hfound, hrole⟩
  · rintro ⟨mapping, hmapping, happlies, organization, hfound, hrole⟩
    exact ⟨organization, ⟨mapping, hmapping, happlies, hfound⟩, hrole⟩

/-- More groups bring more roles. -/
theorem entitlements_mono (hfind : FindsById find) (hissuer : first.issuer = second.issuer)
    (hgroups : ∀ group, first.Reports group → second.Reports group) :
    first.entitlements find mappings ⊆ second.entitlements find mappings := by
  intro role hrole
  obtain ⟨mapping, hmapping, happlies, hfound⟩ := (mem_entitlements hfind).1 hrole
  exact (mem_entitlements hfind).2
    ⟨mapping, hmapping, Mapping.applies_mono hissuer hgroups happlies, hfound⟩

/-- Principals with the same issuer and the same groups are admitted alike. -/
theorem entitlements_congr (hissuer : first.issuer = second.issuer)
    (hgroups : ∀ group, first.Reports group ↔ second.Reports group) :
    first.entitlements find mappings = second.entitlements find mappings := by
  -- the same mappings apply, so the same organizations come in the same order
  have happlies : (fun mapping : Mapping => mapping.applies first)
      = fun mapping => mapping.applies second := by
    funext mapping
    exact Bool.eq_iff_iff.2 ⟨Mapping.applies_mono hissuer fun group => (hgroups group).1,
      Mapping.applies_mono hissuer.symm fun group => (hgroups group).2⟩
  unfold Principal.entitlements Principal.admitted
  rw [happlies]

end Entitlements

/-! ## Going through the mappings -/

/-- The organization that the catalog has under an id. -/
def State.organization? (state : State) (id : String) : Option Organization :=
  ((state.stores.organizations.readings state.world.disk).get id).toOption

theorem State.organization?_eq_some_iff {state : State} {id : String}
    {organization : Organization} : state.organization? id = some organization
      ↔ (state.stores.organizations.readings state.world.disk).get id = .ok organization := by
  unfold State.organization?
  cases (state.stores.organizations.readings state.world.disk).get id <;> simp [Except.toOption]

/-- The catalog finds these organizations, the first one under an id. -/
def State.FindsAmong (state : State) (listing : List Organization) : Prop :=
  ∀ id, (state.stores.organizations.readings state.world.disk).get id
    = Readings.orMissing id (Readings.firstWithId id listing)

section Granted

variable {state : State} {principal : Principal} {rows : List Mapping} {listing : List Organization}

theorem organization?_findsById (h : state.FindsAmong listing) :
    FindsById state.organization? := by
  intro id organization hfound
  unfold State.organization? at hfound
  rw [h, toOption_orMissing] at hfound
  exact (Readings.of_firstWithId hfound).2

theorem run_get?_organization (h : state.FindsAmong listing) (id : String) :
    (organizations.get? .server id).run state = (.ok (state.organization? id), state) := by
  refine run_get?_of_readings ?_
  show (state.stores.organizations.readings state.world.disk).get id = _
  unfold State.organization?
  rw [h, toOption_orMissing]

/-- **What is granted besides** what has been seen is what is left of the entitlements. -/
theorem run_granted (h : state.FindsAmong listing) (seen : List String) :
    (Roles.granted principal seen rows).run state
      = (.ok (((principal.admitted state.organization? rows).filter fun organization =>
          organization.id ∉ seen).map Organization.startingRole), state) := by
  -- mapping by mapping, with the organizations that have been granted so far
  induction rows generalizing seen with
  | nil => rfl
  | cons mapping rest ih =>
    rw [Roles.granted]
    -- a mapping is passed over for three reasons, and only that its organization has been seen is
    -- one that the entitlements do not see
    by_cases happlies : mapping.applies principal = true
    case neg =>
      rw [if_pos (.inr happlies), ih, admitted_cons_skip fun happlies' => absurd happlies' happlies]
    cases hfound : state.organization? mapping.organization with
    | none =>
      rw [admitted_cons_skip fun _ => hfound]
      split
      · exact ih seen
      · rw [Script.run_bind, run_get?_organization h, hfound]
        exact ih seen
    | some organization =>
      have hid : organization.id = mapping.organization := organization?_findsById h _ _ hfound
      rw [admitted_cons_unseen happlies hfound]
      by_cases hseen : organization.id ∈ seen
      · rw [if_pos (.inl (hid ▸ hseen)), if_pos hseen, ih]
      · -- the organization counts as seen for the mappings that are left
        rw [if_neg (not_or.2 ⟨hid ▸ hseen, not_not.2 happlies⟩), if_neg hseen, Script.run_bind,
          run_get?_organization h, hfound]
        show (Roles.granted principal (organization.id :: seen) rest >>= _).run state = _
        rw [Script.run_bind, ih]
        rfl

/-- **The roles of a principal are its entitlements.** -/
theorem run_ofPrincipal (h : state.FindsAmong listing) {table : Table Mapping}
    (hstore : state.stores.mappings = .memory table) :
    (Roles.ofPrincipal principal).run state
      = (.ok (principal.entitlements state.organization? table.rows), state) := by
  have hlisted : (mappings.all .server).run state = (.ok table.rows, state) :=
    run_all_memory rfl hstore
  have hunseen (organizations : List Organization) :
      organizations.filter (fun organization => organization.id ∉ []) = organizations := by
    simp
  unfold Roles.ofPrincipal
  rw [Script.run_bind, hlisted]
  show (Roles.granted principal [] table.rows).run state = _
  rw [run_granted h, hunseen]
  rfl

end Granted

section Groups

variable {state : State} {organizations : Table Organization}

/-- Organizations in memory are found among the rows of their table. -/
theorem findsAmong_memory (hstore : state.stores.organizations = .memory organizations) :
    state.FindsAmong organizations.rows := by
  intro id
  rw [hstore]
  rfl

/-- **Only the groups matter, and more of them bring more.** Of two principals with the same issuer,
where all groups of the first are groups of the second, the second is given every role that the
first is given, and is a super admin by its groups if the first is. Where they have the same groups,
both are given the same roles in the same order. The groups that a text names are those that it has
been joined from. -/
theorem mapped_by_groups {table : Table Mapping} (hmappings : state.stores.mappings = .memory table)
    (horganizations : state.stores.organizations = .memory organizations)
    (adminGroup : Option String) (first second : Principal) (hissuer : first.issuer = second.issuer)
    (hgroups : ∀ group, first.Reports group → second.Reports group) :
    (∃ few many, (Roles.ofPrincipal first).run state = (.ok few, state)
      ∧ (Roles.ofPrincipal second).run state = (.ok many, state)
      ∧ few ⊆ many
      ∧ (first.isSuperAdmin adminGroup = true → second.isSuperAdmin adminGroup = true)
      ∧ ((∀ group, second.Reports group → first.Reports group) →
        few = many ∧ first.isSuperAdmin adminGroup = second.isSuperAdmin adminGroup))
    ∧ ∀ (principal : Principal) (names : List String),
      (∀ name ∈ names, name ≠ "" ∧ ',' ∉ name.toList) →
      principal.group = ",".intercalate names → principal.groups = names := by
  have hfinds := findsAmong_memory horganizations
  refine ⟨⟨_, _, run_ofPrincipal hfinds hmappings, run_ofPrincipal hfinds hmappings,
    entitlements_mono (organization?_findsById hfinds) hissuer hgroups,
    Principal.isSuperAdmin_mono hissuer hgroups, fun hgroups' => ⟨?_, ?_⟩⟩, ?_⟩
  · exact entitlements_congr hissuer fun group => ⟨hgroups group, hgroups' group⟩
  · exact Bool.eq_iff_iff.2 ⟨Principal.isSuperAdmin_mono hissuer hgroups,
      Principal.isSuperAdmin_mono hissuer.symm hgroups'⟩
  · -- the names have no comma in them, so they are the segments that they have been joined from
    intro principal names hnames hjoined
    rw [Principal.groups_eq_filter ⟨hjoined.symm, fun name hname => (hnames name hname).2⟩,
      List.filter_eq_self]
    exact fun name hname => decide_eq_true (hnames name hname).1

end Groups

namespace Office

/-- Engineers are admitted at home. -/
def engineers : Mapping :=
  { id := "m", organization := "o", provider := "*", scheme := "*", providerOrganization := "eng" }

/-- The office with this mapping. -/
def admitting : State :=
  { state [home] with
    stores := { (state [home]).stores with mappings := .memory (.ofList [engineers]) } }

/-- A principal in one group. -/
def engineer : Principal := { subject := "a", issuer := "auth0", group := "eng" }

/-- An engineer that is in another group as well. -/
def operator : Principal := { subject := "b", issuer := "auth0", group := "ops,,eng" }

theorem reports_operator (group : String) (h : engineer.Reports group) :
    operator.Reports group := by
  have hfew : engineer.groups = ["eng"] := by decide +kernel
  have hmany : operator.groups = ["ops", "eng"] := by decide +kernel
  rw [← Principal.mem_groups_iff, hfew, List.mem_singleton] at h
  rw [← Principal.mem_groups_iff, hmany, h]
  decide

end Office

/-- The operator is admitted at home like any engineer. -/
theorem mapped_by_groups_office :
    Office.admitting.stores.mappings = .memory (.ofList [Office.engineers])
      ∧ Office.admitting.stores.organizations = .memory (.ofList [Office.home])
      ∧ Office.engineer.issuer = Office.operator.issuer
      ∧ (∀ group, Office.engineer.Reports group → Office.operator.Reports group)
      ∧ ∃ few many, (Roles.ofPrincipal Office.engineer).run Office.admitting
          = (.ok few, Office.admitting)
        ∧ (Roles.ofPrincipal Office.operator).run Office.admitting = (.ok many, Office.admitting)
        ∧ few = [⟨"o", .viewer⟩] ∧ few ⊆ many := by
  have hgiven : (Roles.ofPrincipal Office.engineer).run Office.admitting
      = (.ok [⟨"o", .viewer⟩], Office.admitting) := rfl
  obtain ⟨⟨few, many, hfew, hmany, hsubset, -⟩, -⟩ :=
    mapped_by_groups (rfl : Office.admitting.stores.mappings = _) rfl (some "ops")
      Office.engineer Office.operator rfl Office.reports_operator
  refine ⟨rfl, rfl, rfl, Office.reports_operator, few, many, hfew, hmany, ?_, hsubset⟩
  cases hfew.symm.trans hgiven
  rfl

end TenantConsole
