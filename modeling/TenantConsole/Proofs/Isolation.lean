import TenantConsole.Proofs.Catalogs
import TenantConsole.Proofs.InMemory
import TenantConsole.Proofs.Pages

/-!
# When organizations do not disturb one another

Sources, servers and dashboards are scoped by owner, but the scopes stand over catalogs in which ids
are shared: of records with one id only the uppermost is read, whoever owns it. A write of one
organization can therefore hide a record of another, by adding one above it, and it can bring one to
light, by taking away what has hidden it. `Write.bystander` names that record, out of what the
catalog holds before the write; `isolated_over` says that the other organization reads the same
before and after exactly if the record is not its own.
-/

namespace TenantConsole

open Readings

/-! ## Bystanders -/

section Bystanders

variable {ρ : Type}

/-- The record that a write hides or brings to light, without being about it: what stands uppermost
under the id of a new record, or next under the id of one that goes away. An updated record stays in
its place, unless the file that holds it cannot be read any more. -/
def Write.bystander [Record ρ] (table : Table ρ) (stacked : List ρ) :
    {α : Type} → Write ρ α → α → Option ρ
  | _, .add _, answer => firstWithId (Record.id answer) stacked
  | _, .update record, _ =>
    if (table.get? (Record.id record)).isSome ∨ (Folder.readBack record).isSome then none
    else (namesakes (Record.id record) stacked)[1]?
  | _, .delete id, _ => (namesakes id stacked)[1]?

variable [Owned ρ] {α : Type} {table : Table ρ} {stacked stacked' old new : List ρ}
  {writer reader : String}

/-- **The other organization reads nothing under the id, before and after, exactly if the bystander
is not its own.** -/
theorem unread_bystander_iff {write : Write ρ α} {value : α}
    (hexchange : Exchange table write value old new)
    (hswaps : Swaps (write.subject value) old new stacked stacked')
    (hold : ∀ record ∈ old, Owned.owner record ≠ reader)
    (hnew : ∀ record ∈ new, Owned.owner record ≠ reader) :
    (Unread reader (write.bystander table stacked value)
        ↔ Unread reader (firstWithId (write.subject value) stacked)
          ∧ Unread reader (firstWithId (write.subject value) stacked'))
      ∧ (Unread reader (firstWithId (write.subject value) stacked)
        ∨ Unread reader (firstWithId (write.subject value) stacked')) := by
  -- what a write exchanges under its id depends on where the record lies, in the table or in a file
  cases hexchange with
  | add world =>
    rw [hswaps.first_after, unread_some]
    have howner := hnew _ List.mem_cons_self
    exact ⟨⟨fun h => ⟨h, howner⟩, And.left⟩, .inr howner⟩
  | @updateRow record _ hheld =>
    rw [hswaps.first_before, hswaps.first_after, unread_some, unread_some]
    have hbystander : (Write.update record).bystander table stacked () = none := if_pos (.inl hheld)
    have howners := And.intro (hold _ List.mem_cons_self) (hnew _ List.mem_cons_self)
    rw [hbystander]
    exact ⟨⟨fun _ => howners, fun _ => unread_none⟩, .inl howners.1⟩
  | @updateFile record _ hfree =>
    rw [hswaps.first_before, unread_some]
    have howner := hold _ List.mem_cons_self
    refine ⟨?_, .inl howner⟩
    cases hback : Folder.readBack record with
    | some found =>
      have hbystander : (Write.update record).bystander table stacked () = none :=
        if_pos (.inr (by rw [hback]; rfl))
      rw [hback] at hswaps hnew
      rw [hswaps.first_after, unread_some, hbystander]
      exact ⟨fun _ => ⟨howner, hnew _ List.mem_cons_self⟩, fun _ => unread_none⟩
    | none =>
      have hbystander : (Write.update record).bystander table stacked ()
          = (namesakes (Record.id record) stacked)[1]? := if_neg (by simp [hfree, hback])
      rw [hback] at hswaps
      rw [hswaps.first_next, hbystander]
      exact ⟨fun h => ⟨howner, h⟩, And.right⟩
  | delete =>
    rw [hswaps.first_before, hswaps.first_next, unread_some]
    have howner := hold _ List.mem_cons_self
    exact ⟨⟨fun h => ⟨howner, h⟩, And.right⟩, .inl howner⟩

end Bystanders

/-! ## Reading under a scope -/

/-- Two ways to read that list and find the same. -/
def Readings.Alike {ρ : Type} (before after : Readings ρ) : Prop :=
  after.all = before.all ∧ ∀ id, after.get id = before.get id

section Reading

variable {ρ : Type} [Owned ρ] {below below' : Readings ρ} {records records' : List ρ}

/-- Under the scope of an owner, listings and look-ups go through its view. -/
theorem viewed_outOf (h : below.OutOf records) (owner : String) :
    (Scoping.viewed (Scoping.ownedView owner) below).all
        = .ok ((distinct records).filterMap (Scoping.ownedView owner))
      ∧ ∀ id, (Scoping.viewed (Scoping.ownedView owner) below).get id
        = orMissing id ((firstWithId id records).bind (Scoping.ownedView owner)) := by
  constructor
  · simp only [Scoping.viewed, h.all]
    rfl
  · -- a look-up below finds the first record or none, and the view hides it or not
    intro id
    simp only [Scoping.viewed, h.get]
    cases firstWithId id records <;> rfl

/-- **Two stores are read alike exactly if the records that they are read out of are.** -/
theorem alike_iff (h : below.OutOf records) (h' : below'.OutOf records') (owner : String) :
    (Scoping.viewed (Scoping.ownedView owner) below).Alike
        (Scoping.viewed (Scoping.ownedView owner) below')
      ↔ (distinct records').filterMap (Scoping.ownedView owner)
          = (distinct records).filterMap (Scoping.ownedView owner)
        ∧ ∀ id, (firstWithId id records').bind (Scoping.ownedView owner)
          = (firstWithId id records).bind (Scoping.ownedView owner) := by
  obtain ⟨hall, hget⟩ := viewed_outOf h owner
  obtain ⟨hall', hget'⟩ := viewed_outOf h' owner
  constructor
  · rintro ⟨hlisted, hfound⟩
    refine ⟨?_, fun id => ?_⟩
    · rw [hall, hall'] at hlisted
      exact Except.ok.inj hlisted
    · have hid := congrArg Except.toOption (hfound id)
      rwa [hget, hget', toOption_orMissing, toOption_orMissing] at hid
  · rintro ⟨hlisted, hfound⟩
    refine ⟨by rw [hall, hall', hlisted], fun id => ?_⟩
    rw [hget, hget', hfound]

end Reading

/-! ## Isolation -/

/-- A caller other than the console that acts in an organization. -/
structure Context.ActsIn (context : Context) (organization : String) : Prop where
  session : context.isServerCall = false
  acting : context.organization = some organization

section Owned

variable {ρ α : Type} [Owned ρ] {context writer reader : Context} {a b : String}

/-- Who acts in an organization reaches the records that it owns. -/
theorem Context.ActsIn.access (h : context.ActsIn a) :
    (Access.ofOwned context : Access ρ) = .within (.owned a) := by
  unfold Access.ofOwned Context.scope
  simp only [h.session, h.acting, Bool.false_eq_true, if_false, reduceCtorEq, false_and]

/-- The records that an admitted write exchanges belong to the organization. -/
theorem owners_of_exchange (hlegible : Legible ρ) {table : Table ρ}
    {stacked stacked' old new : List ρ} {below : Readings ρ} (hbelow : below.OutOf stacked)
    {write : Write ρ α} {value : α}
    (hadmitted : write.Admitted a below)
    (hexchange : Exchange table (write.stamped a) value old new)
    (hswaps : Swaps ((write.stamped a).subject value) old new stacked stacked') :
    (∀ record ∈ old, Owned.owner record = a) ∧ ∀ record ∈ new, Owned.owner record = a := by
  -- what the organization reads under the id is what stands uppermost, and that is what goes away
  have hold {id : String} {record : ρ}
      (hread : ∃ found, below.get id = .ok found ∧ Owned.owner found = a)
      (hfirst : firstWithId id stacked = some record) : Owned.owner record = a := by
    obtain ⟨found, hfound, howner⟩ := hread
    rw [hbelow.get, hfirst] at hfound
    cases hfound
    exact howner
  -- a new record is stamped, and what it takes the place of has been read by the organization
  cases write with
  | add record =>
    cases hexchange with
    | add world =>
      refine ⟨nofun, fun other hother => ?_⟩
      rw [List.mem_singleton.1 hother, owner_named, Owned.owner_withOwner]
  | update record =>
    have hid := Owned.id_withOwner a record
    cases hexchange with
    | updateRow hheld =>
      refine ⟨fun other hother => ?_, fun other hother => ?_⟩
      · rw [List.mem_singleton.1 hother]
        exact hold hadmitted (hid ▸ hswaps.first_before)
      · rw [List.mem_singleton.1 hother, Owned.owner_withOwner]
    | updateFile hfree =>
      refine ⟨fun other hother => ?_, fun other hother => ?_⟩
      · rw [List.mem_singleton.1 hother]
        exact hold hadmitted (hid ▸ hswaps.first_before)
      · rw [(hlegible _ other (Option.mem_toList.1 hother)).2, Owned.owner_withOwner]
  | delete id =>
    cases hexchange with
    | delete =>
      refine ⟨fun other hother => ?_, nofun⟩
      rw [List.mem_singleton.1 hother]
      exact hold hadmitted hswaps.first_before

/-- What a caller of an organization reads of a collection of owned records. -/
theorem readings_owned {collection : Collection ρ}
    (haccess : ∀ context, collection.access context = Access.ofOwned context)
    (hreader : reader.ActsIn b) (state : State) :
    collection.readings reader state = Scoping.viewed (Scoping.ownedView b)
      ((collection.store state.stores).readings state.world.disk) := by
  unfold Collection.readings Collection.seen
  rw [haccess, hreader.access]
  rfl

/-- **Isolation over a catalog.** A write is without effect on what another organization reads
exactly if it is refused or its bystander belongs to somebody else. -/
theorem isolated_over (hlegible : Legible ρ) {collection : Collection ρ}
    (hlawful : collection.Lawful)
    (haccess : ∀ context, collection.access context = Access.ofOwned context)
    (state : State) {catalog extension : String} {path : Option String}
    {lists : List (String × List ρ)} {table : Table ρ}
    (hstore : collection.store state.stores = Catalog.overTable catalog path extension lists table)
    (hnames : state.world.disk.NamesOnce) (hwriter : writer.ActsIn a) (hreader : reader.ActsIn b)
    (hab : a ≠ b) (write : Write ρ α) :
    ((collection.write writer write).run state).2.world.disk.NamesOnce
      ∧ ((collection.readings reader state).Alike
          (collection.readings reader ((collection.write writer write).run state).2)
        ↔ ∀ value, ((collection.write writer write).run state).1 = .ok value →
          Unread b ((write.stamped a).bystander table
            ((collection.store state.stores).stacked state.world.disk) value)) := by
  have hwithin := (haccess writer).trans hwriter.access
  have hreadings := readings_owned haccess hreader
  -- the scope refuses the write, or hands it down to the catalog
  rcases write_owned a (collection.store state.stores) write state.world with
    ⟨error, hrefused⟩ | ⟨hadmitted, hdown⟩
  · rw [Collection.run_write_within hwithin hrefused, hlawful.replace_store]
    exact ⟨hnames, ⟨nofun, fun _ => ⟨rfl, fun _ => rfl⟩⟩⟩
  · have hoverall : Catalog.SettlesOver catalog path extension lists table (write.stamped a)
        state.world :=
      Catalog.over_write _ hnames fun _ record found h => (hlegible record found h).1
    obtain ⟨answer, table', world', hwrite, hnames', hsettles⟩ := hoverall
    rw [← hstore] at hwrite
    rw [Collection.run_write_within hwithin (hdown _ _ _ hwrite), hreadings, hreadings]
    refine ⟨hnames', ?_⟩
    simp only [hlawful.store_replace, hstore]
    rcases hsettles with ⟨⟨error, rfl⟩, rfl, hdisk⟩ | ⟨value, old, new, rfl, hexchange, hswaps⟩
    · rw [hdisk]
      exact ⟨nofun, fun _ => ⟨rfl, fun _ => rfl⟩⟩
    · have hout (table : Table ρ) (disk : Disk) :
          ((Catalog.overTable catalog path extension lists table).readings disk).OutOf
            ((Catalog.overTable catalog path extension lists table).stacked disk) :=
        Catalog.over_outOf table disk
      rw [hstore] at hadmitted
      -- what the write is about belongs to the writer, so only a bystander can be the reader's
      obtain ⟨hold, hnew⟩ :=
        owners_of_exchange hlegible (hout table _) hadmitted hexchange hswaps
      have hold' : ∀ record ∈ old, Owned.owner record ≠ b := fun record h => hold record h ▸ hab
      have hnew' : ∀ record ∈ new, Owned.owner record ≠ b := fun record h => hnew record h ▸ hab
      obtain ⟨hbystander, hone⟩ := unread_bystander_iff hexchange hswaps hold' hnew'
      rw [alike_iff (hout table _) (hout table' _), viewed_eq_iff hswaps.apart hone, ← hbystander]
      exact ⟨fun h value' hvalue => Except.ok.inj hvalue ▸ h, fun h => h value rfl⟩

end Owned

/-- The collections of owned records, each with its table in the primary database. -/
inductive Collection.Tenanted : {ρ : Type} → [Owned ρ] → Collection ρ → (PrimaryTables → Table ρ) →
    Prop where
  | sources : Tenanted Collection.sources PrimaryTables.sources
  | servers : Tenanted Collection.servers PrimaryTables.servers
  | dashboards : Tenanted Collection.dashboards PrimaryTables.dashboards

/-- The catalog of sources stands over its table. -/
theorem sourcesOver_eq (path : Option String) (named : List Source) (table : Table Source) :
    Stores.sourcesOver path named (.memory table)
      = Catalog.overTable "sources" path "src" [("flag sources", named)] table := by
  cases path <;> rfl

theorem serversOver_eq (path : Option String) (named : List Server) (table : Table Server) :
    Stores.serversOver path named (.memory table)
      = Catalog.overTable "kapacitors" path "kap" [("flag kapacitors", named)] table := by
  cases path <;> rfl

theorem dashboards_eq (path : Option String) (table : Table Dashboard) :
    (Catalog.dashboards path (.memory table)).store
      = Catalog.overTable "dashboards" path "dashboard" [] table := by
  cases path <;> rfl

theorem organizations_eq (path : Option String) (table : Table Organization) :
    (Catalog.organizations path (.memory table)).store
      = Catalog.overTable "organizations" path "org" [] table := by
  cases path <;> rfl

/-- The organizations are read out of their table and the files below it. -/
theorem organizations_outOf (settings : CatalogSettings) (flagSources : List Source)
    (flagServers : List Server) (tables : PrimaryTables) (disk : Disk) :
    ((Stores.layeredOver settings flagSources flagServers tables.stores).organizations.readings
      disk).OutOf
      ((Stores.layeredOver settings flagSources flagServers tables.stores).organizations.stacked
        disk) := by
  show ((Catalog.organizations _ (.memory tables.organizations)).store.readings disk).OutOf
    ((Catalog.organizations _ (.memory tables.organizations)).store.stacked disk)
  rw [organizations_eq]
  exact Catalog.over_outOf tables.organizations disk

/-- **When organizations do not disturb one another.** In the stores that are put together over
tables, with or without a directory and connections, a write by a caller that acts in one
organization leaves what a caller of another reads of the same collection as it was, exactly if the
write is refused or the record that it hides or brings to light does not belong to the other. The
disk names the entries of a directory once, and keeps to it. -/
theorem isolated_iff {ρ α : Type} [Owned ρ] {collection : Collection ρ}
    {table : PrimaryTables → Table ρ} (hcollection : collection.Tenanted table)
    {settings : CatalogSettings} {tables : PrimaryTables} {stores : Stores}
    (hassembled : Stores.assemble settings tables.stores = .ok stores) {world : World}
    (hnames : world.disk.NamesOnce) {writer reader : Context} {a b : String}
    (hwriter : writer.ActsIn a) (hreader : reader.ActsIn b) (hab : a ≠ b) (write : Write ρ α) :
    ((collection.write writer write).run ⟨stores, world⟩).2.world.disk.NamesOnce
      ∧ ((collection.readings reader ⟨stores, world⟩).Alike
          (collection.readings reader ((collection.write writer write).run ⟨stores, world⟩).2)
        ↔ ∀ value, ((collection.write writer write).run ⟨stores, world⟩).1 = .ok value →
          Unread b ((write.stamped a).bystander (table tables)
            ((collection.store stores).stacked world.disk) value)) := by
  obtain ⟨flagSources, flagServers, rfl, -⟩ := assemble_over hassembled
  let state : State := ⟨.layeredOver settings flagSources flagServers tables.stores, world⟩
  cases hcollection with
  | sources =>
    exact isolated_over legible_source Collection.sources_lawful (fun _ => rfl) state
      (sourcesOver_eq settings.resourcesPath flagSources tables.sources) hnames hwriter hreader hab
      write
  | servers =>
    exact isolated_over legible_server Collection.servers_lawful (fun _ => rfl) state
      (serversOver_eq settings.resourcesPath flagServers tables.servers) hnames hwriter hreader hab
      write
  | dashboards =>
    exact isolated_over legible_dashboard Collection.dashboards_lawful (fun _ => rfl) state
      (dashboards_eq settings.resourcesPath tables.dashboards) hnames hwriter hreader hab write

namespace Neighbours

def world : World := { ids := fun _ => "" }

def caller (organization : String) : Context := { organization }

/-- A source of the first organization, under the id that belongs to a connection. -/
def added : Source := { id := Catalog.flagId, name := "", url := "" }

/-- A source of the second organization. -/
def other : Source := { id := "1", name := "", url := "", organization := "b" }

/-- Tables with the one source of `b`. -/
def tables : PrimaryTables := { sources := Table.empty.insert other }

def connected : CatalogSettings := { influxdb := some { url := "http://[::1]" } }

theorem connected_ok : ∃ url, Catalog.checkedUrl "source" "http://[::1]" = .ok url := by
  have hparsed : (Catalog.checkedUrl "source" "http://[::1]").toOption.isSome = true := by
    decide +kernel
  cases hurl : Catalog.checkedUrl "source" "http://[::1]" with
  | error error => rw [hurl] at hparsed; cases hparsed
  | ok url => exact ⟨url, rfl⟩

end Neighbours

open Neighbours

/-- A source of `a` under an id that is free everywhere disturbs nothing that `b` reads. -/
theorem isolated_iff_neighbours : ∃ stores,
    Stores.assemble {} tables.stores = .ok stores ∧
      (Collection.sources.readings (caller "b") ⟨stores, world⟩).Alike
        (Collection.sources.readings (caller "b")
          ((Collection.sources.write (caller "a") (.add added)).run ⟨stores, world⟩).2) := by
  have hassembled : Stores.assemble {} tables.stores = .ok _ := rfl
  have hnames : world.disk.NamesOnce := fun _ _ => nofun
  have hwriter : (caller "a").ActsIn "a" := ⟨rfl, rfl⟩
  have hreader : (caller "b").ActsIn "b" := ⟨rfl, rfl⟩
  have hisolated :=
    isolated_iff .sources hassembled hnames hwriter hreader (by decide) (.add added)
  refine ⟨_, hassembled, hisolated.2.2 fun value hvalue => ?_⟩
  have hanswer : ((Collection.sources.write (caller "a") (.add added)).run
      ⟨.layeredOver {} [] [] tables.stores, world⟩).1
        = .ok { added with organization := "a" } := rfl
  cases hanswer.symm.trans hvalue
  exact unread_none

/-- A source added under the id of a connection hides the source of the connection. -/
theorem added_hides : ∃ stores,
    Stores.assemble connected ({} : PrimaryTables).stores = .ok stores
      ∧ (caller "a").ActsIn "a" ∧ (caller Organization.defaultId).ActsIn Organization.defaultId
      ∧ "a" ≠ Organization.defaultId
      ∧ ¬ (Collection.sources.readings (caller Organization.defaultId) ⟨stores, world⟩).Alike
        (Collection.sources.readings (caller Organization.defaultId)
          ((Collection.sources.write (caller "a") (.add added)).run ⟨stores, world⟩).2) := by
  obtain ⟨url, hurl⟩ := connected_ok
  have hassembled : Stores.assemble connected ({} : PrimaryTables).stores
      = .ok (.layeredOver connected [Catalog.flagSource { url := "http://[::1]" } url] []
        ({} : PrimaryTables).stores) :=
    bind_eq_ok.2 ⟨_, bind_eq_ok.2 ⟨url, hurl, rfl⟩, bind_eq_ok.2 ⟨_, rfl, rfl⟩⟩
  refine ⟨_, hassembled, ⟨rfl, rfl⟩, ⟨rfl, rfl⟩, by decide, ?_⟩
  -- the source of the connection was found before, and is not any more
  rintro ⟨-, hget⟩
  have hbefore := hget Catalog.flagId
  cases hbefore

end TenantConsole
