import TenantConsole.Proofs.Calls

/-!
# Chains over a table

A chain finds under an id what stands first among the records of its layers, taken in one row
(`layered_get`).

Where no directory is configured, the catalogs stand over a table of the primary database and layers
that take no write. Such a chain writes as its table does, and finds under an id what the table
finds there. `Backed` says both, and that is all that later modules know of a catalog.
-/

namespace TenantConsole

variable {ρ : Type} [Record ρ]

/-! ## Reading a chain -/

/-- A missing record is an error that finds nothing. -/
theorem toOption_orMissing (id : String) (found : Option ρ) :
    (Readings.orMissing id found).toOption = found := by
  cases found <;> rfl

/-- A chain of layers that answer out of listings finds what their records find, taken in one
row. -/
theorem layered_get (catalog : String) (listings : List (Except StoreError (List ρ)))
    (id : String) :
    (Readings.layered catalog (listings.map Readings.ofListing)).get id
      = Readings.orMissing id
          (Readings.firstWithId id (listings.filterMap Except.toOption).flatten) := by
  show Readings.orMissing id _ = _
  congr 1
  -- a layer that fails adds no records, another one puts its records in front of those below
  induction listings with
  | nil => rfl
  | cons listing rest ih =>
    rw [List.map_cons, List.findSome?_cons]
    cases listing with
    | error error => exact ih
    | ok records =>
      have hget : ((Readings.ofListing (.ok records)).get id).toOption
          = records.find? fun record => Record.id record = id :=
        toOption_orMissing id _
      show _ = (records ++ (rest.filterMap Except.toOption).flatten).find? _
      rw [hget, List.find?_append]
      cases records.find? fun record => decide (Record.id record = id) with
      | some record => rfl
      | none => exact ih

/-! ## Chains that write as their table does -/

/-- A way to hold a table in a store: a write to the store is the write to the table, and what the
table has under an id is what the store finds there. -/
structure Backed (hold : Table ρ → Store ρ) : Prop where
  write : ∀ {α : Type} (table : Table ρ) (write : Write ρ α) (world : World),
    ∃ answer table' world', (hold table).write write world = (answer, hold table', world')
      ∧ table.Settles world (table.Change write) (answer, table', world')
  get : ∀ {table : Table ρ} {id : String} {row : ρ} (disk : Disk), table.get? id = some row →
    ((hold table).readings disk).get id = .ok row

/-- Layers that refuse every write. -/
def Layers.Inert (layers : Layers ρ) : Prop :=
  ∀ {α : Type} (refusal : StoreError) (write : Write ρ α) (world : World),
    ∃ error, layers.write refusal write world = (.error error, layers, world)

theorem Layers.inert_nil : (Layers.nil : Layers ρ).Inert := fun refusal _ _ => ⟨refusal, rfl⟩

/-- A layer of fixed records takes no write and passes it on. -/
theorem Layers.inert_fixed {name label : String} {records : List ρ} {rest : Layers ρ}
    (hrest : rest.Inert) : (Layers.cons name (.fixed label records) rest).Inert := by
  intro α refusal write world
  obtain ⟨error, herror⟩ := hrest (readOnly label) write world
  have hfalls : (readOnly label).fallsThrough = true := rfl
  exact ⟨error, by simp only [Layers.write, Store.write, hfalls, herror, if_true]⟩

/-- **A table over inert layers is backed by the table.** -/
theorem backed_layered {catalog name : String} {rest : Layers ρ} (hrest : rest.Inert) :
    Backed fun table : Table ρ => .layered catalog (.cons name (.memory table) rest) where
  write {α} table write world := by
    have hsettles := Table.write_settles table write world
    rcases hwrite : table.write write world with ⟨answer, table', world'⟩
    rw [hwrite] at hsettles
    obtain ⟨hdisk, ⟨⟨error, herror⟩, hsame⟩ | ⟨value, hvalue, hchange⟩⟩ := hsettles
    · cases herror
      cases hsame
      cases hfalls : error.fallsThrough with
      | true =>
        -- the layers below are asked, and refuse as well
        obtain ⟨last, hlast⟩ := hrest error write world'
        refine ⟨.error last, table', world', ?_, Table.settles_refusal hdisk⟩
        simp only [Store.write, Layers.write, hwrite, hfalls, if_true, hlast]
      | false =>
        refine ⟨.error error, table', world', ?_, Table.settles_refusal hdisk⟩
        simp only [Store.write, Layers.write, hwrite, hfalls, Bool.false_eq_true, if_false]
    · cases hvalue
      refine ⟨.ok value, table', world', ?_, Table.settles_change hdisk hchange⟩
      simp only [Store.write, Layers.write, hwrite]
  get {table id row} disk h := by
    simp only [Store.readings, Layers.readings, Readings.layered, List.findSome?_cons,
      Table.get_ofListing, h]
    rfl

end TenantConsole
