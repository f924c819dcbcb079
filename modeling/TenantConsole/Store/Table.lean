import TenantConsole.Record.Basic

/-!
# Tables

Records in memory, one for each id, in the order of their ids. The lemmas say what a look-up finds
after each operation.
-/

namespace TenantConsole

/-- Records sorted by id, no id twice. -/
structure Table (ρ : Type) [Record ρ] where
  rows : List ρ
  sorted : rows.Pairwise fun a b => Record.id a < Record.id b

namespace Table

variable {ρ : Type} [Record ρ]

/-! ### Rows -/

/-- The row goes to its place by id; a row with its id gives way. -/
def putRow (row : ρ) : List ρ → List ρ
  | [] => [row]
  | r :: rest =>
    if Record.id row < Record.id r then row :: r :: rest
    else if Record.id row = Record.id r then row :: rest
    else r :: putRow row rest

theorem mem_putRow {row x : ρ} {rows : List ρ} (h : x ∈ putRow row rows) : x = row ∨ x ∈ rows := by
  induction rows with
  | nil => simpa [putRow] using h
  | cons r rest ih =>
    unfold putRow at h
    split at h
    · simpa using h
    · split at h
      · rcases List.mem_cons.1 h with h | h
        · exact .inl h
        · exact .inr (.tail _ h)
      · rcases List.mem_cons.1 h with h | h
        · exact .inr (h ▸ .head _)
        · exact (ih h).imp_right (.tail _)

theorem sorted_putRow (row : ρ) {rows : List ρ}
    (h : rows.Pairwise fun a b => Record.id a < Record.id b) :
    (putRow row rows).Pairwise fun a b => Record.id a < Record.id b := by
  induction rows with
  | nil => simp [putRow]
  | cons r rest ih =>
    obtain ⟨hr, hrest⟩ := List.pairwise_cons.1 h
    unfold putRow
    split
    · rename_i hlt
      refine List.pairwise_cons.2 ⟨fun x hx => ?_, h⟩
      rcases List.mem_cons.1 hx with rfl | hx
      · exact hlt
      · exact String.lt_trans hlt (hr x hx)
    · rename_i hlt
      split
      · rename_i heq
        exact List.pairwise_cons.2 ⟨fun x hx => heq ▸ hr x hx, hrest⟩
      · rename_i hne
        refine List.pairwise_cons.2 ⟨fun x hx => ?_, ih hrest⟩
        rcases mem_putRow hx with rfl | hx
        · by_cases hgt : Record.id r < Record.id x
          · exact hgt
          · exact absurd (String.le_antisymm (String.not_lt.1 hgt) (String.not_lt.1 hlt)) hne
        · exact hr x hx

/-! ### Operations -/

def empty : Table ρ := ⟨[], .nil⟩

def get? (table : Table ρ) (key : String) : Option ρ :=
  table.rows.find? fun row => Record.id row = key

def contains (table : Table ρ) (key : String) : Bool := (table.get? key).isSome

def insert (table : Table ρ) (row : ρ) : Table ρ :=
  ⟨putRow row table.rows, sorted_putRow row table.sorted⟩

def erase (table : Table ρ) (key : String) : Table ρ :=
  ⟨table.rows.filter fun row => Record.id row ≠ key, table.sorted.filter _⟩

/-- The table with these records; of records with one id the last stays. -/
def ofList (records : List ρ) : Table ρ := records.foldl insert empty

/-! ### What a look-up finds -/

theorem id_of_get?_eq_some {table : Table ρ} {key : String} {row : ρ}
    (h : table.get? key = some row) : Record.id row = key := by
  simpa using List.find?_some h

@[simp] theorem get?_empty (key : String) : (empty : Table ρ).get? key = none := rfl

theorem find?_putRow (row : ρ) (key : String) {rows : List ρ}
    (h : rows.Pairwise fun a b => Record.id a < Record.id b) :
    (putRow row rows).find? (fun r => Record.id r = key)
      = if Record.id row = key then some row else rows.find? (fun r => Record.id r = key) := by
  induction rows with
  | nil => by_cases hk : Record.id row = key <;> simp [putRow, hk]
  | cons r rest ih =>
    obtain ⟨hr, hrest⟩ := List.pairwise_cons.1 h
    unfold putRow
    split
    · by_cases hk : Record.id row = key <;> simp [hk]
    · split
      · rename_i heq
        by_cases hk : Record.id row = key
        · simp [hk]
        · simp [hk, ← heq]
      · rename_i hne
        by_cases hk : Record.id r = key
        · have : Record.id row ≠ key := fun h => hne (h.trans hk.symm)
          simp [hk, this]
        · simp [hk, ih hrest]

@[simp] theorem get?_insert (table : Table ρ) (row : ρ) (key : String) :
    (table.insert row).get? key = if Record.id row = key then some row else table.get? key :=
  find?_putRow row key table.sorted

@[simp] theorem get?_erase (table : Table ρ) (key other : String) :
    (table.erase key).get? other = if other = key then none else table.get? other := by
  unfold get? erase
  rw [List.find?_filter]
  split
  · rename_i h
    subst h
    simp
  · rename_i h
    congr 1
    funext row
    by_cases hr : Record.id row = other
    · subst hr; simp [h]
    · simp [hr]

/-- A listed record is the one that its id finds. -/
theorem get?_of_mem {table : Table ρ} {row : ρ} (h : row ∈ table.rows) :
    table.get? (Record.id row) = some row := by
  obtain ⟨rows, sorted⟩ := table
  show rows.find? _ = _
  induction rows with
  | nil => cases h
  | cons r rest ih =>
    obtain ⟨hr, hrest⟩ := List.pairwise_cons.1 sorted
    rcases List.mem_cons.1 h with rfl | h
    · simp
    · have : Record.id r ≠ Record.id row := fun heq => String.lt_irrefl _ (heq ▸ hr row h)
      simpa [this] using ih hrest h

end Table

end TenantConsole
