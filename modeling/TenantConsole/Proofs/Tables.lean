import TenantConsole.Store.Basic

/-!
# What a write does to a table

Every write to a table is refused and leaves it as it was, or it puts in one row, or it takes one
out: `Table.Change` says which row for each of the three writes, and `write_settles` that there is
nothing else. What becomes of the rows is then said twice, in the two forms that later modules
need:

* **by look-up**: `Table.Evolves kept fresh` relates two tables where no row disappears, the rows
  that were there before are `kept`, and the others are `fresh`. It composes, so a run of writes is
  as good as one;
* **by listing**: away from the id of the row that is written, the listing stays as it is, in its
  order (`Change.rows_away`).
-/

namespace TenantConsole

namespace Table

variable {ρ : Type} [Record ρ]

/-! ## Rows and look-ups -/

/-- What is found under an id is the row that has it. -/
theorem get?_eq_some_iff {table : Table ρ} {key : String} {row : ρ} :
    table.get? key = some row ↔ row ∈ table.rows ∧ Record.id row = key := by
  constructor
  · intro h
    exact ⟨List.mem_of_find?_eq_some h, id_of_get?_eq_some h⟩
  · rintro ⟨hrow, rfl⟩
    exact get?_of_mem hrow

theorem get?_eq_none_iff {table : Table ρ} {key : String} :
    table.get? key = none ↔ ∀ row ∈ table.rows, Record.id row ≠ key := by
  unfold get?
  rw [List.find?_eq_none]
  simp

/-- No two rows have the same id, since they are sorted strictly. -/
theorem ids_apart (table : Table ρ) :
    table.rows.Pairwise fun a b => Record.id a ≠ Record.id b := by
  refine table.sorted.imp fun {a b} hlt hsame => ?_
  rw [hsame] at hlt
  exact String.lt_irrefl _ hlt

/-- A row that goes in is the only one under its id. -/
theorem mem_insert_iff {table : Table ρ} {new row : ρ} : row ∈ (table.insert new).rows
    ↔ (Record.id row = Record.id new ∧ row = new)
      ∨ Record.id row ≠ Record.id new ∧ row ∈ table.rows := by
  have hfound : row ∈ (table.insert new).rows
      ↔ (table.insert new).get? (Record.id row) = some row :=
    ⟨get?_of_mem, fun h => (get?_eq_some_iff.1 h).1⟩
  rw [hfound, get?_insert]
  by_cases hid : Record.id new = Record.id row
  · rw [if_pos hid, Option.some.injEq]
    exact ⟨fun h => .inl ⟨hid.symm, h.symm⟩,
      fun h => h.elim (fun h => h.2.symm) fun h => absurd hid.symm h.1⟩
  · rw [if_neg hid, get?_eq_some_iff]
    exact ⟨fun h => .inr ⟨fun hsame => hid hsame.symm, h.1⟩,
      fun h => h.elim (fun h => absurd h.1.symm hid) fun h => ⟨h.2, rfl⟩⟩

/-- A row under an id of its own is one more row; the others stay. -/
theorem insert_perm {table : Table ρ} {row : ρ} (hfree : table.get? (Record.id row) = none) :
    (table.insert row).rows.Perm (row :: table.rows) := by
  have hother : ∀ r ∈ table.rows, Record.id row ≠ Record.id r := fun r hr hsame =>
    get?_eq_none_iff.1 hfree r hr hsame.symm
  show (putRow row table.rows).Perm _
  generalize table.rows = rows at hother
  -- down to the place where the row belongs
  induction rows with
  | nil => exact .refl _
  | cons r rest ih =>
    obtain ⟨hr, hrest⟩ := List.forall_mem_cons.1 hother
    rw [putRow, if_neg hr]
    split
    · exact .refl _
    · exact ((ih hrest).cons r).trans (.swap row r rest)

/-- A row with the id of another takes its place among the rows. -/
theorem putRow_of_split {above below : List ρ} {old new : ρ} (hid : Record.id new = Record.id old)
    (habove : ∀ row ∈ above, Record.id row < Record.id old) :
    putRow new (above ++ old :: below) = above ++ new :: below := by
  -- the rows above have smaller ids, so the row is carried past each of them
  induction above with
  | nil =>
    rw [List.nil_append, putRow, hid, if_neg (String.lt_irrefl _), if_pos rfl, List.nil_append]
  | cons row rest ih =>
    obtain ⟨hrow, hrest⟩ := List.forall_mem_cons.1 habove
    have hlater : ¬ Record.id new < Record.id row := by
      rw [hid]
      exact String.lt_asymm hrow
    have hother : Record.id new ≠ Record.id row := by
      rw [hid]
      rintro hsame
      rw [hsame] at hrow
      exact String.lt_irrefl _ hrow
    rw [List.cons_append, putRow, if_neg hlater, if_neg hother, ih hrest, List.cons_append]

/-- **A row that goes in takes the place of the one with its id**, and the others stay around it. -/
theorem rows_insert_of_split {table : Table ρ} {above below : List ρ} {old new : ρ}
    (hrows : table.rows = above ++ old :: below) (hid : Record.id new = Record.id old) :
    (table.insert new).rows = above ++ new :: below := by
  have hsorted := table.sorted
  rw [hrows, List.pairwise_append] at hsorted
  show putRow new table.rows = _
  rw [hrows]
  exact putRow_of_split hid fun row hrow => hsorted.2.2 row hrow old List.mem_cons_self

/-- A row that goes out leaves the others as they stand. -/
theorem rows_erase_of_split {table : Table ρ} {above below : List ρ} {old : ρ}
    (hrows : table.rows = above ++ old :: below) :
    (table.erase (Record.id old)).rows = above ++ below := by
  have hids := table.ids_apart
  rw [hrows, List.pairwise_append, List.pairwise_cons] at hids
  obtain ⟨-, ⟨hbelow, -⟩, habove⟩ := hids
  have hkept : ∀ row ∈ above ++ below, Record.id row ≠ Record.id old := by
    intro row hrow
    rcases List.mem_append.1 hrow with hrow | hrow
    · exact habove row hrow old List.mem_cons_self
    · exact (hbelow row hrow).symm
  show table.rows.filter (fun row => Record.id row ≠ Record.id old) = _
  rw [hrows, List.filter_append, List.filter_cons_of_neg (by simp), ← List.filter_append]
  exact List.filter_eq_self.2 fun row hrow => decide_eq_true (hkept row hrow)

/-- A row that goes out is the one of its id. -/
theorem mem_erase {table : Table ρ} {id : String} {row : ρ} :
    row ∈ (table.erase id).rows ↔ row ∈ table.rows ∧ Record.id row ≠ id := by
  show row ∈ table.rows.filter _ ↔ _
  simp

/-- A table is read out of its listing, and the listing finds what the table finds. -/
theorem get_ofListing (table : Table ρ) (id : String) :
    (Readings.ofListing (.ok table.rows)).get id = Readings.orMissing id (table.get? id) := rfl

/-- A row that goes in, and the row that it takes the place of, are not seen by a filter that takes
neither. -/
theorem filter_putRow {p : ρ → Bool} {row : ρ} {rows : List ρ} (hrow : p row = false)
    (hold : ∀ r ∈ rows, Record.id r = Record.id row → p r = false) :
    (putRow row rows).filter p = rows.filter p := by
  -- the row goes in before a row, in its place, or further down
  induction rows with
  | nil => simp [putRow, hrow]
  | cons r rest ih =>
    have hrest := fun x hx => hold x (List.mem_cons_of_mem r hx)
    unfold putRow
    split
    · rw [List.filter_cons_of_neg (by simp [hrow])]
    · split
      · rename_i heq
        have hr : p r = false := hold r List.mem_cons_self heq.symm
        rw [List.filter_cons_of_neg (by simp [hrow]), List.filter_cons_of_neg (by simp [hr])]
      · rw [List.filter_cons, List.filter_cons, ih hrest]

/-- Rows that a filter drops can be put in without its noticing. -/
theorem rows_insert_filter {p : ρ → Bool} {table : Table ρ} {row : ρ} (hrow : p row = false)
    (hold : ∀ r, table.get? (Record.id row) = some r → p r = false) :
    (table.insert row).rows.filter p = table.rows.filter p :=
  filter_putRow hrow fun r hr hid => hold r (hid ▸ get?_of_mem hr)

theorem rows_erase_filter {p : ρ → Bool} {table : Table ρ} {id : String}
    (hold : ∀ r, table.get? id = some r → p r = false) :
    (table.erase id).rows.filter p = table.rows.filter p := by
  show (table.rows.filter _).filter p = _
  rw [List.filter_filter]
  refine List.filter_congr fun r hr => ?_
  by_cases hid : Record.id r = id
  · simp [hid, hold r (hid ▸ get?_of_mem hr)]
  · simp [hid]

/-! ## The three writes -/

/-- What a write that is not refused does to a table, and what it answers. A new row is the record
that was handed in, under an id that nothing had. -/
def Change (table : Table ρ) : {α : Type} → Write ρ α → α → Table ρ → Prop
  | _, .add record, answer, after => ∃ world : World, answer = world.named record
    ∧ table.get? (Record.id answer) = none ∧ after = table.insert answer
  | _, .update record, _, after =>
    (table.get? (Record.id record)).isSome ∧ after = table.insert record
  | _, .delete id, _, after => (table.get? id).isSome ∧ after = table.erase id

/-- What an outcome has to be: a refusal that leaves the table as it was, or an answer with a change
that goes with it. Either way the disk is not touched. -/
def Settles {α : Type} (table : Table ρ) (world : World) (change : α → Table ρ → Prop)
    (outcome : Outcome (Table ρ) α) : Prop :=
  outcome.2.2.disk = world.disk
    ∧ ((∃ error, outcome.1 = .error error) ∧ outcome.2.1 = table
      ∨ ∃ value, outcome.1 = .ok value ∧ change value outcome.2.1)

/-- A refusal that leaves the table settles whatever the change would have been. -/
theorem settles_refusal {α : Type} {table : Table ρ} {world world' : World}
    {change : α → Table ρ → Prop} {error : StoreError} (hdisk : world'.disk = world.disk) :
    table.Settles world change (.error error, table, world') :=
  ⟨hdisk, .inl ⟨⟨error, rfl⟩, rfl⟩⟩

theorem settles_change {α : Type} {table after : Table ρ} {world world' : World}
    {change : α → Table ρ → Prop} {value : α} (hdisk : world'.disk = world.disk)
    (hchange : change value after) : table.Settles world change (.ok value, after, world') :=
  ⟨hdisk, .inr ⟨value, rfl, hchange⟩⟩

theorem afterNaming_disk (world : World) (record : ρ) :
    (world.afterNaming record).disk = world.disk := by
  unfold World.afterNaming
  split <;> rfl

/-- A record under a free id is a new row. -/
theorem write_add_free {table : Table ρ} {record : ρ} {world : World}
    (hfree : table.get? (Record.id (world.named record)) = none) :
    table.write (.add record) world
      = (.ok (world.named record), table.insert (world.named record),
        world.afterNaming record) := by
  simp only [write, add, contains, hfree, Option.isSome_none, Bool.false_eq_true, if_false]

/-- A record under an id that is held is a conflict. The id that it has drawn is used up. -/
theorem write_add_taken {table : Table ρ} {record row : ρ} {world : World}
    (hheld : table.get? (Record.id (world.named record)) = some row) :
    table.write (.add record) world
      = (.error (.taken ρ (Record.id (world.named record))), table, world.afterNaming record) := by
  simp only [write, add, contains, hheld, Option.isSome_some, if_true]

/-- **A write is refused and changes nothing, or it is one of the three changes.** -/
theorem write_settles {α : Type} (table : Table ρ) (write : Write ρ α) (world : World) :
    table.Settles world (table.Change write) (table.write write world) := by
  cases write with
  | add record =>
    have hdisk := afterNaming_disk world record
    -- an addition is refused if its id is held, the other two if it is not
    cases hheld : table.get? (Record.id (world.named record)) with
    | some row =>
      rw [write_add_taken hheld]
      exact settles_refusal hdisk
    | none =>
      rw [write_add_free hheld]
      exact settles_change hdisk ⟨world, rfl, hheld, rfl⟩
  | update record =>
    cases hheld : table.contains (Record.id record) with
    | false =>
      simp only [write, hheld, Bool.false_eq_true, if_false]
      exact settles_refusal rfl
    | true =>
      simp only [write, hheld, if_true]
      exact settles_change rfl ⟨hheld, rfl⟩
  | delete id =>
    cases hheld : table.contains id with
    | false =>
      simp only [write, hheld, Bool.false_eq_true, if_false]
      exact settles_refusal rfl
    | true =>
      simp only [write, hheld, if_true]
      exact settles_change rfl ⟨hheld, rfl⟩

end Table

/-- The id that a write is about; a new record gets its id on the way, so the answer counts. -/
def Write.subject {ρ α : Type} [Record ρ] : Write ρ α → α → String
  | .add _, answer => Record.id answer
  | .update record, _ => Record.id record
  | .delete id, _ => id

namespace Table

variable {ρ : Type} [Record ρ]

/-- **A change concerns one id only.** Away from it, the listing stays as it is. -/
theorem Change.rows_away {α : Type} {table after : Table ρ} {write : Write ρ α} {answer : α}
    (h : table.Change write answer after) :
    after.rows.filter (fun r => Record.id r ≠ write.subject answer)
      = table.rows.filter fun r => Record.id r ≠ write.subject answer := by
  have haway {id : String} {r : ρ} (hr : table.get? id = some r) :
      decide (Record.id r ≠ id) = false := by
    simp [id_of_get?_eq_some hr]
  cases write with
  | add record =>
    obtain ⟨world, -, -, rfl⟩ := h
    exact rows_insert_filter (by simp [Write.subject]) fun r => haway
  | update record =>
    obtain ⟨-, rfl⟩ := h
    exact rows_insert_filter (by simp [Write.subject]) fun r => haway
  | delete id =>
    obtain ⟨-, rfl⟩ := h
    exact rows_erase_filter fun r => haway

/-! ## Tables that evolve -/

/-- How a table may change where no row disappears: each row that was there is `kept` under its id,
and each one that was not is `fresh`. -/
structure Evolves (kept : ρ → ρ → Prop) (fresh : ρ → Prop) (before after : Table ρ) : Prop where
  keeps : ∀ {key row}, before.get? key = some row →
    ∃ row', after.get? key = some row' ∧ kept row row'
  freshens : ∀ {key row}, before.get? key = none → after.get? key = some row → fresh row

namespace Evolves

variable {kept kept' : ρ → ρ → Prop} {fresh fresh' : ρ → Prop} {table before after : Table ρ}

theorem refl (hrefl : ∀ row, kept row row) (table : Table ρ) : Evolves kept fresh table table where
  keeps h := ⟨_, h, hrefl _⟩
  freshens hnone hsome := absurd (hnone.symm.trans hsome) (by simp)

/-- Two evolutions make one, if what is kept twice is kept and what is fresh stays so. -/
theorem trans {middle : Table ρ} (htrans : ∀ {a b c}, kept a b → kept b c → kept a c)
    (hfresh : ∀ {a b}, fresh a → kept a b → fresh b) (h₁ : Evolves kept fresh before middle)
    (h₂ : Evolves kept fresh middle after) : Evolves kept fresh before after where
  keeps h := by
    obtain ⟨row', hrow', hkept⟩ := h₁.keeps h
    obtain ⟨row'', hrow'', hkept'⟩ := h₂.keeps hrow'
    exact ⟨row'', hrow'', htrans hkept hkept'⟩
  freshens {key row} hnone hsome := by
    -- the row came in at the first step and was kept at the second, or it came in at the second
    cases hmiddle : middle.get? key with
    | none => exact h₂.freshens hmiddle hsome
    | some row' =>
      obtain ⟨row'', hrow'', hkept⟩ := h₂.keeps hmiddle
      cases hrow''.symm.trans hsome
      exact hfresh (h₁.freshens hnone hmiddle) hkept

/-- An evolution may be said more loosely. -/
theorem mono (hkept : ∀ {a b}, kept a b → kept' a b) (hfresh : ∀ {a}, fresh a → fresh' a)
    (h : Evolves kept fresh before after) : Evolves kept' fresh' before after where
  keeps hrow := by
    obtain ⟨row', hrow', hk⟩ := h.keeps hrow
    exact ⟨row', hrow', hkept hk⟩
  freshens hnone hsome := hfresh (h.freshens hnone hsome)

/-- A row in place of the one with its id. -/
theorem replaced (hrefl : ∀ row, kept row row) {old new : ρ}
    (hold : table.get? (Record.id new) = some old) (hkept : kept old new) :
    Evolves kept fresh table (table.insert new) where
  keeps {key row} h := by
    rw [get?_insert]
    -- under its own id the new row is found, under any other the old one
    split
    · rename_i hkey
      subst hkey
      cases hold.symm.trans h
      exact ⟨new, rfl, hkept⟩
    · exact ⟨row, h, hrefl row⟩
  freshens {key row} hnone hsome := by
    rw [get?_insert] at hsome
    split at hsome
    · rename_i hkey
      subst hkey
      exact absurd (hnone.symm.trans hold) (by simp)
    · exact absurd (hnone.symm.trans hsome) (by simp)

/-- A row under an id of its own. -/
theorem inserted (hrefl : ∀ row, kept row row) {new : ρ}
    (hfree : table.get? (Record.id new) = none) (hfresh : fresh new) :
    Evolves kept fresh table (table.insert new) where
  keeps {key row} h := by
    rw [get?_insert]
    split
    · rename_i hkey
      subst hkey
      exact absurd (hfree.symm.trans h) (by simp)
    · exact ⟨row, h, hrefl row⟩
  freshens {key row} hnone hsome := by
    rw [get?_insert] at hsome
    split at hsome
    · cases hsome
      exact hfresh
    · exact absurd (hnone.symm.trans hsome) (by simp)

/-- What became of a listed row. -/
theorem of_mem (h : Evolves kept fresh before after) {row : ρ} (hrow : row ∈ before.rows) :
    ∃ row' ∈ after.rows, Record.id row' = Record.id row ∧ kept row row' := by
  obtain ⟨row', hrow', hkept⟩ := h.keeps (get?_of_mem hrow)
  obtain ⟨hmem, hid⟩ := get?_eq_some_iff.1 hrow'
  exact ⟨row', hmem, hid, hkept⟩

/-- What is listed under an id that was not there. -/
theorem of_new (h : Evolves kept fresh before after) {row : ρ} (hrow : row ∈ after.rows)
    (hnew : ∀ old ∈ before.rows, Record.id old ≠ Record.id row) : fresh row :=
  h.freshens (get?_eq_none_iff.2 hnew) (get?_of_mem hrow)

end Evolves

end Table

end TenantConsole
