import TenantConsole.Store.Folder

/-!
# Listings in which ids repeat

A chain reads its layers as one listing, the highest layer first, in which an id may come more than
once. Of the records under one id, its `namesakes`, only the first is read; the records `apart` from
it stand for themselves. Both views of a listing are plain filters, and they are all it takes:

* **`distinct` and `firstWithId` split**: what is listed away from an id depends on the records
  apart from it, what is read under the id on its namesakes.
* **`Swaps`** says what a write does to a listing: under one id, some records at the front give way
  to others, and nothing else moves. A swap in one layer is a swap in the whole listing.
* **`viewed_eq_iff`** is the frame for an owner: an owner that reads nothing under the id, neither
  before nor after, reads the same everywhere.
-/

namespace TenantConsole

namespace Readings

variable {ρ : Type} [Record ρ] {id : String} {records : List ρ}

/-! ## Namesakes -/

/-- The records under an id, in their order. -/
def namesakes (id : String) (records : List ρ) : List ρ :=
  records.filter fun record => Record.id record = id

/-- The records under any other id. -/
def apart (id : String) (records : List ρ) : List ρ :=
  records.filter fun record => Record.id record ≠ id

theorem mem_namesakes {record : ρ} :
    record ∈ namesakes id records ↔ record ∈ records ∧ Record.id record = id := by
  simp [namesakes]

/-- Stacked listings have the upper one's namesakes first. -/
theorem namesakes_append (above below : List ρ) :
    namesakes id (above ++ below) = namesakes id above ++ namesakes id below :=
  List.filter_append above below

theorem apart_append (above below : List ρ) :
    apart id (above ++ below) = apart id above ++ apart id below :=
  List.filter_append above below

/-- What is read under an id is listed and has the id. -/
theorem of_firstWithId {record : ρ} (h : firstWithId id records = some record) :
    record ∈ records ∧ Record.id record = id :=
  ⟨List.mem_of_find?_eq_some h, by simpa using List.find?_some h⟩

/-- Of the namesakes the first one is read. -/
theorem firstWithId_eq_head? : firstWithId id records = (namesakes id records).head? :=
  List.head?_filter.symm

theorem namesakes_apart_self : namesakes id (apart id records) = [] := by
  simp [namesakes, apart]

/-- Setting the records of one id apart leaves the namesakes of every other. -/
theorem namesakes_apart {other : String} (hother : other ≠ id) :
    namesakes other (apart id records) = namesakes other records := by
  unfold namesakes apart
  rw [List.filter_filter]
  refine List.filter_congr fun record _ => ?_
  by_cases hrecord : Record.id record = other
  · simp [hrecord, hother]
  · simp [hrecord]

/-- What is read under another id is among the records apart. -/
theorem firstWithId_apart {other : String} (hother : other ≠ id) :
    firstWithId other (apart id records) = firstWithId other records := by
  rw [firstWithId_eq_head?, firstWithId_eq_head?, namesakes_apart hother]

theorem apart_cons (record : ρ) (rest : List ρ) :
    apart id (record :: rest)
      = if Record.id record = id then apart id rest else record :: apart id rest := by
  by_cases hrecord : Record.id record = id <;> simp [apart, hrecord]

/-- Repetitions are of one id each, so it makes no difference whether an id is set apart before they
are dropped or after. -/
theorem apart_distinct : apart id (distinct records) = distinct (apart id records) := by
  -- `distinct` takes the first record and drops its repetitions from the rest
  induction records with
  | nil => rfl
  | cons record rest ih =>
    have hrest : apart id ((distinct rest).filter fun other => Record.id other ≠ Record.id record)
        = (distinct (apart id rest)).filter fun other => Record.id other ≠ Record.id record := by
      rw [← ih]
      unfold apart
      rw [List.filter_filter, List.filter_filter]
      exact List.filter_congr fun other _ => Bool.and_comm _ _
    rw [distinct, apart_cons, apart_cons, hrest]
    split
    · -- the record goes away, and nothing that it would hide is there
      rename_i hrecord
      rw [← ih, hrecord]
      exact (List.filter_filter ..).trans (List.filter_congr fun other _ => Bool.and_self _)
    · rfl

/-- What a listing without repetitions has under an id is what is read there. -/
theorem first_of_mem_distinct {record : ρ} (hrecord : record ∈ distinct records) :
    firstWithId (Record.id record) records = some record := by
  -- a record further down is there only because no record above has its id
  induction records with
  | nil => cases hrecord
  | cons first rest ih =>
    unfold firstWithId
    rcases List.mem_cons.1 hrecord with rfl | hmem
    · simp
    · obtain ⟨hmem, hne⟩ := List.mem_filter.1 hmem
      have hne : Record.id first ≠ Record.id record := fun h => by simp [h] at hne
      rw [List.find?_cons_of_neg (by simpa using hne)]
      exact ih hmem

/-- Readings that answer out of a listing, the first record of each id. -/
structure OutOf (readings : Readings ρ) (records : List ρ) : Prop where
  all : readings.all = .ok (distinct records)
  get : ∀ id, readings.get id = orMissing id (firstWithId id records)

theorem OutOf.get_eq_ok_iff {readings : Readings ρ} (h : readings.OutOf records) {record : ρ} :
    readings.get id = .ok record ↔ firstWithId id records = some record := by
  rw [h.get]
  cases firstWithId id records <;> simp [orMissing]

/-- What is found is one of the records, under the id that it was looked up by. -/
theorem OutOf.found {readings : Readings ρ} (h : readings.OutOf records) {record : ρ}
    (hget : readings.get id = .ok record) : record ∈ records ∧ Record.id record = id :=
  of_firstWithId (h.get_eq_ok_iff.1 hget)

/-! ## Swaps -/

/-- Under one id, the records `old` at the front give way to `new`. -/
structure Swaps (id : String) (old new before after : List ρ) : Prop where
  apart : apart id after = apart id before
  namesakes : ∃ rest, namesakes id before = old ++ rest ∧ namesakes id after = new ++ rest

namespace Swaps

variable {old new before after : List ρ}

/-- Nothing changes under another id. -/
theorem first_away (h : Swaps id old new before after) {other : String} (hother : other ≠ id) :
    firstWithId other after = firstWithId other before := by
  rw [← firstWithId_apart hother, h.apart, firstWithId_apart hother]

/-- A swap above other records. -/
theorem append_right (h : Swaps id old new before after) (below : List ρ) :
    Swaps id old new (before ++ below) (after ++ below) where
  apart := by rw [apart_append, apart_append, h.apart]
  namesakes := by
    obtain ⟨rest, hbefore, hafter⟩ := h.namesakes
    refine ⟨rest ++ Readings.namesakes id below, ?_, ?_⟩
    · rw [namesakes_append, hbefore, List.append_assoc]
    · rw [namesakes_append, hafter, List.append_assoc]

/-- A swap below records that do not have the id. -/
theorem append_left (h : Swaps id old new before after) {above : List ρ}
    (habove : Readings.namesakes id above = []) :
    Swaps id old new (above ++ before) (above ++ after) where
  apart := by rw [apart_append, apart_append, h.apart]
  namesakes := by
    obtain ⟨rest, hbefore, hafter⟩ := h.namesakes
    refine ⟨rest, ?_, ?_⟩
    · rw [namesakes_append, habove, hbefore, List.nil_append]
    · rw [namesakes_append, habove, hafter, List.nil_append]

/-- After a swap, the id reads as the first of the new records. -/
theorem first_after {record : ρ} (h : Swaps id old (record :: new) before after) :
    firstWithId id after = some record := by
  obtain ⟨rest, -, hafter⟩ := h.namesakes
  rw [firstWithId_eq_head?, hafter]
  rfl

/-- A record that goes away brings the next one to light. -/
theorem first_next {record : ρ} (h : Swaps id [record] [] before after) :
    firstWithId id after = (Readings.namesakes id before)[1]? := by
  obtain ⟨rest, hbefore, hafter⟩ := h.namesakes
  rw [firstWithId_eq_head?, hafter, hbefore, List.head?_eq_getElem?]
  rfl

theorem first_before {record : ρ} (h : Swaps id (record :: old) new before after) :
    firstWithId id before = some record := by
  obtain ⟨rest, hbefore, -⟩ := h.namesakes
  rw [firstWithId_eq_head?, hbefore]
  rfl

end Swaps

end Readings

/-! ## What an owner reads -/

section Owner

open Readings

variable {ρ : Type} [Owned ρ] {owner id : String} {before after records : List ρ}

/-- The view of an owner picks out its records. -/
theorem filterMap_ownedView (owner : String) (records : List ρ) :
    records.filterMap (Scoping.ownedView owner)
      = records.filter fun record => Owned.owner record = owner := by
  rw [← List.filterMap_eq_filter]
  congr 1
  funext record
  by_cases howner : Owned.owner record = owner <;> simp [Scoping.ownedView, Option.guard, howner]

/-- An owner does not get to see what is found. -/
def Unread (owner : String) (found : Option ρ) : Prop :=
  ∀ record, found = some record → Owned.owner record ≠ owner

theorem unread_none : Unread owner (none : Option ρ) := nofun

/-- A record is read by its owner and by no other. -/
theorem unread_some {record : ρ} : Unread owner (some record) ↔ Owned.owner record ≠ owner :=
  ⟨fun h => h record rfl, fun h _ hrecord => Option.some.inj hrecord ▸ h⟩

theorem unread_iff {found : Option ρ} :
    Unread owner found ↔ found.bind (Scoping.ownedView owner) = none := by
  cases found with
  | none => simp [unread_none]
  | some record => simp [unread_some, Scoping.ownedView]

/-- An owner that reads nothing under an id lists what is apart from it. -/
theorem viewed_distinct (hfirst : Unread owner (firstWithId id records)) :
    (distinct records).filterMap (Scoping.ownedView owner)
      = (distinct (apart id records)).filterMap (Scoping.ownedView owner) := by
  rw [← apart_distinct, filterMap_ownedView, filterMap_ownedView, apart, List.filter_filter]
  refine List.filter_congr fun record hrecord => ?_
  -- the one record listed under the id is another owner's, and the owner's view drops it
  by_cases hid : Record.id record = id
  · have hother : Owned.owner record ≠ owner :=
      hfirst record (hid ▸ first_of_mem_distinct hrecord)
    simp [hother]
  · simp [hid]

/-- **The frame for an owner.** Of two listings that agree apart from an id, where the owner reads
nothing under it in one of them, the owner reads the same exactly if that goes for both. -/
theorem viewed_eq_iff (hapart : apart id after = apart id before)
    (hone : Unread owner (firstWithId id before) ∨ Unread owner (firstWithId id after)) :
    ((distinct after).filterMap (Scoping.ownedView owner)
          = (distinct before).filterMap (Scoping.ownedView owner)
        ∧ ∀ other, (firstWithId other after).bind (Scoping.ownedView owner)
          = (firstWithId other before).bind (Scoping.ownedView owner))
      ↔ Unread owner (firstWithId id before) ∧ Unread owner (firstWithId id after) := by
  constructor
  · rintro ⟨-, hfirst⟩
    -- reading alike under the id itself carries what is known of one listing over to the other
    have hid := hfirst id
    rw [unread_iff, unread_iff] at hone ⊢
    rw [hid] at hone ⊢
    exact ⟨hone.elim (·) (·), hone.elim (·) (·)⟩
  · rintro ⟨hbefore, hafter⟩
    refine ⟨by rw [viewed_distinct hbefore, viewed_distinct hafter, hapart], fun other => ?_⟩
    by_cases hother : other = id
    · subst hother
      rw [unread_iff.1 hbefore, unread_iff.1 hafter]
    · rw [← firstWithId_apart hother, hapart, firstWithId_apart hother]

end Owner

end TenantConsole
