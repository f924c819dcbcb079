import TenantConsole.Store.Error

/-!
# Reading a store

The three ways to read a store: list its records, look one up by id, and find one by a property.
What they answer is a value of its own, put together from the readings of the stores below.
-/

namespace TenantConsole

/-- A property to find a record by; the label stands for it in messages. -/
structure Query (ρ : Type) where
  label : String
  holds : ρ → Bool

structure Readings (ρ : Type) where
  all : Except StoreError (List ρ)
  get : String → Except StoreError ρ
  find : Query ρ → Except StoreError ρ

namespace Readings

variable {ρ : Type} [Record ρ]

/-- The record, or the refusal of the id that found none. -/
def orMissing (id : String) : Option ρ → Except StoreError ρ
  | some record => .ok record
  | none => .error (.missing ρ id)

def firstWithId (id : String) (records : List ρ) : Option ρ :=
  records.find? fun record => Record.id record = id

/-- Finds the first listed record with a property. -/
def search (listing : Except StoreError (List ρ)) (query : Query ρ) : Except StoreError ρ :=
  match listing with
  | .error e => .error e
  | .ok records => orMissing query.label (records.find? query.holds)

/-- A store that answers everything out of one listing. -/
def ofListing (listing : Except StoreError (List ρ)) : Readings ρ where
  all := listing
  get id := match listing with
    | .error e => .error e
    | .ok records => orMissing id (firstWithId id records)
  find := search listing

/-! ### Chains -/

/-- The records without those whose id has come before. -/
def distinct : List ρ → List ρ
  | [] => []
  | record :: rest =>
    record :: (distinct rest).filter fun other => Record.id other ≠ Record.id record

/-- Why a chain is unavailable: the last refusal among its layers. -/
def lastReason (answers : List (Except StoreError (List ρ))) : String :=
  let refusals := answers.filterMap fun
    | .error e => some e
    | .ok _ => none
  match refusals.getLast? with
  | some e => e.message
  | none => "no providers configured"

/-- What a chain lists: every record of the layers that answer, the higher layer's where an id comes
twice. -/
def merged (catalog : String) (answers : List (Except StoreError (List ρ))) :
    Except StoreError (List ρ) :=
  match answers.filterMap Except.toOption with
  | [] => .error (.unavailable catalog (lastReason answers))
  | listings => .ok (distinct listings.flatten)

/-- A chain of layers, the highest first. -/
def layered (catalog : String) (layers : List (Readings ρ)) : Readings ρ :=
  let listing := merged catalog (layers.map Readings.all)
  { all := listing
    get := fun id => orMissing id (layers.findSome? fun layer => (layer.get id).toOption)
    find := search listing }

end Readings

end TenantConsole
