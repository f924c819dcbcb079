import TenantConsole.Access.Collection
import TenantConsole.Service.Script

/-!
# Calls on collections

The steps that scripts are made of: one call on one store, as far as a context reaches it.
-/

namespace TenantConsole

/-- What the console works on. -/
structure State where
  stores : Stores
  world : World

abbrev StoreScript (α : Type) := Script State StoreError α

namespace Collection

variable {ρ : Type} [Record ρ]

/-- The store that a context gets to see. -/
def seen (collection : Collection ρ) (context : Context) (state : State) : Store ρ :=
  (collection.access context).view (collection.store state.stores)

def readings (collection : Collection ρ) (context : Context) (state : State) : Readings ρ :=
  (collection.seen context state).readings state.world.disk

/-- Works on the store that a context gets to see. -/
def change {α : Type} (collection : Collection ρ) (context : Context) (state : State)
    (work : Store ρ → World → Outcome (Store ρ) α) : Except StoreError α × State :=
  let (answer, seen, world) := work (collection.seen context state) state.world
  let after := (collection.access context).back (collection.store state.stores) seen
  (answer, ⟨collection.replace state.stores after, world⟩)

def all (collection : Collection ρ) (context : Context) : StoreScript (List ρ) :=
  .look fun state => (collection.readings context state).all

def get (collection : Collection ρ) (context : Context) (id : String) : StoreScript ρ :=
  .look fun state => (collection.readings context state).get id

def find (collection : Collection ρ) (context : Context) (query : Query ρ) : StoreScript ρ :=
  .look fun state => (collection.readings context state).find query

def write {α : Type} (collection : Collection ρ) (context : Context) (write : Write ρ α) :
    StoreScript α :=
  .call fun state => collection.change context state fun store world => store.write write world

def add (collection : Collection ρ) (context : Context) (record : ρ) : StoreScript ρ :=
  collection.write context (.add record)

def update (collection : Collection ρ) (context : Context) (record : ρ) : StoreScript Unit :=
  collection.write context (.update record)

def delete (collection : Collection ρ) (context : Context) (id : String) : StoreScript Unit :=
  collection.write context (.delete id)

/-- The record with an id, or none where there is no such record. -/
def get? (collection : Collection ρ) (context : Context) (id : String) :
    StoreScript (Option ρ) := do
  match ← (collection.get context id).attempt with
  | .ok record => return some record
  | .error error => if error.isNotFound then return none else .fail error

def find? (collection : Collection ρ) (context : Context) (query : Query ρ) :
    StoreScript (Option ρ) := do
  match ← (collection.find context query).attempt with
  | .ok record => return some record
  | .error error => if error.isNotFound then return none else .fail error

end Collection

end TenantConsole
