import TenantConsole.Store.Folder
import TenantConsole.Store.Table

/-!
# Stores

A store of records is a tree. Its leaves keep records in memory, in files or in a fixed list, or
keep nothing at all; above them stand chains of layers and scopes. Reading a store
(`Store.readings`) does not change it. A write (`Store.write`) gives an answer and the store as it
is afterwards.
-/

namespace TenantConsole

/-- The calls that a store takes. -/
inductive CallKind where
  | all
  | get
  | add
  | update
  | delete
  deriving DecidableEq

def Write.kind {ρ α : Type} : Write ρ α → CallKind
  | .add _ => .add
  | .update _ => .update
  | .delete _ => .delete

mutual

inductive Store (ρ : Type) [Record ρ] where
  | memory (table : Table ρ)
  /-- Holds nothing and takes nothing. -/
  | closed
  /-- Holds a list that cannot be changed; messages name it by the label. -/
  | fixed (label : String) (records : List ρ)
  | files (folder : Folder)
  /-- A chain of layers; the highest comes first. -/
  | layered (catalog : String) (layers : Layers ρ)
  /-- Refuses some calls with an error and leaves the others to a store below. -/
  | faulty (error : StoreError) (refused : List CallKind) (inner : Store ρ)
  | scoped (scope : Scoping ρ) (inner : Store ρ)

inductive Layers (ρ : Type) [Record ρ] where
  | nil
  | cons (name : String) (store : Store ρ) (rest : Layers ρ)

end

/-! ### Reading -/

section Readings

variable {ρ : Type} [Record ρ]

def Readings.faulty (error : StoreError) (refused : List CallKind) (inner : Readings ρ) :
    Readings ρ :=
  let listing := if .all ∈ refused then .error error else inner.all
  { all := listing
    get := fun id => if .get ∈ refused then .error error else inner.get id
    find := Readings.search listing }

mutual

def Store.readings (disk : Disk) : Store ρ → Readings ρ
  | .memory table => .ofListing (.ok table.rows)
  | .closed => .ofListing (.ok [])
  | .fixed _ records => .ofListing (.ok records)
  | .files folder => .ofListing (folder.listing disk)
  | .layered catalog layers => .layered catalog (layers.readings disk)
  | .faulty error refused inner => .faulty error refused (inner.readings disk)
  | .scoped scope inner => scope.readings (inner.readings disk)

def Layers.readings (disk : Disk) : Layers ρ → List (Readings ρ)
  | .nil => []
  | .cons _ store rest => store.readings disk :: rest.readings disk

end

end Readings

/-! ### Writing -/

section Writing

variable {ρ : Type} [Record ρ]

/-- The answer of a write, with what it leaves of a store and of the world. -/
abbrev Outcome (σ α : Type) := Except StoreError α × σ × World

namespace Table

def add (table : Table ρ) (record : ρ) (world : World) : Outcome (Table ρ) ρ :=
  let named := world.named record
  let world := world.afterNaming record
  if table.contains (Record.id named) then (.error (.taken ρ (Record.id named)), table, world)
  else (.ok named, table.insert named, world)

def write {α : Type} (table : Table ρ) : Write ρ α → World → Outcome (Table ρ) α
  | .add record, world => table.add record world
  | .update record, world =>
    if table.contains (Record.id record) then (.ok (), table.insert record, world)
    else (.error (.missing ρ (Record.id record)), table, world)
  | .delete id, world =>
    if table.contains id then (.ok (), table.erase id, world)
    else (.error (.missing ρ id), table, world)

/-- A table with these records; those without an id draw one in their order. -/
def seeded (records : List ρ) (world : World) : Table ρ × World :=
  let (named, world) := world.nameAll records
  (ofList named, world)

end Table

def CallKind.verb : CallKind → String
  | all => "list"
  | get => "get"
  | add => "add"
  | update => "update"
  | delete => "delete"

/-- The refusal of a write by a store that takes nothing. -/
def denied (ρ : Type) [Record ρ] (call : CallKind) : StoreError :=
  .unauthorized s!"cannot {call.verb} {Record.kind ρ} without an organization context"

/-- The refusal of a write by a fixed list. -/
def readOnly (label : String) : StoreError := .unsupported s!"{label} are read-only"

/-- The refusal of a write that no layer has taken, before any layer has been asked. -/
def Write.untaken {α : Type} (catalog : String) : Write ρ α → StoreError
  | .add _ => .unavailable catalog "no providers configured"
  | .update record => .missing ρ (Record.id record)
  | .delete id => .missing ρ id

mutual

def Store.write : Store ρ → {α : Type} → Write ρ α → World → Outcome (Store ρ) α
  | .memory table, _, write, world =>
    let (answer, table, world) := table.write write world
    (answer, .memory table, world)
  | .closed, _, write, world => (.error (denied ρ write.kind), .closed, world)
  | .fixed label records, _, _, world => (.error (readOnly label), .fixed label records, world)
  | .files folder, _, write, world =>
    let (answer, world) := folder.write write world
    (answer, .files folder, world)
  | .layered catalog layers, _, write, world =>
    let (answer, layers, world) := layers.write (write.untaken catalog) write world
    (answer, .layered catalog layers, world)
  | .faulty error refused inner, _, write, world =>
    if write.kind ∈ refused then (.error error, .faulty error refused inner, world)
    else
      let (answer, inner, world) := inner.write write world
      (answer, .faulty error refused inner, world)
  | .scoped scope inner, _, write, world =>
    match scope.plan (inner.readings world.disk) write with
    | .refuse error => (.error error, .scoped scope inner, world)
    | .add record answer =>
      let (written, inner, world) := inner.write (.add record) world
      (written.bind answer, .scoped scope inner, world)
    | .update record answer =>
      let (written, inner, world) := inner.write (.update record) world
      (written.bind fun _ => answer, .scoped scope inner, world)
    | .delete id answer =>
      let (written, inner, world) := inner.write (.delete id) world
      (written.bind fun _ => answer, .scoped scope inner, world)

/-- The first layer that takes the write has it. A layer that cannot is passed over, and the last
refusal stands if none can; any other refusal ends the search. -/
def Layers.write : Layers ρ → StoreError → {α : Type} → Write ρ α → World → Outcome (Layers ρ) α
  | .nil, refusal, _, _, world => (.error refusal, .nil, world)
  | .cons name store rest, _, _, write, world =>
    match store.write write world with
    | (.ok answer, store, world) => (.ok answer, .cons name store rest, world)
    | (.error error, store, world) =>
      if error.fallsThrough then
        let (answer, rest, world) := rest.write error write world
        (answer, .cons name store rest, world)
      else (.error error, .cons name store rest, world)

end

/-- The record that stands under an id from now on: the one there is, or this one. -/
def Store.ensure (store : Store ρ) (record : ρ) (world : World) : Outcome (Store ρ) ρ :=
  match (store.readings world.disk).get (Record.id record) with
  | .ok found => (.ok found, store, world)
  | .error error =>
    if error.isNotFound then store.write (.add record) world else (.error error, store, world)

end Writing

/-! ### Shape -/

section Shape

variable {ρ : Type} [Record ρ]

def Layers.ofList : List (String × Store ρ) → Layers ρ
  | [] => .nil
  | (name, store) :: rest => .cons name store (ofList rest)

def Layers.toList : Layers ρ → List (String × Store ρ)
  | .nil => []
  | .cons name store rest => (name, store) :: rest.toList

@[simp] theorem Layers.toList_ofList (layers : List (String × Store ρ)) :
    (Layers.ofList layers).toList = layers := by
  induction layers with
  | nil => rfl
  | cons layer rest ih => simp [ofList, toList, ih]

/-- The store that the scopes on top stand over. -/
def Store.unscoped : Store ρ → Store ρ
  | .scoped _ inner => inner.unscoped
  | store => store

end Shape

/-- The default organization is the same for everyone, whatever scope they look through. -/
def Store.defaultOrganization (store : Store Organization) (disk : Disk) :
    Except StoreError Organization :=
  (store.unscoped.readings disk).get Organization.defaultId

end TenantConsole
