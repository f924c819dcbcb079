import TenantConsole.Store.Basic

/-!
# Parts of a store

A part is named by the way down to it: the place of a layer at every chain, and any number at a
store that stands over one other. Putting a part back where it was taken from changes nothing. A
chain can also be found by its catalog.
-/

namespace TenantConsole

variable {ρ : Type} [Record ρ]

mutual

def Store.part? : Store ρ → List Nat → Option (Store ρ)
  | store, [] => some store
  | .layered _ layers, index :: way => layers.part? index way
  | .faulty _ _ inner, _ :: way => inner.part? way
  | .scoped _ inner, _ :: way => inner.part? way
  | .memory _, _ :: _ => none
  | .closed, _ :: _ => none
  | .fixed _ _, _ :: _ => none
  | .files _, _ :: _ => none

def Layers.part? : Layers ρ → Nat → List Nat → Option (Store ρ)
  | .nil, _, _ => none
  | .cons _ store _, 0, way => store.part? way
  | .cons _ _ rest, index + 1, way => rest.part? index way

end

mutual

/-- The store with another part in the place that a way leads to. -/
def Store.withPart : Store ρ → List Nat → Store ρ → Store ρ
  | _, [], part => part
  | .layered catalog layers, index :: way, part =>
    .layered catalog (layers.withPart index way part)
  | .faulty error refused inner, _ :: way, part => .faulty error refused (inner.withPart way part)
  | .scoped scope inner, _ :: way, part => .scoped scope (inner.withPart way part)
  | .memory table, _ :: _, _ => .memory table
  | .closed, _ :: _, _ => .closed
  | .fixed label records, _ :: _, _ => .fixed label records
  | .files folder, _ :: _, _ => .files folder

def Layers.withPart : Layers ρ → Nat → List Nat → Store ρ → Layers ρ
  | .nil, _, _, _ => .nil
  | .cons name store rest, 0, way, part => .cons name (store.withPart way part) rest
  | .cons name store rest, index + 1, way, part => .cons name store (rest.withPart index way part)

end

/-! ### Chains -/

mutual

/-- The names of the layers of the first chain for a catalog, looked for from the top down. -/
def Store.layerNames? (catalog : String) : Store ρ → Option (List String)
  | .layered name layers =>
    if name = catalog then some (layers.toList.map Prod.fst) else layers.layerNames? catalog
  | .faulty _ _ inner => inner.layerNames? catalog
  | .scoped _ inner => inner.layerNames? catalog
  | .memory _ => none
  | .closed => none
  | .fixed _ _ => none
  | .files _ => none

def Layers.layerNames? (catalog : String) : Layers ρ → Option (List String)
  | .nil => none
  | .cons _ store rest => (store.layerNames? catalog).or (rest.layerNames? catalog)

end

end TenantConsole
