import TenantConsole.Record.Basic
import TenantConsole.Store.Disk

/-!
# What stores share

Ids for new records come from one sequence, and files lie on one disk. An id that has been drawn is
not drawn again, whatever becomes of the record it was drawn for.
-/

namespace TenantConsole

structure World where
  /-- The sequence of ids for new records. -/
  ids : Nat → String
  /-- How many of them have been drawn. -/
  drawn : Nat := 0
  disk : Disk := []

namespace World

def nextId (world : World) : String := world.ids (world.drawn + 1)

variable {ρ : Type} [Record ρ]

/-- Whether a record still needs an id. -/
def lacksId (record : ρ) : Bool := Record.id record = ""

/-- The record, with the next id where it has none. -/
def named (record : ρ) (world : World) : ρ :=
  if lacksId record then Record.withId world.nextId record else record

/-- The world after a record has been named. -/
def afterNaming (record : ρ) (world : World) : World :=
  if lacksId record then { world with drawn := world.drawn + 1 } else world

/-- Names the records of a list in its order. -/
def nameAll : List ρ → World → List ρ × World
  | [], world => ([], world)
  | record :: rest, world =>
    let (named, after) := nameAll rest (world.afterNaming record)
    (world.named record :: named, after)

end World

end TenantConsole
