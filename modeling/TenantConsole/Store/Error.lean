import TenantConsole.Record.Basic

/-!
# Store errors

Why a store refuses a call. A record that a scope hides is refused like one that does not exist.
-/

namespace TenantConsole

inductive StoreError where
  | notFound (kind id : String)
  | unauthorized (reason : String)
  | invalid (reason : String)
  | unavailable (catalog reason : String)
  | conflict (kind id : String)
  | unsupported (reason : String)
  | backend (reason : String)
  deriving DecidableEq

namespace StoreError

def message : StoreError → String
  | notFound kind id => s!"{kind} not found: {id}"
  | unauthorized reason => s!"unauthorized: {reason}"
  | invalid reason => s!"validation failed: {reason}"
  | unavailable catalog reason => s!"{catalog} unavailable: {reason}"
  | conflict kind id => s!"{kind} already exists: {id}"
  | unsupported reason => s!"operation not supported: {reason}"
  | backend reason => s!"backend error: {reason}"

/-- The refusal of an id that no record of this kind has. -/
def missing (ρ : Type) [Record ρ] (id : String) : StoreError := notFound (Record.kind ρ) id

/-- The refusal of an id that a record of this kind has already. -/
def taken (ρ : Type) [Record ρ] (id : String) : StoreError := conflict (Record.kind ρ) id

def isNotFound : StoreError → Bool
  | notFound .. => true
  | _ => false

/-- Whether a chain asks its next layer after this refusal. -/
def fallsThrough : StoreError → Bool
  | notFound .. | unsupported _ | backend _ | unavailable .. => true
  | _ => false

end StoreError

end TenantConsole
