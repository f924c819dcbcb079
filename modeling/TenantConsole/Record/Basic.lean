import TenantConsole.Record.Format

/-!
# Records

What a kind of stored value has to offer: a name for its kind, an id, and the forms in which it is
written and read. A record of some kinds belongs to one organization, its owner.
-/

namespace TenantConsole

class Record (ρ : Type) where
  /-- How messages name a record of this kind. -/
  kind : String
  id : ρ → String
  withId : String → ρ → ρ
  /-- The members in the order of their declaration. -/
  toJson : ρ → Json
  format : Format ρ
  id_withId : ∀ (newId : String) (record : ρ), id record = "" → id (withId newId record) = newId

class Owned (ρ : Type) extends Record ρ where
  owner : ρ → String
  withOwner : String → ρ → ρ
  owner_withOwner : ∀ (organization : String) (record : ρ),
    owner (withOwner organization record) = organization
  id_withOwner : ∀ (organization : String) (record : ρ),
    id (withOwner organization record) = id record
  owner_withId : ∀ (newId : String) (record : ρ), owner (withId newId record) = owner record

namespace Record

variable {ρ : Type} [Record ρ]

/-- The record as a file holds it. -/
def page (record : ρ) : String := (toJson record).indented

/-- The record that a text holds. -/
def ofText (text : String) : Except Json.ReadError ρ := format.readAll text

end Record

end TenantConsole
