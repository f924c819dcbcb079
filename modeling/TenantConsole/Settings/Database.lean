import TenantConsole.Settings.Basic
import TenantConsole.Settings.DatabaseOptions
import TenantConsole.Store.Error

/-!
# The primary database

What is checked before the database is called: its name, which becomes part of the address, the URL
of the server, and what the URL says about the connection.
-/

namespace TenantConsole

inductive DatabaseError where
  | invalidUrl
  | invalidName (name : String)
  | serialization (reason : String)
  | connection (reason : String)
  deriving DecidableEq

namespace DatabaseError

def message : DatabaseError → String
  | invalidUrl => "Invalid database URL"
  | invalidName name => s!"Invalid database name: {name}"
  | serialization reason => s!"Serialization error: {reason}"
  | connection reason => reason

/-- A store that cannot reach its database. -/
def toStoreError (error : DatabaseError) : StoreError := .backend error.message

end DatabaseError

namespace DatabaseSettings

/-- Letters, digits and underscores, all of them ASCII. -/
def isName (name : String) : Bool :=
  name ≠ "" && name.toList.all fun c => c.isAlphanum || c = '_'

/-- What keeps the database from being called. -/
def check (settings : DatabaseSettings) : Except DatabaseError Unit :=
  if ¬ isName settings.name then .error (.invalidName settings.name)
  else
    match Url.parse settings.url with
    | .error _ => .error .invalidUrl
    | .ok url => (DatabaseOptions.check url).mapError fun fault => .connection fault.message

end DatabaseSettings

end TenantConsole
