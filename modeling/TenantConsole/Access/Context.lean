import TenantConsole.Record.User

/-!
# Contexts

On whose behalf a call is made, and what that lets it reach. Calls of the console itself reach
everything. A super admin reaches everything that is administered globally, but tenant data only
inside the organization it acts in, like any other user. Without an organization nothing is reached.
-/

namespace TenantConsole

structure Context where
  isServerCall : Bool := false
  isSuperAdmin : Bool := false
  /-- The organization that the caller acts in. -/
  organization : Option String := none
  user : Option User := none

/-- Whether records are parted by organization or administered as a whole. -/
inductive Partition where
  | tenant
  | global
  deriving DecidableEq

/-- How much of a store a call reaches. -/
inductive Scope where
  | server
  | superAdmin
  | tenant (organization : String)
  | denied
  deriving DecidableEq

namespace Context

/-- The console itself. -/
def server : Context := { isServerCall := true }

def anonymous : Context := {}

def forUser (user : User) (organization : Option String) : Context :=
  { isSuperAdmin := user.superAdmin, organization, user := some user }

/-- The same caller, acting in another organization. -/
def actingIn (context : Context) (organization : String) : Context :=
  { context with organization := some organization }

def scope (context : Context) (partition : Partition) : Scope :=
  if context.isServerCall then .server
  else if partition = .global ∧ context.isSuperAdmin then .superAdmin
  else
    match context.organization with
    | some organization => .tenant organization
    | none => .denied

end Context

end TenantConsole
