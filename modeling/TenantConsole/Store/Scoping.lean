import TenantConsole.Record.Organization
import TenantConsole.Record.User
import TenantConsole.Store.Readings

/-!
# Scopes

A scope confines a store to what one organization may see of it. It says how the store reads from
inside, and what becomes of a write: a refusal, or one write to the store below. A record outside
the scope is refused like one that does not exist.
-/

namespace TenantConsole

/-- A change to a store, indexed by what it answers. -/
inductive Write (ρ : Type) : Type → Type where
  | add (record : ρ) : Write ρ ρ
  | update (record : ρ) : Write ρ Unit
  | delete (id : String) : Write ρ Unit

/-- What a write under a scope does: refuse it, or write to the store below and say what that
write's answer means inside the scope. -/
inductive Plan (ρ α : Type) where
  | refuse (error : StoreError)
  | add (record : ρ) (answer : ρ → Except StoreError α)
  | update (record : ρ) (answer : Except StoreError α)
  | delete (id : String) (answer : Except StoreError α)

structure Scoping (ρ : Type) where
  readings : Readings ρ → Readings ρ
  add : Readings ρ → ρ → Plan ρ ρ
  update : Readings ρ → ρ → Plan ρ Unit
  delete : Readings ρ → String → Plan ρ Unit

namespace Scoping

def plan {ρ α : Type} (scope : Scoping ρ) (below : Readings ρ) : Write ρ α → Plan ρ α
  | .add record => scope.add below record
  | .update record => scope.update below record
  | .delete id => scope.delete below id

/-- Reads a store through a view that shows a record in part or not at all. -/
def viewed {ρ : Type} [Record ρ] (view : ρ → Option ρ) (below : Readings ρ) : Readings ρ where
  all := below.all.map (List.filterMap view)
  get id := match below.get id with
    | .error e => .error e
    | .ok record => Readings.orMissing id (view record)
  find query := match below.find query with
    | .error e => .error e
    | .ok record => Readings.orMissing (Record.id record) (view record)

/-! ### Owned records -/

section Owned

variable {ρ : Type} [Owned ρ]

def ownedView (organization : String) (record : ρ) : Option ρ :=
  if Owned.owner record = organization then some record else none

/-- The records that an organization owns. What is written becomes its own, whatever owner the
caller names. -/
def owned (organization : String) : Scoping ρ where
  readings := viewed (ownedView organization)
  add _ record := .add (Owned.withOwner organization record) .ok
  update below record :=
    match (viewed (ownedView organization) below).get (Record.id record) with
    | .error e => .refuse e
    | .ok _ => .update (Owned.withOwner organization record) (.ok ())
  delete below id :=
    match (viewed (ownedView organization) below).get id with
    | .error e => .refuse e
    | .ok _ => .delete id (.ok ())

end Owned

/-! ### Members -/

/-- The role that a submitted user has in the organization; it may have no other. -/
def submittedRole (organization : String) (user : User) : Except StoreError Role :=
  match user.roles.find? fun role => role.organization ≠ organization with
  | some foreign =>
    .error <| .invalid <|
      s!"role for organization '{foreign.organization}' cannot be assigned "
        ++ s!"from organization '{organization}'"
  | none =>
    match user.roleIn? organization with
    | some role => .ok role
    | none => .error <| .invalid s!"user must have a role in organization '{organization}'"

/-- The stored user behind an id, all its roles included, if it is a member. -/
def member (organization : String) (below : Readings User) (id : String) : Except StoreError User :=
  match below.get id with
  | .error e => .error e
  | .ok user => if user.hasRoleIn organization then .ok user else .error (.missing User id)

/-- What a user is looked up by across the organizations. -/
def identityQuery (identity : Identity) : Query User :=
  ⟨s!"{identity.provider}/{identity.scheme}/{identity.name}", fun user => user.identity = identity⟩

def unpersisted : StoreError := .backend "membership was not persisted"

/-- The member that a write has left, as the organization sees it. -/
def seenMember (organization : String) (user : User) : Except StoreError User :=
  match user.seenIn? organization with
  | some seen => .ok seen
  | none => .error unpersisted

/-- The users with a role in an organization, each shown with that one role. Adding a user whose
identity exists makes it a member, and deleting a user ends its membership. -/
def membership (organization : String) : Scoping User where
  readings := viewed fun user => user.seenIn? organization
  add below user :=
    match submittedRole organization user with
    | .error e => .refuse e
    | .ok role =>
      match below.find (identityQuery user.identity) with
      | .ok existing =>
        if existing.hasRoleIn organization then .refuse (.taken User existing.id)
        else
          let joined := existing.holding role
          .update joined (seenMember organization joined)
      | .error e =>
        if e.isNotFound then .add { user with roles := [role] } (seenMember organization)
        else .refuse e
  update below user :=
    match submittedRole organization user with
    | .error e => .refuse e
    | .ok role =>
      match member organization below user.id with
      | .error e => .refuse e
      | .ok current => .update { current.holding role with superAdmin := user.superAdmin } (.ok ())
  delete below id :=
    match member organization below id with
    | .error e => .refuse e
    | .ok current => .update (current.leaving organization) (.ok ())

/-! ### The organization itself -/

/-- An organization as the only one there is. It can be changed from inside, but neither created nor
deleted. -/
def itself (organization : String) : Scoping Organization where
  readings below :=
    let listing : Except StoreError (List Organization) :=
      match below.get organization with
      | .ok record => .ok [record]
      | .error e => if e.isNotFound then .ok [] else .error e
    { all := listing
      get := fun id =>
        if id = organization then below.get id else .error (.missing Organization id)
      find := Readings.search listing }
  add _ _ := .refuse (.unauthorized "organizations can only be created by a super admin")
  update _ record :=
    if record.id = organization then .update record (.ok ())
    else .refuse (.missing Organization record.id)
  delete _ _ := .refuse (.unauthorized "organizations can only be deleted by a super admin")

end Scoping

end TenantConsole
