import TenantConsole.Proofs.Requests

/-!
# Invariants that speak of roles

What holds of the roles of all stored users holds on, because a role is put among others in two ways
only: a tenant's write replaces the role in its organization (`User.holding`), and a login grants
one role for each organization. `RoleInvariant` is what an invariant has to provide for the two; in
turn it gets every call on the users for nothing.

* **`Script.Upholds`** is the judgement: an invariant of the state holds on, and what the script
  answers is of a kind. The answer is how one step hands its part to the next, as the organization
  that has been looked up hands on its default role.
* **The leaves** are the calls on the users, by the console itself and by a session.
-/

namespace TenantConsole

open Collection

/-! ## Invariants of scripts -/

namespace Script

variable {σ ε ε' α β : Type}

/-- From a state of which `inv` holds the script ends in such a state, and what it answers, if it
answers, is one of these. -/
def Upholds (inv : σ → Prop) (script : Script σ ε α) (gives : α → Prop) : Prop :=
  ∀ state, inv state → inv (script.run state).2
    ∧ ∀ value, (script.run state).1 = .ok value → gives value

namespace Upholds

variable {inv : σ → Prop} {script : Script σ ε α} {gives gives' : α → Prop}

theorem pure {value : α} (h : gives value) :
    (Pure.pure value : Script σ ε α).Upholds inv gives :=
  fun _ hinv => ⟨hinv, fun _ hvalue => by cases hvalue; exact h⟩

theorem fail {error : ε} : (Script.fail error : Script σ ε α).Upholds inv gives :=
  fun _ hinv => ⟨hinv, nofun⟩

/-- A result that is there already has to be of the kind. -/
theorem ofExcept {result : Except ε α} (h : ∀ value, result = .ok value → gives value) :
    (Script.ofExcept result : Script σ ε α).Upholds inv gives :=
  fun _ hinv => ⟨hinv, h⟩

/-- **The step.** What the first script gives is all that the next one may count on. -/
theorem bind {next : α → Script σ ε β} {gives' : β → Prop} (h : script.Upholds inv gives)
    (hnext : ∀ value, gives value → (next value).Upholds inv gives') :
    (script >>= next).Upholds inv gives' := by
  intro state hinv
  obtain ⟨hafter, hgives⟩ := h state hinv
  rw [run_bind]
  -- a failure of the first script is the failure of both
  rcases hrun : script.run state with ⟨error | value, after⟩ <;> rw [hrun] at hafter hgives
  · exact ⟨hafter, nofun⟩
  · exact hnext value (hgives value rfl) after hafter

theorem orFail {f : ε → ε'} (h : script.Upholds inv gives) :
    (script.orFail f).Upholds inv gives := by
  intro state hinv
  obtain ⟨hafter, hgives⟩ := h state hinv
  refine ⟨?_, fun value hvalue => hgives value (ok_of_orFail hvalue)⟩
  rw [run_orFail]
  exact hafter

/-- What is given may be described more loosely. -/
theorem mono (h : script.Upholds inv gives) (hgives : ∀ value, gives value → gives' value) :
    script.Upholds inv gives' :=
  fun state hinv =>
    ⟨(h state hinv).1, fun value hvalue => hgives value ((h state hinv).2 value hvalue)⟩

/-- Looking upholds everything. -/
theorem of_reading (hread : script.ReadOnly)
    (h : ∀ state value, inv state → (script.run state).1 = .ok value → gives value) :
    script.Upholds inv gives := by
  intro state hinv
  have hstate : (script.run state).2 = state := hread state
  exact ⟨hstate.symm ▸ hinv, fun value hvalue => h state value hinv hvalue⟩

theorem looks (hread : script.ReadOnly) : script.Upholds inv fun _ => True :=
  .of_reading hread fun _ _ _ _ => trivial

/-- Passing over a prefix that only looks. -/
theorem after_reading {next : α → Script σ ε β} {gives' : β → Prop} (hread : script.ReadOnly)
    (hnext : ∀ value, (next value).Upholds inv gives') : (script >>= next).Upholds inv gives' :=
  .bind (.looks hread) fun value _ => hnext value

/-- What a run leaves, where the invariant is more than is asked for. -/
theorem sat {state : σ} {post : σ → Prop} (h : script.Upholds inv gives)
    (hpost : ∀ {state}, inv state → post state) (hinv : inv state) :
    script.Sat state fun _ => post :=
  hpost (h state hinv).1

end Upholds

end Script

/-! ## Invariants -/

/-- An invariant of the state under which the roles of every stored user `fit`. A `good` role can be
given to anybody, and an organization that is found has good roles to give. -/
structure RoleInvariant (inv : State → Prop) (fits : List Role → Prop) (good : Role → Prop) :
    Prop where
  users : ∀ {state}, inv state → ∃ table, state.stores.users = .memory table
    ∧ ∀ user ∈ table.rows, fits user.roles
  withUsers : ∀ {state after table}, inv state → state.WithUsers table after →
    (∀ user ∈ table.rows, fits user.roles) → inv after
  unscoped : ∀ {state}, inv state → state.stores.organizations.unscoped = state.stores.organizations
  found : ∀ {state id organization}, inv state →
    (state.stores.organizations.readings state.world.disk).get id = .ok organization →
    organization.id = id ∧ good ⟨organization.id, organization.defaultRole⟩
      ∧ ∀ name, name ≠ .wildcard → good ⟨organization.id, name⟩
  granted : ∀ {roles}, (roles.map Role.organization).Nodup → (∀ role ∈ roles, good role) →
    fits roles
  holding : ∀ {user : User} {role}, fits user.roles → good role → fits (user.holding role).roles

namespace RoleInvariant

variable {inv : State → Prop} {fits : List Role → Prop} {good : Role → Prop}

/-- A single good role fits: it names one organization. -/
theorem single (h : RoleInvariant inv fits good) {role : Role} (hrole : good role) : fits [role] :=
  h.granted (by simp) fun other hother => List.mem_singleton.1 hother ▸ hrole

end RoleInvariant

/-! ## Calls on the users -/

section Users

variable {inv : State → Prop} {fits : List Role → Prop} {good : Role → Prop} {context : Context}
  {user : User}

/-- A table of fitting users stays one if the new user fits. -/
theorem fitting_insert {table : Table User} (h : ∀ user ∈ table.rows, fits user.roles)
    (hnew : fits user.roles) : ∀ other ∈ (table.insert user).rows, fits other.roles := by
  intro other hother
  rcases Table.mem_putRow hother with rfl | hrow
  · exact hnew
  · exact h other hrow

variable (h : RoleInvariant inv fits good)

include h

/-- **A call that leaves fitting users upholds the invariant.** -/
theorem users_upholds {α : Type} {script : StoreScript α}
    {change : Table User → α → Table User → Prop}
    (hsat : ∀ (state : State) (table : Table User), state.stores.users = .memory table →
      script.Sat state (state.UsersSettle table (change table)))
    (hchange : ∀ {table : Table User} {value : α} {after : Table User},
      (∀ user ∈ table.rows, fits user.roles) → change table value after →
      ∀ user ∈ after.rows, fits user.roles) :
    script.Upholds inv fun _ => True := by
  intro state hinv
  refine ⟨?_, fun _ _ => trivial⟩
  obtain ⟨table, hstore, husers⟩ := h.users hinv
  -- the call has failed and left the table, or it has changed the table as it says
  obtain ⟨after, hwith, ⟨-, rfl⟩ | ⟨value, -, hvalue⟩⟩ := hsat state table hstore
  · exact h.withUsers hinv hwith husers
  · exact h.withUsers hinv hwith (hchange husers hvalue)

/-- The console itself adds a user with all its roles, under an id that may be drawn. -/
theorem server_add_upholds (huser : fits user.roles) :
    (users.add .server user).Upholds inv fun _ => True := by
  refine users_upholds h (fun state table hstore => server_write_sat hstore (.add user)) ?_
  rintro table value after husers ⟨world, rfl, -, rfl⟩
  obtain ⟨id, hid⟩ := User.named_cases user world
  rw [hid]
  exact fitting_insert husers huser

theorem server_update_upholds (huser : fits user.roles) :
    (users.update .server user).Upholds inv fun _ => True := by
  refine users_upholds h (fun state table hstore => server_write_sat hstore (.update user)) ?_
  rintro table value after husers ⟨-, rfl⟩
  exact fitting_insert husers huser

omit h in
/-- The role that a session submits is one of the user's. -/
theorem good_of_submittedRole {organization : String} {role : Role}
    (huser : ∀ role ∈ user.roles, good role)
    (hrole : Scoping.submittedRole organization user = .ok role) : good role :=
  huser role (List.mem_of_find?_eq_some (submittedRole_ok hrole).1)

/-- A session adds users with one role, in the place of the one that they had there. -/
theorem session_add_upholds (hsession : context.isServerCall = false)
    (huser : ∀ role ∈ user.roles, good role) :
    (users.add context user).Upholds inv fun _ => True := by
  refine users_upholds h
    (fun state table hstore => session_write_sat hsession hstore (.add user)) ?_
  rintro table value after husers ⟨organization, -, hadmission⟩
  cases hadmission with
  -- the user is there already, and the role joins the others
  | @joined existing role hrole hfound houtside =>
    have hexisting : fits existing.roles := husers existing (List.mem_of_find?_eq_some hfound)
    exact fitting_insert husers (h.holding hexisting (good_of_submittedRole huser hrole))
  | created hrole hunknown hfree =>
    exact fitting_insert husers (h.single (good_of_submittedRole huser hrole))

/-- A session that changes a user puts one role in its place. -/
theorem session_update_upholds (hsession : context.isServerCall = false)
    (huser : ∀ role ∈ user.roles, good role) :
    (users.update context user).Upholds inv fun _ => True := by
  refine users_upholds h
    (fun state table hstore => session_write_sat hsession hstore (.update user)) ?_
  rintro table value after husers ⟨organization, -, hreassignment⟩
  cases hreassignment with
  | @changed current role hrole hfound hmember =>
    have hcurrent : fits current.roles := husers current (Table.get?_eq_some_iff.1 hfound).1
    exact fitting_insert husers (h.holding hcurrent (good_of_submittedRole huser hrole))

/-- What the console lists of the users is what is stored, so their roles fit. -/
theorem users_all_upholds :
    (users.all .server).Upholds inv fun listed => ∀ user ∈ listed, fits user.roles := by
  refine .of_reading (all_readOnly _ _) fun state listed hinv hlisted => ?_
  obtain ⟨table, hstore, husers⟩ := h.users hinv
  rw [users_all_server hstore hlisted]
  exact husers

theorem users_find?_upholds (identity : Identity) :
    (users.find? .server (Scoping.identityQuery identity)).Upholds inv
      fun found => ∀ user, found = some user → fits user.roles := by
  refine .of_reading (find?_readOnly _ _ _) fun state found hinv hfound => ?_
  obtain ⟨table, hstore, husers⟩ := h.users hinv
  -- the user that is found is a stored one
  have hknown := find?_knownAs hstore hfound
  rintro user rfl
  exact husers user (List.mem_of_find?_eq_some hknown)

end Users

end TenantConsole
