import TenantConsole.Proofs.Sweeps

/-!
# What creating and deleting an organization does to users

Both are for super admins, and a super admin is needed before anything is written: for any other
session the scope refuses the write, and the state stays what it was.

Where they go through, users are rewritten one by one. `Stripping` is stated between the users
before and after the whole pass: each is what it was, or it has left the organization.
-/

namespace TenantConsole

open Collection

section Services

variable {context : Context} {state : State} {table : Table User}

/-! ## For everyone but super admins -/

/-- Who is no super admin reaches the organization that it acts in, or none. -/
theorem access_organizations_of_ordinary (hsession : context.isServerCall = false)
    (hordinary : context.isSuperAdmin = false) :
    organizations.access context = match context.organization with
      | some organization => .within (.itself organization)
      | none => .nothing := by
  simp only [organizations, Access.ofOrganizations, Context.scope, hsession, hordinary]
  cases context.organization <;> simp

/-- Who is no super admin can neither add nor delete an organization, wherever it acts. -/
theorem organizations_write_ordinary {α : Type} (hsession : context.isServerCall = false)
    (hordinary : context.isSuperAdmin = false) (write : Write Organization α)
    (hkind : write.kind ≠ .update) :
    (organizations.write context write).Sat state fun answer after =>
      (∃ error, answer = .error error) ∧ after = state := by
  have haccess := access_organizations_of_ordinary hsession hordinary
  unfold Script.Sat
  cases hacting : context.organization with
  | none =>
    rw [hacting] at haccess
    rw [run_write_nothing organizations_lawful haccess write]
    exact ⟨⟨_, rfl⟩, rfl⟩
  | some organization =>
    rw [hacting] at haccess
    -- within one organization the scope refuses additions and deletions outright
    cases write with
    | add record =>
      rw [run_write_refused organizations_lawful haccess rfl]
      exact ⟨⟨_, rfl⟩, rfl⟩
    | update record => exact absurd rfl hkind
    | delete id =>
      rw [run_write_refused organizations_lawful haccess rfl]
      exact ⟨⟨_, rfl⟩, rfl⟩

/-- What follows a refused write is not reached. -/
theorem sat_after_refusal {ε ε' α β : Type} {script : Script State ε α} {f : ε → ε'}
    {next : α → Script State ε' β}
    (h : script.Sat state fun answer after => (∃ error, answer = .error error) ∧ after = state) :
    (script.orFail f >>= next).Sat state fun _ after => after = state := by
  rw [Script.sat_bind, Script.sat_orFail]
  refine h.mono ?_
  rintro _ _ ⟨⟨error, rfl⟩, rfl⟩
  rfl

/-- Creating an organization changes nothing if the caller is no super admin. -/
theorem create_organization_ordinary (hsession : context.isServerCall = false)
    (hordinary : context.isSuperAdmin = false) (organization : Organization) :
    (Organizations.create context organization).Sat state fun _ after => after = state := by
  unfold Organizations.create
  split
  · rfl
  split
  · rfl
  · exact sat_after_refusal (organizations_write_ordinary hsession hordinary _ nofun)

theorem delete_organization_ordinary (hsession : context.isServerCall = false)
    (hordinary : context.isSuperAdmin = false) (id : String) :
    (Organizations.delete context id).Sat state fun _ after => after = state := by
  unfold Organizations.delete
  refine .after_reading (get_readOnly _ _ _).orFail (fun organization _ => ?_) fun _ _ => rfl
  split
  · rfl
  · exact sat_after_refusal (organizations_write_ordinary hsession hordinary _ nofun)

/-! ## For super admins -/

/-- The stored users, where they lie in memory. -/
def State.HoldsUsers (change : Table User → Prop) (state : State) : Prop :=
  ∃ table, state.stores.users = .memory table ∧ change table

/-- Where nothing but the users has changed, they are a table that the change allows. -/
theorem State.UsersBecome.holds {before after : State} {change : Table User → Prop}
    (h : before.UsersBecome change after) : after.HoldsUsers change := by
  obtain ⟨table, hwith, hchange⟩ := h
  exact ⟨table, hwith.users, hchange⟩

/-- No write to another collection reaches the users. -/
theorem organizations_keep_users {α : Type} (context : Context) (write : Write Organization α) :
    (organizations.write context write).Keeps (·.stores.users) := fun _ => rfl

/-- A write to the mappings leaves the users. -/
theorem mappings_keep_users {α : Type} (context : Context) (write : Write Mapping α) :
    (mappings.write context write).Keeps (·.stores.users) := fun _ => rfl

/-- **Whoever creates an organization is admitted to one as its admin, or no user changes.** -/
theorem create_organization_sat (hsession : context.isServerCall = false)
    (hstore : state.stores.users = .memory table) (organization : Organization) :
    (Organizations.create context organization).Sat state fun _ => State.HoldsUsers fun after =>
      after = table ∨ ∃ creator acting answer, context.user = some creator
        ∧ Admission acting table { creator with roles := [⟨acting, .admin⟩] } answer after := by
  unfold Organizations.create
  split
  · exact ⟨table, hstore, .inl rfl⟩
  -- a default role that is the wildcard is refused
  split
  · exact ⟨table, hstore, .inl rfl⟩
  refine .after_keeping (organizations_keep_users _ _).orFail (fun created after hafter => ?_)
    fun error after hafter => ⟨table, hafter.trans hstore, .inl rfl⟩
  refine .then_reading ?_ fun _ => .pure _
  unfold Organizations.enrolCreator
  -- a call without a stored user creates the organization and enrols nobody
  cases context.user with
  | none => exact ⟨table, hafter.trans hstore, .inl rfl⟩
  | some creator =>
    refine .then_reading ?_ fun _ => .pure _
    rw [Script.sat_orFail]
    have hacting : (context.actingIn created.id).isServerCall = false := hsession
    refine (session_write_sat hacting (hafter.trans hstore) _).mono fun {_ last} h => ?_
    have hbecome : after.UsersBecome (fun after => after = table ∨ ∃ creator' acting answer,
        some creator = some creator'
          ∧ Admission acting table { creator' with roles := [⟨acting, .admin⟩] } answer after)
        last := by
      refine h.become (.inl rfl) ?_
      rintro _ _ ⟨acting, hacting, hadmission⟩
      cases hacting
      exact .inr ⟨creator, _, _, rfl, hadmission⟩
    exact hbecome.holds

/-- How a stored user may come out of the deletion of an organization. -/
def StrippedOf (organization : String) (before after : User) : Prop :=
  after = before ∨ after = before.leaving organization

/-- The users before and after their roles in an organization are taken. None comes in. -/
abbrev Stripping (organization : String) (before after : Table User) : Prop :=
  Table.Evolves (StrippedOf organization) (fun _ => False) before after

/-- Users that have left in their places. -/
theorem stripping_of_rows {after : Table User} {id : String}
    (hleft : after.rows = table.rows.map (·.leaving id)) : Stripping id table after where
  keeps {key user} hfound := by
    obtain ⟨hmem, hid⟩ := Table.get?_eq_some_iff.1 hfound
    refine ⟨user.leaving id, Table.get?_eq_some_iff.2 ⟨?_, hid⟩, .inr rfl⟩
    rw [hleft]
    exact List.mem_map_of_mem hmem
  freshens {key user} hnone hfound := by
    obtain ⟨hmem, hid⟩ := Table.get?_eq_some_iff.1 hfound
    rw [hleft] at hmem
    obtain ⟨before, hbefore, rfl⟩ := List.mem_map.1 hmem
    exact Table.get?_eq_none_iff.1 hnone before hbefore hid

theorem dropMappings_keep_users (id : String) (listed : List Mapping) :
    (Organizations.dropMappings id listed).Keeps (·.stores.users) := by
  induction listed with
  | nil => exact .pure _
  | cons mapping rest ih =>
    unfold Organizations.dropMappings
    split
    · exact .bind (mappings_keep_users .server (.delete mapping.id)).orFail fun _ => ih
    · exact ih

/-- The console itself lists the users as they are stored. -/
theorem users_all_server {listed : List User} (hstore : state.stores.users = .memory table)
    (h : ((users.all .server).run state).1 = .ok listed) : listed = table.rows := by
  have hreads : (users.readings .server state).all = .ok table.rows := by
    show (Store.readings state.world.disk (users.store state.stores)).all = _
    rw [show users.store state.stores = .memory table from hstore]
    rfl
  rw [run_all, hreads] at h
  cases h
  rfl

/-- **Whoever deletes an organization takes its roles from users, and nothing else of them.** -/
theorem delete_organization_sat (context : Context) (hstore : state.stores.users = .memory table)
    (id : String) :
    (Organizations.delete context id).Sat state fun _ => State.HoldsUsers (Stripping id table) := by
  have hrefl : Stripping id table table := .refl (fun _ => .inl rfl) table
  unfold Organizations.delete
  refine .after_reading (get_readOnly _ _ _).orFail (fun organization _ => ?_)
    fun _ _ => ⟨table, hstore, hrefl⟩
  split
  · exact ⟨table, hstore, hrefl⟩
  refine .after_keeping (organizations_keep_users _ _).orFail (fun _ deleted hdeleted => ?_)
    fun _ deleted hdeleted => ⟨table, hdeleted.trans hstore, hrefl⟩
  have hstore' := hdeleted.trans hstore
  refine .after_reading (all_readOnly _ _).orFail (fun listed hlisted => ?_)
    fun _ _ => ⟨table, hstore', hrefl⟩
  -- the roles are taken from the users as they are listed once the organization is gone
  obtain rfl := users_all_server hstore' (Script.ok_of_orFail hlisted)
  obtain ⟨table', hleft, hrun⟩ := run_stripRoles id hstore' (List.nil_append table.rows).symm
  have hchange : Stripping id table table' := stripping_of_rows hleft
  refine .after_run hrun ?_
  refine .after_reading (all_readOnly _ _).orFail (fun found _ => ?_)
    fun _ _ => ⟨table', rfl, hchange⟩
  exact ⟨table', dropMappings_keep_users id found _, hchange⟩

end Services

end TenantConsole
