import TenantConsole.Proofs.UserServices

/-!
# Sweeps

Deleting an organization is followed by two passes: one takes its roles from every user, the other
removes the mappings that lead to it. Each goes through a listing that was read before, row by row,
and writes to the table that the listing was read from. What carries the induction is how far the
pass has come: the table has the rows that are done, and after them those of the listing that are
still to come. So each row is found when it is its turn, the write goes through, and the table stays
in that shape.

* **`run_stripRoles`**: in the end every user has left, in its place, with its roles elsewhere.
* **`run_dropMappings`**: in the end the mappings are there that lead elsewhere, in their order.
* **`run_sweep`**: one pass after the other. Nothing else is touched, and nothing can fail.
-/

namespace TenantConsole

open Collection

namespace User

/-- A user is outside an organization if none of its roles is there. -/
theorem hasRoleIn_eq_false_iff {user : User} {id : String} :
    user.hasRoleIn id = false ↔ ∀ role ∈ user.roles, role.organization ≠ id := by
  unfold hasRoleIn roleIn?
  simp

theorem organization_ne_of_hasRoleIn {user : User} {id : String}
    (hnone : user.hasRoleIn id = false) {role : Role} (hrole : role ∈ user.roles) :
    role.organization ≠ id :=
  hasRoleIn_eq_false_iff.1 hnone role hrole

/-- All roles of a user that has none in the organization are outside. -/
theorem rolesOutside_eq_self {user : User} {id : String}
    (hroles : ∀ role ∈ user.roles, role.organization ≠ id) : user.rolesOutside id = user.roles :=
  List.filter_eq_self.2 fun role hrole => decide_eq_true (hroles role hrole)

/-- Who is no member has nothing to leave. -/
theorem leaving_eq_self {user : User} {id : String}
    (hroles : ∀ role ∈ user.roles, role.organization ≠ id) : user.leaving id = user := by
  unfold leaving
  rw [rolesOutside_eq_self hroles]

/-- Who is not in an organization cannot leave it. -/
theorem leaving_of_outside {user : User} {id : String} (hnone : user.hasRoleIn id = false) :
    user.leaving id = user :=
  leaving_eq_self fun _ => organization_ne_of_hasRoleIn hnone

end User

section Passes

variable {state : State}

/-- **The pass over the users.** -/
theorem run_stripRoles {table : Table User} (id : String) {done listed : List User}
    (hstore : state.stores.users = .memory table) (hrows : table.rows = done ++ listed) :
    ∃ after : Table User, after.rows = done ++ listed.map (·.leaving id)
      ∧ (Organizations.stripRoles id listed).run state
        = (.ok (), ⟨{ state.stores with users := .memory after }, state.world⟩) := by
  -- along the listing: the rows that are done move to the front of the table
  induction listed generalizing state table done with
  | nil =>
    refine ⟨table, hrows, ?_⟩
    rw [← hstore]
    rfl
  | cons user rest ih =>
    unfold Organizations.stripRoles
    cases hmember : user.hasRoleIn id with
    | true =>
      let between : State :=
        ⟨{ state.stores with users := .memory (table.insert (user.leaving id)) }, state.world⟩
      have hheld : table.get? user.id = some user := by
        refine Table.get?_of_mem ?_
        rw [hrows]
        exact List.mem_append_right done List.mem_cons_self
      have hwritten : (users.update .server (user.leaving id)).run state = (.ok (), between) :=
        run_update_held users_lawful .server rfl hstore (Option.isSome_of_eq_some hheld)
      -- leaving keeps the id, so the row is rewritten in its place
      have hsame : Record.id (user.leaving id) = Record.id user := rfl
      have hnext : (table.insert (user.leaving id)).rows = (done ++ [user.leaving id]) ++ rest := by
        rw [Table.rows_insert_of_split hrows hsame, List.append_assoc, List.singleton_append]
      have hbetween : between.stores.users = .memory (table.insert (user.leaving id)) := rfl
      obtain ⟨after, hafter, hrun⟩ := ih hbetween hnext
      refine ⟨after, ?_, ?_⟩
      · rw [hafter, List.map_cons, List.append_assoc, List.singleton_append]
      · rw [if_pos rfl, Script.run_bind, Script.run_orFail, hwritten]
        exact hrun
    | false =>
      -- no write for a user outside, whose row counts as done all the same
      have hnext : table.rows = (done ++ [user]) ++ rest := by
        rw [hrows, List.append_assoc, List.singleton_append]
      obtain ⟨after, hafter, hrun⟩ := ih hstore hnext
      refine ⟨after, ?_, ?_⟩
      · rw [hafter, List.map_cons, User.leaving_of_outside hmember, List.append_assoc,
          List.singleton_append]
      · rw [if_neg (by simp)]
        exact hrun

/-- **The pass over the mappings.** -/
theorem run_dropMappings {table : Table Mapping} (id : String) {done listed : List Mapping}
    (hstore : state.stores.mappings = .memory table) (hrows : table.rows = done ++ listed) :
    ∃ after : Table Mapping,
      after.rows = done ++ listed.filter (fun mapping => mapping.organization ≠ id)
      ∧ (Organizations.dropMappings id listed).run state
        = (.ok (), ⟨{ state.stores with mappings := .memory after }, state.world⟩) := by
  -- along the listing as above, but a row that leads to the organization goes instead of changing
  induction listed generalizing state table done with
  | nil =>
    refine ⟨table, hrows, ?_⟩
    rw [← hstore]
    rfl
  | cons mapping rest ih =>
    unfold Organizations.dropMappings
    by_cases htarget : mapping.organization = id
    · let between : State :=
        ⟨{ state.stores with mappings := .memory (table.erase mapping.id) }, state.world⟩
      have hheld : table.get? mapping.id = some mapping := by
        refine Table.get?_of_mem ?_
        rw [hrows]
        exact List.mem_append_right done List.mem_cons_self
      have hwritten : (mappings.delete .server mapping.id).run state = (.ok (), between) :=
        run_delete_held mappings_lawful .server rfl hstore (Option.isSome_of_eq_some hheld)
      have hnext : (table.erase mapping.id).rows = done ++ rest := Table.rows_erase_of_split hrows
      have hbetween : between.stores.mappings = .memory (table.erase mapping.id) := rfl
      obtain ⟨after, hafter, hrun⟩ := ih hbetween hnext
      refine ⟨after, ?_, ?_⟩
      · rw [hafter, List.filter_cons_of_neg (by simpa using htarget)]
      · rw [if_pos htarget, Script.run_bind, Script.run_orFail, hwritten]
        exact hrun
    · have hnext : table.rows = (done ++ [mapping]) ++ rest := by
        rw [hrows, List.append_assoc, List.singleton_append]
      obtain ⟨after, hafter, hrun⟩ := ih hstore hnext
      refine ⟨after, ?_, ?_⟩
      · rw [hafter, List.filter_cons_of_pos (by simpa using htarget), List.append_assoc,
          List.singleton_append]
      · rw [if_neg htarget]
        exact hrun

/-- **The sweep.** Every user leaves, and every mapping to the organization goes. -/
theorem run_sweep {members : Table User} {routes : Table Mapping} (id : String)
    (husers : state.stores.users = .memory members)
    (hmappings : state.stores.mappings = .memory routes) :
    ∃ (members' : Table User) (routes' : Table Mapping),
      members'.rows = members.rows.map (·.leaving id)
      ∧ routes'.rows = routes.rows.filter (fun mapping => mapping.organization ≠ id)
      ∧ Script.run (do
          Organizations.stripRoles id (← (users.all .server).orFail .store)
          Organizations.dropMappings id (← (mappings.all .server).orFail .store)) state
        = (.ok (), ⟨{ state.stores with users := .memory members', mappings := .memory routes' },
            state.world⟩) := by
  have hlisted : (users.all .server).run state = (.ok members.rows, state) :=
    run_all_memory rfl husers
  obtain ⟨members', hmembers, hstripped⟩ :=
    run_stripRoles id husers (List.nil_append members.rows).symm
  -- the mappings are read after the users have been written, which leaves them as they were
  let stripped : State := ⟨{ state.stores with users := .memory members' }, state.world⟩
  have hmappings' : stripped.stores.mappings = .memory routes := hmappings
  have hfound : (mappings.all .server).run stripped = (.ok routes.rows, stripped) :=
    run_all_memory rfl hmappings'
  obtain ⟨routes', hroutes, hdropped⟩ :=
    run_dropMappings id hmappings' (List.nil_append routes.rows).symm
  refine ⟨members', routes', hmembers, hroutes, ?_⟩
  rw [Script.run_bind, Script.run_orFail, hlisted]
  show (Organizations.stripRoles id members.rows >>= fun _ => _).run state = _
  rw [Script.run_bind, hstripped]
  show ((mappings.all .server).orFail ServiceError.store >>= _).run stripped = _
  rw [Script.run_bind, Script.run_orFail, hfound]
  exact hdropped

end Passes

end TenantConsole
