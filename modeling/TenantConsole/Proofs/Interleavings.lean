import TenantConsole.Proofs.Memberships

/-!
# Two organizations at the same user

Under a scope a write is two calls on the store below: one looks, and the other writes what has come
of it. Each call is one step, but somebody else may come in between the two. `Scoping.inCalls` is
the write as such a script. With nobody in between it is the write that a scoped store makes
(`Scoping.write_eq_run`).

* **`together_inCalls`**: what becomes of two writes, by the course that their calls take. Either
  they go one after the other, or both have looked before either writes.
* **`Edit.crossed`**: in a crossed course the later write is all that remains, because each writes
  the whole user.
* **`memberships_serial_iff`**: two organizations edit a user. It comes out as if they had done so
  one after the other, exactly if no edit that leaves a trace has been overwritten. A membership
  that was ended always leaves one: the overwriting brings it back (`removed_role_returns`).
-/

namespace TenantConsole

/-! ## Writes call by call -/

section Calls

variable {ρ α β : Type} [Record ρ]

/-- The call that a plan comes to, if it is not a refusal. -/
def Plan.script : Plan ρ α → Script (Store ρ × World) StoreError α
  | .refuse error => .fail error
  | .add record answer => .call fun (store, world) =>
    let (written, after) := store.write (.add record) world
    (written.bind answer, after)
  | .update record answer => .call fun (store, world) =>
    let (written, after) := store.write (.update record) world
    (written.bind fun _ => answer, after)
  | .delete id answer => .call fun (store, world) =>
    let (written, after) := store.write (.delete id) world
    (written.bind fun _ => answer, after)

/-- A write under a scope, call by call on the store below. -/
def Scoping.inCalls (scope : Scoping ρ) (write : Write ρ α) :
    Script (Store ρ × World) StoreError α := do
  let plan ← .look fun (store, world) => .ok (scope.plan (store.readings world.disk) write)
  plan.script

/-- **With nobody in between, the calls are the write of a scoped store.** -/
theorem Scoping.write_eq_run (scope : Scoping ρ) (store : Store ρ) (write : Write ρ α)
    (world : World) :
    (Store.scoped scope store).write write world
      = (((scope.inCalls write).run (store, world)).1,
        .scoped scope ((scope.inCalls write).run (store, world)).2.1,
        ((scope.inCalls write).run (store, world)).2.2) := by
  have hrun : (scope.inCalls write).run (store, world)
      = (scope.plan (store.readings world.disk) write).script.run (store, world) := rfl
  rw [hrun]
  simp only [Store.write]
  cases scope.plan (store.readings world.disk) write <;> rfl

/-! ## Two at a time

A write looks once, and after that makes one call at most (`Plan.oneCall`). So the schedules lead to
four courses: one write after the other, or both looks before both calls, and in each case either
write may be the later one. -/

/-- One call at most is left to be made. -/
inductive Script.OneCall {σ ε : Type} : Script σ ε α → Prop where
  | done (result : Except ε α) : OneCall (.done result)
  | call (act : σ → Except ε α × σ) : OneCall (.call act)

theorem Plan.oneCall (plan : Plan ρ α) : plan.script.OneCall := by
  cases plan with
  | refuse error => exact .done _
  | add record answer => exact .call _
  | update record answer => exact .call _
  | delete id answer => exact .call _

namespace Script

variable {σ ε : Type}

theorem together_done_left (schedule : List Bool) (result : Except ε α) (other : Script σ ε β)
    (state : σ) : together schedule (.done result) other state = (result, other.run state) := by
  induction schedule generalizing other state with
  | nil => rfl
  | cons turn rest ih =>
    -- who is through makes no more calls, so every turn is the other one's
    cases turn with
    | true => rfl
    | false =>
      cases other with
      | done result' => rfl
      | step change next => exact ih (next state) (change state)

theorem together_done_right (schedule : List Bool) (script : Script σ ε α) (result : Except ε β)
    (state : σ) : together schedule script (.done result) state
      = ((script.run state).1, result, (script.run state).2) := by
  induction schedule generalizing script state with
  | nil => rfl
  | cons turn rest ih =>
    cases turn with
    | false => cases script <;> rfl
    | true =>
      cases script with
      | done result' => rfl
      | step change next => exact ih (next state) (change state)

/-- Who makes its last call now is through, and the other goes on alone. -/
theorem together_first_ends {first : Script σ ε α} (hfirst : first.OneCall)
    (second : Script σ ε β) (rest : List Bool) (state : σ) :
    (together (true :: rest) first second state).2.2 = (second.run (first.run state).2).2 := by
  cases hfirst with
  | done result => rfl
  | call act =>
    show (together rest (.done (act state).1) second (act state).2).2.2 = _
    rw [together_done_left]
    rfl

theorem together_second_ends (first : Script σ ε α) {second : Script σ ε β}
    (hsecond : second.OneCall) (rest : List Bool) (state : σ) :
    (together (false :: rest) first second state).2.2 = (first.run (second.run state).2).2 := by
  cases hsecond with
  | done result => cases first <;> rfl
  | call act =>
    have hstep : together (false :: rest) first (.call act) state
        = together rest first (.done (act state).1) (act state).2 := by
      cases first <;> rfl
    rw [hstep, together_done_right]
    rfl

/-- Where one call each is left, the schedule says which is the last, if it says anything. -/
theorem together_oneCall {first : Script σ ε α} {second : Script σ ε β} (hfirst : first.OneCall)
    (hsecond : second.OneCall) (schedule : List Bool) (state : σ) :
    (together schedule first second state).2.2
      = if schedule.head? = some false then (first.run (second.run state).2).2
        else (second.run (first.run state).2).2 := by
  match schedule with
  | [] => rfl
  | true :: rest => exact together_first_ends hfirst second rest state
  | false :: rest => exact together_second_ends first hsecond rest state

end Script

/-- How two writes come to lie, each a look and a call: one after the other, or with both looks
before both calls. The flag says whether the first one writes earlier. -/
inductive Course where
  | inTurn (firstEarlier : Bool)
  | crossed (firstEarlier : Bool)
  deriving DecidableEq

/-- The course that a schedule leads to. -/
def Course.of : List Bool → Course
  | true :: false :: rest | false :: true :: rest => .crossed (decide (rest.head? ≠ some false))
  | [false] => .crossed true
  | false :: false :: _ => .inTurn false
  | _ => .inTurn true

/-- **What two writes come to.** In turn, the later one plans on what the earlier one has left. In a
crossed course, both plans are made at the start. -/
theorem together_inCalls (scope scope' : Scoping ρ) (write : Write ρ α) (write' : Write ρ β)
    (schedule : List Bool) (state : Store ρ × World) :
    (Script.together schedule (scope.inCalls write) (scope'.inCalls write') state).2.2
      = match Course.of schedule with
        | .inTurn true => ((scope'.inCalls write').run ((scope.inCalls write).run state).2).2
        | .inTurn false => ((scope.inCalls write).run ((scope'.inCalls write').run state).2).2
        | .crossed true =>
          ((scope'.plan (state.1.readings state.2.disk) write').script.run
            ((scope.plan (state.1.readings state.2.disk) write).script.run state).2).2
        | .crossed false =>
          ((scope.plan (state.1.readings state.2.disk) write).script.run
            ((scope'.plan (state.1.readings state.2.disk) write').script.run state).2).2 := by
  let plan := scope.plan (state.1.readings state.2.disk) write
  let plan' := scope'.plan (state.1.readings state.2.disk) write'
  have hcalls (rest : List Bool) := Script.together_oneCall plan.oneCall plan'.oneCall rest state
  match schedule with
  | [] => rfl
  | [true] => rfl
  | [false] => rfl
  | true :: true :: rest => exact Script.together_first_ends plan.oneCall _ rest state
  | false :: false :: rest => exact Script.together_second_ends _ plan'.oneCall rest state
  -- after a look by both the plans are left, whoever has looked first
  | true :: false :: rest | false :: true :: rest =>
    refine (hcalls rest).trans ?_
    by_cases hlast : rest.head? = some false <;> simp [Course.of, hlast, plan, plan']

end Calls

/-! ## Edits of a user -/

namespace User

theorem leaving_not_member (user : User) (organization : String) :
    (user.leaving organization).hasRoleIn organization = false := by
  unfold hasRoleIn roleIn?
  rw [Option.isSome_eq_false_iff, Option.isNone_iff_eq_none, List.find?_eq_none]
  intro role hrole
  have hne := (List.mem_filter.1 hrole).2
  simpa using hne

theorem leaving_comm (user : User) (organization other : String) :
    (user.leaving organization).leaving other = (user.leaving other).leaving organization := by
  simp only [leaving, rolesOutside, List.filter_filter, Bool.and_comm]

theorem leaving_holding (user : User) {role : Role} {other : String}
    (h : role.organization ≠ other) :
    (user.leaving other).holding role = (user.holding role).leaving other := by
  simp [leaving, holding, rolesOutside, List.filter_filter, Bool.and_comm, h]

end User

/-- What an organization does to a user that is there. -/
inductive Edit where
  | update (user : User)
  | delete (id : String)

namespace Edit

def id : Edit → String
  | update user => user.id
  | delete id => id

def write : Edit → Write User Unit
  | update user => .update user
  | delete id => .delete id

/-- The edit as one write to the users of an organization. What is left is the store of all. -/
def alone (organization : String) (edit : Edit) (start : Store User × World) :
    Store User × World :=
  let (_, seen, world) :=
    (Store.scoped (Scoping.membership organization) start.1).write edit.write start.2
  (seen.unscoped, world)

/-- The edit as the calls that it makes on the store of all users. -/
def script (organization : String) (edit : Edit) : Script (Store User × World) StoreError Unit :=
  (Scoping.membership organization).inCalls edit.write

/-- What the edit does to a member, unless it is refused for what it submits. -/
def change? (organization : String) : Edit → Option (User → User)
  | update user =>
    match Scoping.submittedRole organization user with
    | .error _ => none
    | .ok role => some fun current => { current.holding role with superAdmin := user.superAdmin }
  | delete _ => some fun current => current.leaving organization

/-- What the edit makes of the stored user, unless it is refused. -/
def makes (organization : String) (edit : Edit) (current : User) : Option User :=
  if current.hasRoleIn organization then
    (edit.change? organization).map fun change => change current
  else none

/-- What is stored after the edit, if nobody comes in between. -/
def leaves (organization : String) (edit : Edit) (stored : Option User) : Option User :=
  (stored.bind (edit.makes organization)).or stored

section Changes

variable {organization other : String} {edit : Edit} {change : User → User} {current made : User}

theorem makes_eq_some : edit.makes organization current = some made
    ↔ current.hasRoleIn organization = true
      ∧ ∃ change, edit.change? organization = some change ∧ change current = made := by
  unfold makes
  split
  · rename_i hmember
    rw [Option.map_eq_some_iff]
    exact ⟨fun h => ⟨hmember, h⟩, And.right⟩
  · rename_i houtside
    exact ⟨nofun, fun h => absurd h.1 houtside⟩

/-- A member gets a role of the organization, and a flag, or it leaves. -/
theorem change_cases (h : edit.change? organization = some change) :
    (∃ role superAdmin, role.organization = organization
        ∧ change = fun user => { user.holding role with superAdmin })
      ∨ change = fun user => user.leaving organization := by
  -- only an update can be refused for what it submits
  cases edit with
  | update user =>
    unfold change? at h
    cases hrole : Scoping.submittedRole organization user with
    | error error => simp [hrole] at h
    | ok role =>
      simp only [hrole, Option.some.injEq] at h
      exact .inl ⟨role, user.superAdmin, (submittedRole_ok hrole).2.1, h.symm⟩
  | delete id => exact .inr (Option.some.inj h).symm

theorem change_id (h : edit.change? organization = some change) (user : User) :
    (change user).id = user.id := by
  rcases change_cases h with ⟨role, superAdmin, -, rfl⟩ | rfl <;> rfl

/-- Nothing changes in another organization. -/
theorem roleIn?_change (h : edit.change? organization = some change) (hother : other ≠ organization)
    (user : User) : (change user).roleIn? other = user.roleIn? other := by
  have hkept : (user.rolesOutside organization).find? (fun role => role.organization = other)
      = user.roleIn? other := by
    unfold User.rolesOutside User.roleIn?
    rw [List.find?_filter]
    congr 1
    funext role
    by_cases hrole : role.organization = other
    · simp [hrole, hother]
    · simp [hrole]
  -- the roles elsewhere stay in both cases, and a new role belongs to this organization
  rcases change_cases h with ⟨role, superAdmin, rfl, rfl⟩ | rfl
  · have hnew : ¬ role.organization = other := fun hsame => hother hsame.symm
    show (user.rolesOutside role.organization ++ [role]).find? _ = _
    rw [List.find?_append, hkept]
    simp [hnew]
  · exact hkept

/-- To leave one organization goes together with whatever another one does. -/
theorem change_leaving (h : edit.change? organization = some change)
    (hother : other ≠ organization) (user : User) :
    change (user.leaving other) = (change user).leaving other := by
  rcases change_cases h with ⟨role, superAdmin, rfl, rfl⟩ | rfl
  · exact congrArg (fun user : User => { user with superAdmin }) (user.leaving_holding hother.symm)
  · exact user.leaving_comm other organization

/-- **What an edit would not change any more has left no trace.** If an organization's edit changes
nothing of what another's has made of a member, then it had made no difference to the other one. -/
theorem traceless {edit' : Edit} {change' : User → User}
    (h : edit.change? organization = some change) (h' : edit'.change? other = some change')
    (hother : organization ≠ other) {user : User} (hmember : user.hasRoleIn organization = true)
    (hstays : change (change' user) = change' user) : change' (change user) = change' user := by
  have hmember' : (change' user).hasRoleIn organization = true := by
    rw [User.hasRoleIn, roleIn?_change h' hother]
    exact hmember
  rcases change_cases h' with ⟨role', superAdmin', rfl, rfl⟩ | rfl
  · -- the other organization's role comes last, so that the edit would have changed the order
    exfalso
    rcases change_cases h with ⟨role, superAdmin, rfl, rfl⟩ | rfl
    · have hroles := congrArg User.roles hstays
      have hlast := List.append_inj_right' hroles rfl
      simp only [List.cons.injEq, and_true] at hlast
      exact hother (congrArg Role.organization hlast)
    · have hgone := (User.leaving_not_member { user.holding role' with superAdmin := superAdmin' }
        organization)
      simp only [hstays] at hgone
      rw [hmember'] at hgone
      cases hgone
  · show (change user).leaving other = user.leaving other
    rw [← change_leaving h hother.symm]
    exact hstays

end Changes

/-! ### An edit on a table -/

section Tables

variable {organization : String} {edit : Edit} {table planned : Table User} {world : World}

/-- The user behind an id is a member, or the edit comes to nothing. -/
theorem member_or_none (organization : String) (edit : Edit) (table : Table User) :
    (∃ current, table.get? edit.id = some current ∧ current.hasRoleIn organization = true
        ∧ Scoping.member organization (.ofListing (.ok table.rows)) edit.id = .ok current)
      ∨ ((table.get? edit.id).bind (edit.makes organization) = none
        ∧ ∃ error, Scoping.member organization (.ofListing (.ok table.rows)) edit.id
          = .error error) := by
  unfold Scoping.member
  rw [Table.get_ofListing]
  -- an unknown user and one that is no member are missing alike
  cases hfound : table.get? edit.id with
  | none => exact .inr ⟨rfl, _, rfl⟩
  | some current =>
    cases hmember : current.hasRoleIn organization with
    | true => exact .inl ⟨current, rfl, hmember, by simp [Readings.orMissing, hmember]⟩
    | false =>
      refine .inr ⟨?_, .missing User edit.id, by simp [Readings.orMissing, hmember]⟩
      show edit.makes organization current = none
      simp [makes, hmember]

/-- A plan is a refusal, or it is to store what the edit makes of the user. -/
theorem plan_eq (organization : String) (edit : Edit) (table : Table User) :
    ∃ error, (Scoping.membership organization).plan (.ofListing (.ok table.rows)) edit.write
      = ((table.get? edit.id).bind (edit.makes organization)).elim (.refuse error)
          fun made => .update made (.ok ()) := by
  rcases member_or_none organization edit table with
    ⟨current, hfound, hmember, hplanned⟩ | ⟨hnone, error, hplanned⟩
  · rw [hfound]
    cases edit with
    | update user =>
      simp only [Edit.id] at hplanned
      -- an update looks at the submitted role before it looks for the user
      cases hrole : Scoping.submittedRole organization user with
      | error error =>
        refine ⟨error, ?_⟩
        simp [write, Scoping.plan, Scoping.membership, hrole, makes, change?]
      | ok role =>
        refine ⟨.missing User user.id, ?_⟩
        simp [write, Scoping.plan, Scoping.membership, hrole, hplanned, makes, change?, hmember]
    | delete id =>
      refine ⟨.missing User id, ?_⟩
      simp only [Edit.id] at hplanned
      simp [write, Scoping.plan, Scoping.membership, hplanned, makes, change?, hmember]
  · rw [hnone]
    cases edit with
    | update user =>
      simp only [Edit.id] at hplanned
      cases hrole : Scoping.submittedRole organization user with
      | error error' => exact ⟨error', by simp [write, Scoping.plan, Scoping.membership, hrole]⟩
      | ok role => exact ⟨error, by simp [write, Scoping.plan, Scoping.membership, hrole, hplanned]⟩
    | delete id =>
      simp only [Edit.id] at hplanned
      exact ⟨error, by simp [write, Scoping.plan, Scoping.membership, hplanned]⟩

/-- **An edit that was planned on one table and is carried out on another.** What it stores is what
it makes of the user that it has looked at. -/
theorem run_plan (organization : String) (edit : Edit) (world : World)
    (hheld : (planned.get? edit.id).isSome → (table.get? edit.id).isSome) :
    ∃ after, (((Scoping.membership organization).plan (.ofListing (.ok planned.rows))
          edit.write).script.run (.memory table, world)).2 = (.memory after, world)
      ∧ after.get? edit.id
        = ((planned.get? edit.id).bind (edit.makes organization)).or (table.get? edit.id) := by
  obtain ⟨error, hplan⟩ := plan_eq organization edit planned
  rw [hplan]
  -- by `hheld` the user has not gone since, so that an update that was planned finds it
  cases hmade : (planned.get? edit.id).bind (edit.makes organization) with
  | none => exact ⟨table, rfl, rfl⟩
  | some made =>
    obtain ⟨current, hfound, hmakes⟩ := Option.bind_eq_some_iff.1 hmade
    obtain ⟨-, change, hchange, rfl⟩ := makes_eq_some.1 hmakes
    have hid : (change current).id = edit.id :=
      (change_id hchange current).trans (Table.id_of_get?_eq_some hfound)
    obtain ⟨old, hold⟩ := Option.isSome_iff_exists.1 (hheld (by rw [hfound]; rfl))
    rw [← hid] at hold
    refine ⟨table.insert (change current), ?_, ?_⟩
    · show (((Store.memory table).write (.update (change current)) world).2) = _
      simp only [Store.write, write_update_of_get? hold]
    · rw [Table.get?_insert, User.id_eq, if_pos hid]
      rfl

/-- An edit with nobody in between. -/
theorem run_script (organization : String) (edit : Edit) (table : Table User) (world : World) :
    ∃ after, ((edit.script organization).run (.memory table, world)).2 = (.memory after, world)
      ∧ edit.alone organization (.memory table, world) = (.memory after, world)
      ∧ after.get? edit.id = edit.leaves organization (table.get? edit.id) := by
  obtain ⟨after, hrun, hafter⟩ := run_plan organization edit world fun hheld => hheld
  refine ⟨after, hrun, ?_, hafter⟩
  have hscript : (((Scoping.membership organization).inCalls edit.write).run
      (.memory table, world)).2 = (.memory after, world) := hrun
  unfold alone
  rw [Scoping.write_eq_run, hscript]
  rfl

end Tables

/-! ### Two edits of a user

In a crossed course both edits are made of the user as it was, and what the later one makes is
stored. This is what a course in turn leaves only if the later edit makes the same of the user that
the earlier one has stored. The converse order is no way out: if the earlier edit changes nothing of
what the later one has made, it has left no trace in the first place (`traceless`). -/

/-- The later edit has stored what it makes of the user as it was, and so undone an earlier one that
makes a difference. -/
def Overwritten (organization : String) (earlier : Edit) (other : String) (later : Edit)
    (user : User) : Prop :=
  ∃ one two, earlier.makes organization user = some one ∧ later.makes other user = some two
    ∧ later.makes other one ≠ some two

section Crossed

variable {a b : String}

/-- Who could be edited by one organization still can after an edit by another. -/
theorem makes_after (hab : a ≠ b) {earlier later : Edit} {user one two : User}
    (hone : earlier.makes a user = some one) (htwo : later.makes b user = some two) :
    ∃ both, later.makes b one = some both := by
  obtain ⟨-, change, hchange, rfl⟩ := makes_eq_some.1 hone
  obtain ⟨hmember, change', hchange', -⟩ := makes_eq_some.1 htwo
  refine ⟨change' (change user), makes_eq_some.2 ⟨?_, change', hchange', rfl⟩⟩
  rw [User.hasRoleIn, roleIn?_change hchange hab.symm]
  exact hmember

/-- If the earlier edit would change nothing any more, it had made no difference. -/
theorem makes_twice (hab : a ≠ b) {earlier later : Edit} {user one two both both' : User}
    (hone : earlier.makes a user = some one) (htwo : later.makes b user = some two)
    (hboth : later.makes b one = some both) (hboth' : earlier.makes a two = some both')
    (hsame : both' = two) : both = two := by
  obtain ⟨hmember, change, hchange, rfl⟩ := makes_eq_some.1 hone
  obtain ⟨-, change', hchange', rfl⟩ := makes_eq_some.1 htwo
  obtain ⟨-, _, hagain, rfl⟩ := makes_eq_some.1 hboth
  cases hchange'.symm.trans hagain
  obtain ⟨-, _, hagain, rfl⟩ := makes_eq_some.1 hboth'
  cases hchange.symm.trans hagain
  exact traceless hchange hchange' hab hmember hsame

/-- **A crossed course comes out like one in turn exactly if nothing has been overwritten.** -/
theorem crossed (hab : a ≠ b) (earlier later : Edit) (stored : Option User) :
    ((stored.bind (later.makes b)).or (earlier.leaves a stored)
          = later.leaves b (earlier.leaves a stored)
        ∨ (stored.bind (later.makes b)).or (earlier.leaves a stored)
          = earlier.leaves a (later.leaves b stored))
      ↔ ¬ ∃ user, stored = some user ∧ Overwritten a earlier b later user := by
  cases stored with
  | none => exact iff_of_true (.inl rfl) (by rintro ⟨user, huser, -⟩; cases huser)
  | some user =>
    unfold leaves
    simp only [Option.bind_some]
    cases hone : earlier.makes a user with
    | none =>
      -- the earlier one is refused, and the later one is alone
      refine iff_of_true (.inl rfl) ?_
      rintro ⟨_, ⟨⟩, one, two, hmakes, -⟩
      cases hone.symm.trans hmakes
    | some one =>
      cases htwo : later.makes b user with
      | none =>
        refine iff_of_true (.inr ?_) ?_
        · simp [hone]
        · rintro ⟨_, ⟨⟩, one, two, -, hmakes, -⟩
          cases htwo.symm.trans hmakes
      | some two =>
        obtain ⟨both, hboth⟩ := makes_after hab hone htwo
        obtain ⟨both', hboth'⟩ := makes_after hab.symm htwo hone
        simp only [Option.some_or, Option.bind_some, hboth, hboth', Option.some.injEq]
        -- both are accepted, in either order, and `two` is what the later one has stored
        have hlost : Overwritten a earlier b later user ↔ both ≠ two := by
          constructor
          · rintro ⟨one', two', hone', htwo', hdiffer⟩
            cases hone.symm.trans hone'
            cases htwo.symm.trans htwo'
            exact fun hsame => hdiffer (hboth.trans (congrArg some hsame))
          · intro hdiffer
            refine ⟨one, two, hone, htwo, ?_⟩
            rw [hboth]
            exact fun hsame => hdiffer (Option.some.inj hsame)
        have hback : both' = two → both = two := makes_twice hab hone htwo hboth hboth'
        constructor
        · rintro (hforth | hsame) ⟨_, rfl, hover⟩
          · exact hlost.1 hover hforth.symm
          · exact hlost.1 hover (hback hsame.symm)
        · intro hkept
          by_cases hdiffer : both = two
          · exact .inl hdiffer.symm
          · exact absurd ⟨user, rfl, hlost.2 hdiffer⟩ hkept

end Crossed

end Edit

/-! ## What two organizations leave of a user -/

/-- The user that is stored under an id. -/
def storedUser (id : String) (state : Store User × World) : Option User :=
  ((state.1.readings state.2.disk).get id).toOption

theorem storedUser_memory (id : String) (table : Table User) (world : World) :
    storedUser id (.memory table, world) = table.get? id := by
  show ((Readings.ofListing (.ok table.rows)).get id).toOption = _
  rw [Table.get_ofListing]
  cases table.get? id <;> rfl

/-- Two edits whose calls come as the schedule says. -/
def Edit.interleaved (schedule : List Bool) (a : String) (first : Edit) (b : String) (second : Edit)
    (start : Store User × World) : Store User × World :=
  (Script.together schedule (first.script a) (second.script b) start).2.2

namespace Course

/-- What is stored after two edits. In a crossed course both are made of the user as it was. -/
def outcome (a : String) (first : Edit) (b : String) (second : Edit) (stored : Option User) :
    Course → Option User
  | .inTurn true => second.leaves b (first.leaves a stored)
  | .inTurn false => first.leaves a (second.leaves b stored)
  | .crossed true => (stored.bind (second.makes b)).or (first.leaves a stored)
  | .crossed false => (stored.bind (first.makes a)).or (second.leaves b stored)

/-- An edit that makes a difference has been overwritten in this course. -/
def Overwrites (a : String) (first : Edit) (b : String) (second : Edit) (user : User) :
    Course → Prop
  | .inTurn _ => False
  | .crossed true => Edit.Overwritten a first b second user
  | .crossed false => Edit.Overwritten b second a first user

end Course

section Two

variable {a b id : String} {first second earlier later : Edit} (table : Table User) (world : World)

/-- One edit after the other, be it as writes or call by call. -/
theorem Edit.storedUser_in_turn (a b : String) (hearlier : earlier.id = id)
    (hlater : later.id = id) :
    storedUser id (later.alone b (earlier.alone a (.memory table, world)))
        = later.leaves b (earlier.leaves a (table.get? id))
      ∧ storedUser id ((later.script b).run ((earlier.script a).run (.memory table, world)).2).2
        = later.leaves b (earlier.leaves a (table.get? id)) := by
  obtain ⟨between, hrun, halone, hbetween⟩ := earlier.run_script a table world
  obtain ⟨after, hrun', halone', hafter⟩ := later.run_script b between world
  have hstored : storedUser id (.memory after, world)
      = later.leaves b (earlier.leaves a (table.get? id)) := by
    rw [storedUser_memory, ← hlater, hafter, hlater, ← hearlier, hbetween]
  rw [halone, halone', hrun, hrun']
  exact ⟨hstored, hstored⟩

/-- Both plans are made on the table as it was, and the later call stores what it has planned. -/
theorem Edit.storedUser_crossed (a b : String) (hearlier : earlier.id = id)
    (hlater : later.id = id) :
    storedUser id
        (((Scoping.membership b).plan (.ofListing (.ok table.rows)) later.write).script.run
          (((Scoping.membership a).plan (.ofListing (.ok table.rows)) earlier.write).script.run
            (.memory table, world)).2).2
      = ((table.get? id).bind (later.makes b)).or (earlier.leaves a (table.get? id)) := by
  obtain ⟨between, hrun, hbetween⟩ := earlier.run_plan a world fun hheld => hheld
  have hstays : (table.get? later.id).isSome → (between.get? later.id).isSome := by
    rw [hlater, ← hearlier, hbetween]
    intro hheld
    rw [Option.isSome_or, hheld, Bool.or_true]
  obtain ⟨after, hrun', hafter⟩ := later.run_plan b world hstays
  rw [hrun, hrun', storedUser_memory, ← hlater, hafter, hlater, ← hearlier, hbetween]
  rfl

/-- **What is stored in the end**, by the course that the calls have taken. -/
theorem storedUser_interleaved (hfirst : first.id = id) (hsecond : second.id = id)
    (schedule : List Bool) :
    storedUser id (Edit.interleaved schedule a first b second (.memory table, world))
      = (Course.of schedule).outcome a first b second (table.get? id) := by
  have hinterleaved : Edit.interleaved schedule a first b second (.memory table, world) = _ :=
    together_inCalls (Scoping.membership a) (Scoping.membership b) first.write second.write schedule
      (.memory table, world)
  rw [hinterleaved]
  -- one course after the other, and in each of them either edit may be the later one
  rcases Course.of schedule with firstEarlier | firstEarlier <;> cases firstEarlier
  · exact (Edit.storedUser_in_turn table world b a hsecond hfirst).2
  · exact (Edit.storedUser_in_turn table world a b hfirst hsecond).2
  · exact Edit.storedUser_crossed table world b a hsecond hfirst
  · exact Edit.storedUser_crossed table world a b hfirst hsecond

/-- **When no edit of a user is lost.** Two organizations edit the same user, and their calls on the
table of users come in any order. What is stored in the end is what one edit after the other would
have left, in one of the two orders, exactly if neither has overwritten the other. -/
theorem memberships_serial_iff (hab : a ≠ b) (hfirst : first.id = id) (hsecond : second.id = id)
    (schedule : List Bool) :
    storedUser id (Edit.interleaved schedule a first b second (.memory table, world))
          = storedUser id (second.alone b (first.alone a (.memory table, world)))
        ∨ storedUser id (Edit.interleaved schedule a first b second (.memory table, world))
          = storedUser id (first.alone a (second.alone b (.memory table, world)))
      ↔ ¬ ∃ user, table.get? id = some user
          ∧ (Course.of schedule).Overwrites a first b second user := by
  rw [storedUser_interleaved table world hfirst hsecond,
    (Edit.storedUser_in_turn table world a b hfirst hsecond).1,
    (Edit.storedUser_in_turn table world b a hsecond hfirst).1]
  rcases Course.of schedule with firstEarlier | firstEarlier <;> cases firstEarlier
  · exact iff_of_true (.inr rfl) fun ⟨_, _, hover⟩ => hover
  · exact iff_of_true (.inl rfl) fun ⟨_, _, hover⟩ => hover
  · exact or_comm.trans (Edit.crossed hab.symm second first (table.get? id))
  · exact Edit.crossed hab first second (table.get? id)

/-- **A membership that was ended is back** if another organization's edit, begun before, is stored
afterwards. -/
theorem removed_role_returns (hab : a ≠ b) (hsecond : second.id = id) {schedule : List Bool}
    (hcourse : Course.of schedule = .crossed true) {user edited : User}
    (hstored : table.get? id = some user) (hedited : second.makes b user = some edited) :
    storedUser id (Edit.interleaved schedule a (.delete id) b second (.memory table, world))
        = some edited
      ∧ edited.roleIn? a = user.roleIn? a := by
  have hremoval : (Edit.delete id).id = id := rfl
  constructor
  · rw [storedUser_interleaved table world hremoval hsecond, hcourse, hstored]
    simp only [Course.outcome, Option.bind_some, hedited, Option.some_or]
  · obtain ⟨-, change, hchange, rfl⟩ := Edit.makes_eq_some.1 hedited
    exact Edit.roleIn?_change hchange hab user

end Two

namespace Shared

def world : World := { ids := fun _ => "" }

/-- A user of two organizations. -/
def user : User :=
  { id := "u", name := "", provider := "", scheme := "", superAdmin := false,
    roles := [⟨"b", .viewer⟩, ⟨"a", .admin⟩] }

def table : Table User := Table.empty.insert user

/-- The role that the user has already. -/
def unchanged : User := { user with roles := [⟨"a", .admin⟩] }

/-- A higher role in the other organization. -/
def raised : User := { user with roles := [⟨"b", .editor⟩] }

end Shared

open Shared

/-- The first organization gives the role that is there, and nothing is lost in a crossed course. -/
theorem memberships_serial_iff_unchanged : "a" ≠ "b" ∧ (Edit.update unchanged).id = "u"
    ∧ (Edit.delete "u").id = "u"
    ∧ Course.of [true, false, true, false] = .crossed true
    ∧ (storedUser "u" (Edit.interleaved [true, false, true, false] "a" (.update unchanged) "b"
            (.delete "u") (.memory table, world))
          = storedUser "u" (Edit.alone "b" (.delete "u")
              (Edit.alone "a" (.update unchanged) (.memory table, world)))
        ∨ storedUser "u" (Edit.interleaved [true, false, true, false] "a" (.update unchanged) "b"
            (.delete "u") (.memory table, world))
          = storedUser "u" (Edit.alone "a" (.update unchanged)
              (Edit.alone "b" (.delete "u") (.memory table, world)))) := by
  have hab : "a" ≠ "b" := by decide
  have hfirst : (Edit.update unchanged).id = "u" := rfl
  have hsecond : (Edit.delete "u").id = "u" := rfl
  refine ⟨hab, hfirst, hsecond, rfl, ?_⟩
  refine (memberships_serial_iff table world hab hfirst hsecond [true, false, true, false]).2 ?_
  rintro ⟨_, hstored, one, two, hone, htwo, hdiffer⟩
  cases hstored
  cases hone
  cases htwo
  exact hdiffer rfl

/-- A role is taken away between the two calls of another organization's edit, and is back. No order
of the two edits leaves it. -/
theorem revoked_role_returns : "a" ≠ "b" ∧ (Edit.delete "u").id = (Edit.update raised).id
    ∧ storedUser "u" (Edit.interleaved [false, true, true, false] "a" (.delete "u") "b"
        (.update raised) (.memory table, world))
      = some { user with roles := [⟨"a", .admin⟩, ⟨"b", .editor⟩] }
    ∧ ¬ (storedUser "u" (Edit.interleaved [false, true, true, false] "a" (.delete "u") "b"
            (.update raised) (.memory table, world))
          = storedUser "u" (Edit.alone "b" (.update raised)
              (Edit.alone "a" (.delete "u") (.memory table, world)))
        ∨ storedUser "u" (Edit.interleaved [false, true, true, false] "a" (.delete "u") "b"
            (.update raised) (.memory table, world))
          = storedUser "u" (Edit.alone "a" (.delete "u")
              (Edit.alone "b" (.update raised) (.memory table, world)))) := by
  refine ⟨by decide, rfl, rfl, ?_⟩
  have hdiffer : ∀ {stored : Option User}, stored = some { user with roles := [⟨"b", .editor⟩] } →
      some { user with roles := [⟨"a", .admin⟩, ⟨"b", .editor⟩] } ≠ stored := by
    rintro _ rfl hsame
    have hlengths := congrArg (Option.map fun user => user.roles.length) hsame
    cases hlengths
  rintro (hforth | hback)
  · exact hdiffer rfl hforth
  · exact hdiffer rfl hback

end TenantConsole
