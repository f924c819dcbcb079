import TenantConsole.Proofs.Authority
import TenantConsole.Proofs.FirstLogins

/-!
# Repeated logins

A login may store its user, or turn on its flag, or do neither. Whichever it does, the next one of
the same principal has nothing left to do. What carries the argument is one invariant,
`Login.Settled`: the first user of the principal's identity is there, and it has the flag if the
principal's groups make a super admin.

* **`settled_of_userOf`**: each of the three ways of a login leaves the principal settled. Two users
  may share an identity, so it has to be seen that the row that is written is the first to be found:
  that is `Table.knownAs?_insert`.
* **`Login.Settled.run_userOf`**: of a settled principal a login only looks up the user.

`login_repeats` adds the context. A login asks for it and so does each request with a token of the
principal, on a way of its own; both get what `Login.contextFor` says of the settled user.
-/

namespace TenantConsole

open Collection

/-! ## The first row of a kind -/

namespace Table

/-- A row that goes in is the first of its kind if the first one that was there is the row that it
takes the place of. -/
theorem find?_putRow_first {ρ : Type} [Record ρ] {p : ρ → Bool} {new : ρ} (hnew : p new = true)
    {rows : List ρ} (hfirst : ∀ row, rows.find? p = some row → Record.id row = Record.id new) :
    (putRow new rows).find? p = some new := by
  induction rows with
  | nil => simp [putRow, hnew]
  | cons r rest ih =>
    unfold putRow
    split
    · exact List.find?_cons_of_pos hnew
    · split
      · exact List.find?_cons_of_pos hnew
      · rename_i hid
        -- the row goes in further down, so the one at the head is of another kind
        have hr : ¬ p r = true := fun hr => hid (hfirst r (List.find?_cons_of_pos hr)).symm
        rw [List.find?_cons_of_neg hr]
        refine ih fun row hrow => hfirst row ?_
        rw [List.find?_cons_of_neg hr, hrow]

theorem knownAs?_insert {table : Table User} {user : User}
    (hfirst : ∀ known, table.knownAs? user.identity = some known → known.id = user.id) :
    (table.insert user).knownAs? user.identity = some user := by
  have huser : decide (user.identity = user.identity) = true := decide_eq_true rfl
  exact find?_putRow_first (p := fun row : User => row.identity = user.identity) huser hfirst

end Table

/-! ## Settled principals -/

/-- Nothing is left to do for a principal: its user is stored, and has the flag that the principal's
groups give it. -/
structure Login.Settled (adminGroup : Option String) (principal : Principal) (user : User)
    (state : State) : Prop where
  known : ∃ table, state.stores.users = .memory table
    ∧ table.knownAs? principal.identity = some user
  promoted : principal.isSuperAdmin adminGroup = true → user.superAdmin = true

section Logins

variable {adminGroup : Option String} {principal : Principal} {user : User} {state : State}
  {table : Table User}

/-- What is known of the user that a step of a login answers with. -/
def Login.Settles (adminGroup : Option String) (principal : Principal)
    (answer : Except StoreError User) (after : State) : Prop :=
  ∀ user, answer = .ok user → Login.Settled adminGroup principal user after

/-- **A settled principal is looked up**, and that is all. -/
theorem Login.Settled.run_userOf (h : Login.Settled adminGroup principal user state) :
    (Login.userOf adminGroup principal).run state = (.ok user, state) := by
  obtain ⟨⟨table, hstore, hknown⟩, hpromoted⟩ := h
  have hdone : ¬ (¬ user.superAdmin = true ∧ principal.isSuperAdmin adminGroup = true) :=
    fun ⟨hplain, hadmin⟩ => hplain (hpromoted hadmin)
  rw [run_userOf_known hstore hknown, run_promote hstore hknown, if_neg hdone]

/-- The user that is known has the flag already, or it is stored again with the flag on. -/
theorem promote_settles (hstore : state.stores.users = .memory table)
    (hknown : table.knownAs? principal.identity = some user) :
    (Login.promote adminGroup principal user).Sat state
      (Login.Settles adminGroup principal) := by
  have hidentity : user.identity = principal.identity := by simpa using List.find?_some hknown
  unfold Script.Sat
  rw [run_promote hstore hknown]
  split
  · rintro promoted ⟨⟩
    refine ⟨⟨_, rfl, ?_⟩, fun _ => rfl⟩
    -- the flag is no part of the identity, so the first user of the identity is still this one
    have hfirst : ∀ first, table.knownAs? user.identity = some first → first.id = user.id := by
      intro first hfirst
      rw [hidentity, hknown] at hfirst
      cases hfirst
      rfl
    rw [← hidentity]
    exact Table.knownAs?_insert hfirst
  · rename_i hdone
    rintro _ ⟨⟩
    refine ⟨⟨table, hstore, hknown⟩, fun hadmin => ?_⟩
    by_contra hplain
    exact hdone ⟨hplain, hadmin⟩

/-- Who is registered is the only user of its identity. -/
theorem register_settles (hstore : state.stores.users = .memory table)
    (hunknown : table.knownAs? principal.identity = none) {flag : Bool}
    (hflag : principal.isSuperAdmin adminGroup = true → flag = true) (granted : List Role) :
    (register principal granted flag).Sat state (Login.Settles adminGroup principal) := by
  refine (register_cases hstore principal granted flag).mono fun hregistered => ?_
  cases hregistered with
  | refused => exact nofun
  | @stored user roles hfree hroles huser =>
    rintro _ ⟨⟩
    have hidentity : user.identity = principal.identity := by rw [huser]; rfl
    refine ⟨⟨_, rfl, ?_⟩, fun hadmin => ?_⟩
    · rw [← hidentity]
      refine Table.knownAs?_insert fun first hfirst => ?_
      rw [hidentity, hunknown] at hfirst
      cases hfirst
    · rw [huser]
      exact hflag hadmin

theorem createUser_settles (hstore : state.stores.users = .memory table)
    (hunknown : table.knownAs? principal.identity = none) :
    (Login.createUser adminGroup principal).Sat state (Login.Settles adminGroup principal) := by
  rw [login_createUser_eq]
  -- the roles and the flag are read before anything is written
  refine .after_reading (Roles.ofPrincipal_readOnly _) (fun granted _ => ?_) fun _ _ => nofun
  refine .after_reading (firstFlag_readOnly _ _) (fun flag hrun => ?_) fun _ _ => nofun
  refine register_settles hstore hunknown (fun hadmin => ?_) granted
  -- the groups decide before the configuration is looked at
  unfold firstFlag at hrun
  rw [if_pos hadmin] at hrun
  cases hrun
  rfl

/-- **Whichever way a login takes, it leaves its principal settled.** -/
theorem settled_of_userOf {after : State} (hstore : state.stores.users = .memory table)
    (h : (Login.userOf adminGroup principal).run state = (.ok user, after)) :
    Login.Settled adminGroup principal user after := by
  have hsettles : (Login.userOf adminGroup principal).Sat state
      (Login.Settles adminGroup principal) := by
    unfold Login.userOf
    refine .after_reading (find?_readOnly _ _ _) (fun found hfound => ?_) fun _ _ => nofun
    have hknown := find?_knownAs hstore hfound
    -- a known user has its flag seen to, an unknown one is registered
    cases found with
    | some known => exact promote_settles hstore hknown
    | none => exact createUser_settles hstore hknown
  exact hsettles.of_run h user rfl

/-- A login answers with the user that it has found or stored, and with a context for it. -/
theorem run_provision_ok_iff {after : State} {context : Context} :
    (Login.provision adminGroup principal).run state = (.ok (user, context), after)
      ↔ (Login.userOf adminGroup principal).run state = (.ok user, after)
        ∧ Login.contextFor user (some principal.organization) = .ok context := by
  rw [run_provision]
  constructor
  · intro h
    rcases hrun : (Login.userOf adminGroup principal).run state with ⟨error | known, left⟩
      <;> rw [hrun] at h
    · cases h
    · obtain ⟨hanswer, rfl⟩ := Prod.mk.inj h
      -- a user that has been found or stored may still not act where it asks to
      cases hcontext : Login.contextFor known (some principal.organization) with
      | error error => rw [hcontext] at hanswer; cases hanswer
      | ok given => rw [hcontext] at hanswer; cases hanswer; exact ⟨rfl, hcontext⟩
  · rintro ⟨hrun, hcontext⟩
    rw [hrun]
    show ((Login.contextFor user _).map (user, ·), after) = _
    rw [hcontext]
    rfl

end Logins

/-- **A login repeats, and the requests after it agree with it.** Whatever users are stored, two of
one identity among them: once a login has answered with a user and a context, the same login answers
so again and changes nothing, and each request with a token of the principal is handled in that very
context. -/
theorem login_repeats {state after : State} {table : Table User}
    (hstore : state.stores.users = .memory table) {adminGroup : Option String}
    {principal : Principal} {user : User} {context : Context}
    (hlogin : (Login.provision adminGroup principal).run state = (.ok (user, context), after)) :
    (Login.provision adminGroup principal).run after = (.ok (user, context), after)
    ∧ (Login.contextOf principal).run after = (.ok context, after)
    ∧ ∀ security request route, Intake.principal security request = .ok principal →
      (Console.serve security request route).run after
        = if route.takes request.method then
            (Console.handle security principal context request route).run after
          else (.error ⟨405, .empty⟩, after) := by
  obtain ⟨hrun, hcontext⟩ := run_provision_ok_iff.1 hlogin
  have hsettled := settled_of_userOf hstore hrun
  obtain ⟨users, husers, hknown⟩ := hsettled.known
  -- both ways lead to the context of the settled user
  have hderived : (Login.contextOf principal).run after = (.ok context, after) := by
    rw [run_contextOf husers, hknown]
    exact congrArg (·, after) hcontext
  refine ⟨run_provision_ok_iff.2 ⟨hsettled.run_userOf, hcontext⟩, hderived, ?_⟩
  intro security request route hsession
  exact serve_of_session hsession (congrArg Prod.fst hderived)

namespace Visitor

/-- A second user of the visitor's identity. -/
def twin : User := { user with id := "u2", roles := [] }

def twins : State :=
  ⟨.layeredOver {} [] [] { users := .ofList [twin, user] : PrimaryTables }.stores, world⟩

/-- What the visitor is from its first visit on. -/
def promoted : User := { user with superAdmin := true }

end Visitor

/-- The visitor has a twin, and is promoted by its first login; after that it just lists. -/
theorem login_repeats_twins : ∃ after,
    Visitor.twins.stores.users = .memory (.ofList [Visitor.twin, Visitor.user])
      ∧ (Login.provision (some "g") Visitor.principal).run Visitor.twins
        = (.ok (Visitor.promoted, .forUser Visitor.promoted (some "o")), after)
      ∧ (Login.provision (some "g") Visitor.principal).run after
        = (.ok (Visitor.promoted, .forUser Visitor.promoted (some "o")), after)
      ∧ (Console.serve Visitor.security (Visitor.asking .get "/api/users") .users).run after
        = (Console.list users (.forUser Visitor.promoted (some "o"))).run after := by
  have hstore : Visitor.twins.stores.users = .memory (.ofList [Visitor.twin, Visitor.user]) := rfl
  have hlogin : (Login.provision (some "g") Visitor.principal).run Visitor.twins
      = (.ok (Visitor.promoted, .forUser Visitor.promoted (some "o")), _) := rfl
  obtain ⟨hagain, -, hserves⟩ := login_repeats hstore hlogin
  have hlists := hserves Visitor.security _ .users (Visitor.session_asking .get "/api/users")
  exact ⟨_, hstore, hlogin, hagain, hlists⟩

end TenantConsole
