import TenantConsole.Proofs.Interleavings
import TenantConsole.Proofs.RepeatedLogins

/-!
# Two first logins at once

A first login looks for its user, finds nobody, looks for what to grant, and adds a user in its last
call. Nothing ties the addition to the search: if another login of the same principal comes in
between, it adds a user as well, under an id of its own.

* **`Script.Looks`**: a script that only looks until one call is left. What it finds depends on a
  part of the state only, and the last call of the other login keeps that part.
* **`Script.together_same`**: two runs of one such script. They go one after the other, or both have
  begun before either has made its last call; then the last call is made twice.
* **`createUser_looks`**: a login that has found nobody is a script of this kind.

`first_logins_once_iff` says what it takes for the identity to be stored twice.
-/

namespace TenantConsole

namespace Script

variable {σ ε ε' α β τ : Type}

/-! ## Looking before the last call -/

/-- A script that leaves the state alone for some steps, and goes on in the same way wherever this
part of the state is as it was at the start, until `last` is left of it. -/
inductive Looks (part : σ → τ) (start : σ) (last : Script σ ε α) : Script σ ε α → Prop where
  | here : Looks part start last last
  | look {rest : σ → Script σ ε α} {next : Script σ ε α}
      (hrest : ∀ state, part state = part start → rest state = next)
      (hnext : Looks part start last next) :
      Looks part start last (.step (fun state => state) rest)

/-- A script that only looks for a while, and of which something is left with this property. -/
def LooksFor (part : σ → τ) (start : σ) (left : Script σ ε α → Prop) (script : Script σ ε α) :
    Prop :=
  ∃ last, left last ∧ Looks part start last script

/-- Nothing is left but the answer. -/
inductive Ended : Script σ ε α → Prop where
  | done (result : Except ε α) : Ended (.done result)

variable {part : σ → τ} {start : σ} {left : Script σ ε α → Prop}

/-- Where the part is as it was at the start, only the last call is left to tell. -/
theorem Looks.run {last script : Script σ ε α} (h : Looks part start last script) {state : σ}
    (hpart : part state = part start) : script.run state = last.run state := by
  -- along the looks, each of which finds what it would have found at the start
  induction h with
  | here => rfl
  | look hrest _ ih => rw [← ih, ← hrest state hpart]; rfl

/-- Making something else of the answer leaves the looks as they are. -/
theorem Looks.answering {last script : Script σ ε α} (h : Looks part start last script)
    (f : Except ε α → Except ε' β) :
    Looks part start (last.answering f) (script.answering f) := by
  induction h with
  | here => exact .here
  | look hrest _ ih => exact .look (fun state hpart => by rw [hrest state hpart]) ih

namespace LooksFor

theorem now {script : Script σ ε α} (h : left script) : LooksFor part start left script :=
  ⟨script, h, .here⟩

theorem pure (value : α) : LooksFor part start Ended (Pure.pure value : Script σ ε α) :=
  now (.done _)

theorem fail (error : ε) : LooksFor part start Ended (Script.fail error : Script σ ε α) :=
  now (.done _)

/-- What is read has to be in the part of the state. -/
theorem look {read : σ → Except ε α}
    (hread : ∀ state, part state = part start → read state = read start) :
    LooksFor part start Ended (Script.look read) :=
  ⟨.done (read start), .done _, .look (fun state hpart => by rw [hread state hpart]) .here⟩

theorem attempt {script : Script σ ε α} (h : LooksFor part start Ended script) :
    LooksFor part start Ended (script.attempt : Script σ ε' (Except ε α)) := by
  obtain ⟨_, ⟨result⟩, hlooks⟩ := h
  exact ⟨_, .done _, hlooks.answering Except.ok⟩

/-- One that looks to its end may be followed by one that looks. -/
theorem bind {left : Script σ ε β → Prop} {script : Script σ ε α} {next : α → Script σ ε β}
    (h : LooksFor part start Ended script) (herror : ∀ error, left (.done (.error error)))
    (hnext : ∀ value, LooksFor part start left (next value)) :
    LooksFor part start left (script >>= next) := by
  obtain ⟨_, ⟨result⟩, hlooks⟩ := h
  show LooksFor part start left (script.bind next)
  -- on the steps of the first script; what is next starts where it ends
  induction hlooks with
  | here =>
    cases result with
    | error error => exact now (herror error)
    | ok value => exact hnext value
  | look hrest _ ih =>
    obtain ⟨last, hlast, hlooks⟩ := ih
    exact ⟨last, hlast, .look (fun state hpart => by rw [hrest state hpart]) hlooks⟩

end LooksFor

/-! ## Two runs of one script -/

/-- How many steps a script makes that has the state for itself. -/
def calls : Script σ ε α → σ → Nat
  | .done _, _ => 0
  | .step change rest, state => (rest state).calls (change state) + 1

/-- The schedule lets one of two runs make all its calls before the other one begins. -/
def InTurn (calls : Nat) (schedule : List Bool) : Prop :=
  (∀ turn ∈ schedule.take calls, turn = true) ∨ schedule.take calls = List.replicate calls false

/-- The second one takes the next step, wherever the first one stands. -/
theorem together_false_step (rest : List Bool) (first : Script σ ε α) (change : σ → σ)
    (next : σ → Script σ ε β) (state : σ) :
    together (false :: rest) first (.step change next) state
      = together rest first (next state) (change state) := by
  cases first <;> rfl

/-- If the first one is through before the second one begins, they run one after the other. -/
theorem together_first_through (first : Script σ ε α) (second : Script σ ε β)
    {schedule : List Bool} {state : σ}
    (hturns : ∀ turn ∈ schedule.take (first.calls state), turn = true) :
    (together schedule first second state).2.2 = (second.run (first.run state).2).2 := by
  -- turn by turn, as long as the first one has calls left
  induction schedule generalizing first state with
  | nil => rfl
  | cons turn rest ih =>
    cases first with
    | done result => rw [together_done_left]; rfl
    | step change next =>
      obtain ⟨rfl, hrest⟩ := List.forall_mem_cons.1 hturns
      exact ih (next state) hrest

theorem together_second_through (first : Script σ ε α) (second : Script σ ε β)
    {schedule : List Bool} {state : σ}
    (hturns : schedule.take (second.calls state) = List.replicate (second.calls state) false) :
    (together schedule first second state).2.2 = (first.run (second.run state).2).2 := by
  induction schedule generalizing second state with
  | nil =>
    cases second with
    | done result => rfl
    | step change next => cases hturns
  | cons turn rest ih =>
    cases second with
    | done result => rw [together_done_right]; rfl
    | step change next =>
      obtain ⟨rfl, hrest⟩ := List.cons.inj hturns
      rw [together_false_step]
      exact ih (next state) hrest

section Same

variable {first second script last : Script σ ε α} {opening : σ → Script σ ε α}

/-- Two scripts that have nothing but the same last call before them, apart from looks, both make
it. -/
theorem together_looked (hlast : last.OneCall) (hkeeps : part (last.run start).2 = part start)
    (hfirst : Looks part start last first) (hsecond : Looks part start last second)
    (schedule : List Bool) :
    (together schedule first second start).2.2 = (last.run (last.run start).2).2 := by
  -- turn by turn: whoever makes the last call first, the other one has nothing but looks and that
  -- call left
  induction schedule generalizing first second with
  | nil =>
    show (second.run (first.run start).2).2 = _
    rw [hfirst.run rfl, hsecond.run hkeeps]
  | cons turn rest ih =>
    cases turn with
    | true =>
      cases hfirst with
      | here => rw [together_first_ends hlast, hsecond.run hkeeps]
      | look hrest hnext =>
        rw [← hrest start rfl] at hnext
        exact ih hnext hsecond
    | false =>
      cases hsecond with
      | here => rw [together_second_ends first hlast, hfirst.run hkeeps]
      | @look next _ hrest hnext =>
        rw [← hrest start rfl] at hnext
        rw [together_false_step]
        exact ih hfirst hnext

/-- The second one begins while the first one still has its last call before it. -/
theorem together_first_overtaken (hlast : last.OneCall)
    (hkeeps : part (last.run start).2 = part start)
    (hopening : Looks part start last (opening start)) (hfirst : Looks part start last first)
    {schedule : List Bool} (hturns : ¬ ∀ turn ∈ schedule.take (first.calls start), turn = true) :
    (together schedule first (.step (fun state => state) opening) start).2.2
      = (last.run (last.run start).2).2 := by
  -- turn by turn until the second one begins, which it does before the first one is through
  induction schedule generalizing first with
  | nil =>
    rw [List.take_nil] at hturns
    exact absurd nofun hturns
  | cons turn rest ih =>
    cases turn with
    | true =>
      cases hfirst with
      | here =>
        -- it would be through by now
        cases hlast with
        | done result => exact absurd (fun _ hturn => nomatch hturn) hturns
        | call act => exact absurd (fun _ hturn => List.mem_singleton.1 hturn) hturns
      | @look next _ hrest hnext =>
        have hcalls : ¬ ∀ turn ∈ rest.take ((next start).calls start), turn = true := fun hall =>
          hturns (List.forall_mem_cons.2 ⟨rfl, hall⟩)
        rw [← hrest start rfl] at hnext
        exact ih hnext hcalls
    | false =>
      rw [together_false_step]
      exact together_looked hlast hkeeps hfirst hopening rest

/-- The first one begins while the second one still has its last call before it. -/
theorem together_second_overtaken (hlast : last.OneCall)
    (hkeeps : part (last.run start).2 = part start)
    (hopening : Looks part start last (opening start)) (hsecond : Looks part start last second)
    {schedule : List Bool}
    (hturns : schedule.take (second.calls start) ≠ List.replicate (second.calls start) false) :
    (together schedule (.step (fun state => state) opening) second start).2.2
      = (last.run (last.run start).2).2 := by
  -- the same with the parts exchanged; a schedule that ends leaves the rest to the first one
  induction schedule generalizing second with
  | nil =>
    show (second.run ((opening start).run start).2).2 = _
    rw [hopening.run rfl, hsecond.run hkeeps]
  | cons turn rest ih =>
    cases turn with
    | true => exact together_looked hlast hkeeps hopening hsecond rest
    | false =>
      cases hsecond with
      | here =>
        cases hlast with
        | done result => exact absurd rfl hturns
        | call act => exact absurd rfl hturns
      | @look next _ hrest hnext =>
        have hcalls : rest.take ((next start).calls start)
            ≠ List.replicate ((next start).calls start) false := fun hall =>
          hturns (congrArg (false :: ·) hall)
        rw [← hrest start rfl] at hnext
        exact ih hnext hcalls

/-- **Two runs of one script** that looks, then looks on, and then makes one call. If they do not go
one after the other, both have looked at the start, and the call is made twice. -/
theorem together_same (hlast : last.OneCall) (hkeeps : part (last.run start).2 = part start)
    (hscript : script = .step (fun state => state) opening)
    (hopening : Looks part start last (opening start)) (schedule : List Bool) :
    (InTurn (script.calls start) schedule → (together schedule script script start).2.2
        = (script.run (script.run start).2).2)
      ∧ (¬ InTurn (script.calls start) schedule → (together schedule script script start).2.2
        = (last.run (last.run start).2).2) := by
  subst hscript
  constructor
  · rintro (hturns | hturns)
    · exact together_first_through _ _ hturns
    · exact together_second_through _ _ hturns
  · intro hturns
    obtain ⟨hfirst, hsecond⟩ := not_or.1 hturns
    match schedule with
    | [] => exact absurd (by rw [List.take_nil]; nofun) hfirst
    | true :: rest =>
      exact together_first_overtaken hlast hkeeps hopening hopening fun hall =>
        hfirst (List.forall_mem_cons.2 ⟨rfl, hall⟩)
    | false :: rest =>
      exact together_second_overtaken hlast hkeeps hopening hopening fun hall =>
        hsecond (congrArg (false :: ·) hall)

end Same

/-! ## Answers -/

theorem bind_done (script : Script σ ε α) (next : α → Except ε β) :
    (script.bind fun value => .done (next value)) = script.answering fun result =>
      result.bind next := by
  induction script with
  | done result => cases result <;> rfl
  | step change rest ih => exact congrArg (Script.step change) (funext ih)

theorem answering_answering {ε'' γ : Type} (script : Script σ ε α) (f : Except ε α → Except ε' β)
    (g : Except ε' β → Except ε'' γ) :
    (script.answering f).answering g = script.answering fun result => g (f result) := by
  induction script with
  | done result => rfl
  | step change rest ih => exact congrArg (Script.step change) (funext ih)

theorem calls_answering (script : Script σ ε α) (f : Except ε α → Except ε' β) (state : σ) :
    (script.answering f).calls state = script.calls state := by
  induction script generalizing state with
  | done result => rfl
  | step change rest ih => exact congrArg (· + 1) (ih state (change state))

/-- What is made of the answers makes no difference to the state. -/
theorem together_answering (schedule : List Bool) (first : Script σ ε α) (second : Script σ ε β)
    {α' β' : Type} (f : Except ε α → Except ε' α') (g : Except ε β → Except ε' β') (state : σ) :
    (together schedule (first.answering f) (second.answering g) state).2.2
      = (together schedule first second state).2.2 := by
  induction schedule generalizing first second state with
  | nil =>
    show ((second.answering g).run ((first.answering f).run state).2).2 = _
    rw [run_answering, run_answering]
    rfl
  | cons turn rest ih =>
    cases turn with
    | true =>
      cases first with
      | done result =>
        show ((second.answering g).run state).2 = (second.run state).2
        rw [run_answering]
      | step change next => exact ih (next state) second (change state)
    | false =>
      cases second with
      | done result =>
        show (together (false :: rest) (first.answering f) (.done (g result)) state).2.2 = _
        rw [together_done_right, together_done_right, run_answering]
      | step change next =>
        rw [together_false_step]
        show (together (false :: rest) (first.answering f)
          (.step change fun state => (next state).answering g) state).2.2 = _
        rw [together_false_step]
        exact ih first (next state) (change state)

end Script

/-! ## First logins -/

open Collection

/-- The state apart from the users and the ids that have been drawn. -/
def State.aside (state : State) : Stores × Disk :=
  ({ state.stores with users := .closed }, state.world.disk)

/-- What is left of a login that has found nobody and has looked for all that it grants: a refusal,
or the call that adds the user. -/
inductive Login.LastCall (principal : Principal) : StoreScript User → Prop where
  | refused (error : StoreError) : LastCall principal (.done (.error error))
  | adds (draft : User) (hlacks : draft.id = "") (hidentity : draft.identity = principal.identity) :
      LastCall principal (users.add .server draft)

/-- The last call of a login is one call at most. -/
theorem Login.LastCall.oneCall {principal : Principal} {last : StoreScript User}
    (h : Login.LastCall principal last) : last.OneCall := by
  cases h with
  | refused error => exact .done _
  | adds draft => exact .call _

section Looking

open Script

variable {ρ : Type} [Record ρ] {state start : State} {principal : Principal}

/-- Every collection but the users reads the same wherever the state is the same apart from them. -/
theorem readings_aside {collection : Collection ρ} (context : Context)
    (hother : ∀ stores : Stores,
      collection.store { stores with users := .closed } = collection.store stores)
    (h : state.aside = start.aside) :
    collection.readings context state = collection.readings context start := by
  obtain ⟨hstores, hdisk⟩ := Prod.mk.inj h
  unfold readings seen
  rw [← hother state.stores, ← hother start.stores, hstores, hdisk]

/-- A look-up elsewhere than among the users only looks. -/
theorem get?_looks {collection : Collection ρ} (context : Context) (id : String)
    (hother : ∀ stores : Stores,
      collection.store { stores with users := .closed } = collection.store stores) :
    LooksFor State.aside start Ended (collection.get? context id) := by
  have hget : LooksFor State.aside start Ended (collection.get context id) :=
    .look fun state h => by rw [readings_aside context hother h]
  refine .bind hget.attempt (fun _ => .done _) fun answer => ?_
  cases answer with
  | ok record => exact .pure _
  | error error =>
    show LooksFor _ _ _ (if _ then _ else _)
    split
    · exact .pure _
    · exact .fail error

theorem granted_looks (seen : List String) (mappings : List Mapping) :
    LooksFor State.aside start Ended (Roles.granted principal seen mappings) := by
  -- mapping by mapping, and each organization is looked up at most once
  induction mappings generalizing seen with
  | nil => exact .pure _
  | cons mapping rest ih =>
    rw [Roles.granted]
    split
    · exact ih seen
    · refine .bind (get?_looks .server _ fun _ => rfl) (fun _ => .done _) fun found => ?_
      cases found with
      | none => exact ih seen
      | some organization => exact .bind (ih _) (fun _ => .done _) fun _ => .pure _

theorem ofPrincipal_looks (principal : Principal) :
    LooksFor State.aside start Ended (Roles.ofPrincipal principal) := by
  have hall : LooksFor State.aside start Ended (mappings.all .server) :=
    .look fun state h => by rw [readings_aside .server (fun _ => rfl) h]
  exact .bind hall (fun _ => .done _) (granted_looks [])

theorem firstFlag_looks (adminGroup : Option String) (principal : Principal) :
    LooksFor State.aside start Ended (firstFlag adminGroup principal) := by
  unfold firstFlag
  split
  · exact .pure true
  · refine .bind (get?_looks .server _ fun _ => rfl) (fun _ => .done _) fun found => ?_
    cases found <;> exact .pure _

theorem firstRoles_looks (granted : List Role) :
    LooksFor State.aside start Ended (firstRoles granted) := by
  unfold firstRoles
  split
  · have hdefault : LooksFor State.aside start Ended Login.defaultOrganization := by
      refine .look fun state h => ?_
      obtain ⟨hstores, hdisk⟩ := Prod.mk.inj h
      have hsame : state.stores.organizations = start.stores.organizations :=
        (Stores.mk.inj hstores).2.2.2.2.1
      show state.stores.organizations.defaultOrganization state.world.disk
        = start.stores.organizations.defaultOrganization start.world.disk
      rw [hsame, hdisk]
    exact .bind hdefault (fun _ => .done _) fun _ => .pure _
  · exact .pure granted

/-- **A login that has found nobody only looks until its last call.** -/
theorem createUser_looks (adminGroup : Option String) (principal : Principal) (start : State) :
    LooksFor State.aside start (Login.LastCall principal)
      (Login.createUser adminGroup principal) := by
  rw [login_createUser_eq]
  refine .bind (ofPrincipal_looks principal) .refused fun granted => ?_
  refine .bind (firstFlag_looks adminGroup principal) .refused fun flag => ?_
  -- what remains is the decision and, if it is to register, the addition
  unfold register
  split
  · exact .now (.refused _)
  · exact .bind (firstRoles_looks granted) .refused fun roles => .now (.adds _ rfl rfl)

/-- A search that may find nothing is one look at the state. -/
theorem find?_eq_look (collection : Collection ρ) (context : Context) (query : Query ρ) :
    collection.find? context query
      = .look fun state => ((collection.find? context query).run state).1 := by
  refine congrArg (Script.step fun state => state) (funext fun state => ?_)
  simp only [find?, run_bind, run_attempt, run_find]
  cases (collection.readings context state).find query with
  | ok record => rfl
  | error error =>
    show (if _ then _ else _) = Script.done ((if _ then _ else _ : StoreScript _).run state).1
    split <;> rfl

/-- A login looks for its user first. -/
theorem userOf_begins (adminGroup : Option String) (principal : Principal) :
    ∃ opening, Login.userOf adminGroup principal = .step (fun state => state) opening
      ∧ ∀ {state : State} {table : Table User}, state.stores.users = .memory table →
        table.knownAs? principal.identity = none →
        opening state = Login.createUser adminGroup principal := by
  unfold Login.userOf
  rw [find?_eq_look]
  refine ⟨_, rfl, fun {state table} hstore hunknown => ?_⟩
  show (Script.done ((users.find? .server (Scoping.identityQuery principal.identity)).run state).1
    : StoreScript (Option User)).bind _ = _
  rw [run_find?_knownAs hstore, hunknown]
  rfl

end Looking

/-! ## Users of one identity -/

/-- At most one user has the identity. -/
def Table.HoldsOnce (identity : Identity) (table : Table User) : Prop :=
  ∀ user ∈ table.rows, ∀ other ∈ table.rows,
    user.identity = identity → other.identity = identity → user = other

section Tables

variable {identity : Identity} {table : Table User}

theorem Table.HoldsOnce.of_unknown (hunknown : table.knownAs? identity = none) :
    table.HoldsOnce identity := by
  intro user huser other _ hidentity _
  exact absurd hidentity (by simpa using List.find?_eq_none.1 hunknown user huser)

/-- The first user of an identity is the only one. -/
theorem Table.HoldsOnce.insert (hunknown : table.knownAs? identity = none) (user : User) :
    (table.insert user).HoldsOnce identity := by
  have honly : ∀ row ∈ (table.insert user).rows, row.identity = identity → row = user := by
    intro row hrow hidentity
    rcases mem_insert_iff.1 hrow with ⟨-, hsame⟩ | ⟨-, hheld⟩
    · exact hsame
    · exact absurd hidentity (by simpa using List.find?_eq_none.1 hunknown row hheld)
  intro row hrow other hother hidentity hidentity'
  rw [honly row hrow hidentity, honly other hother hidentity']

/-- An id is free after a user has come in if it is not that user's and was free before. -/
theorem Table.get?_insert_eq_none_iff {user : User} {id : String} :
    (table.insert user).get? id = none ↔ id ≠ user.id ∧ table.get? id = none := by
  rw [Table.get?_insert]
  by_cases hsame : Record.id user = id
  · rw [if_pos hsame]
    exact iff_of_false nofun fun h => h.1 hsame.symm
  · rw [if_neg hsame]
    exact (and_iff_right (Ne.symm hsame)).symm

/-- A second one is another one, since it has an id of its own. -/
theorem Table.not_holdsOnce_insert {first second : User} (hfirst : first ∈ table.rows)
    (hids : first.id ≠ second.id) (hidentity : first.identity = identity)
    (hidentity' : second.identity = identity) : ¬ (table.insert second).HoldsOnce identity := by
  intro honce
  have hkept : first ∈ (table.insert second).rows := mem_insert_iff.2 (.inr ⟨hids, hfirst⟩)
  have hadded : second ∈ (table.insert second).rows := mem_insert_iff.2 (.inl ⟨rfl, rfl⟩)
  exact hids (congrArg User.id (honce first hkept second hadded hidentity hidentity'))

end Tables

/-! ## The last call, made twice -/

section Logins

variable {adminGroup : Option String} {principal : Principal} {state : State} {table : Table User}

/-- The last call of a login changes nothing but the users. -/
theorem Login.LastCall.aside_run {last : StoreScript User} (h : Login.LastCall principal last)
    (hstore : state.stores.users = .memory table) : (last.run state).2.aside = state.aside := by
  cases h with
  | refused error => rfl
  | adds draft hlacks hidentity =>
    by_cases hfree : table.get? state.world.nextId = none
    · rw [run_adds_free hstore hlacks hfree]
      rfl
    · obtain ⟨error, after, hrun, hstores, hdisk⟩ := run_adds_held hstore hlacks hfree
      rw [hrun, State.aside, hstores, hdisk]
      rfl

/-- After an addition to users that do not know the identity, they hold it once at most. -/
theorem run_adds_once (hstore : state.stores.users = .memory table)
    (hunknown : table.knownAs? principal.identity = none) {draft : User} (hlacks : draft.id = "") :
    ∃ table', ((users.add .server draft).run state).2.stores.users = .memory table'
      ∧ table'.HoldsOnce principal.identity := by
  by_cases hfree : table.get? state.world.nextId = none
  · rw [run_adds_free hstore hlacks hfree]
    exact ⟨_, rfl, .insert hunknown _⟩
  · obtain ⟨error, after, hrun, hstores, -⟩ := run_adds_held hstore hlacks hfree
    rw [hrun, hstores]
    exact ⟨table, hstore, .of_unknown hunknown⟩

/-- After a second addition they hold it twice, if the id that is drawn is free. -/
theorem run_adds_twice {first : User}
    (hstore : state.stores.users = .memory (table.insert first))
    (hunknown : table.knownAs? principal.identity = none)
    (hfirst : first.identity = principal.identity) {draft : User} (hlacks : draft.id = "")
    (hidentity : draft.identity = principal.identity) :
    ∃ table', ((users.add .server draft).run state).2.stores.users = .memory table'
      ∧ (table'.HoldsOnce principal.identity
        ↔ ¬ (state.world.nextId ≠ first.id ∧ table.get? state.world.nextId = none)) := by
  rw [← Table.get?_insert_eq_none_iff]
  by_cases hfree : (table.insert first).get? state.world.nextId = none
  · rw [run_adds_free hstore hlacks hfree]
    refine ⟨_, rfl, iff_of_false ?_ (not_not.2 hfree)⟩
    have hheld : first ∈ (table.insert first).rows := Table.mem_insert_iff.2 (.inl ⟨rfl, rfl⟩)
    have hapart := (Table.get?_insert_eq_none_iff.1 hfree).1
    exact Table.not_holdsOnce_insert hheld hapart.symm hfirst hidentity
  · obtain ⟨error, after, hrun, hstores, -⟩ := run_adds_held hstore hlacks hfree
    rw [hrun, hstores]
    exact ⟨_, hstore, iff_of_true (.insert hunknown first) hfree⟩

/-- **Who is added twice is stored twice**, if the ids that are drawn are free and not the same. -/
theorem Login.LastCall.twice {last : StoreScript User} (h : Login.LastCall principal last)
    (hstore : state.stores.users = .memory table)
    (hunknown : table.knownAs? principal.identity = none) :
    ∃ table', (last.run (last.run state).2).2.stores.users = .memory table'
      ∧ (table'.HoldsOnce principal.identity
        ↔ ¬ ((∃ user after, last.run state = (.ok user, after))
          ∧ state.world.ids (state.world.drawn + 2) ≠ state.world.nextId
          ∧ table.get? (state.world.ids (state.world.drawn + 2)) = none)) := by
  cases h with
  | refused error =>
    exact ⟨table, hstore, iff_of_true (.of_unknown hunknown) fun ⟨⟨_, _, hrun⟩, _⟩ => nomatch hrun⟩
  | adds draft hlacks hidentity =>
    by_cases hfree : table.get? state.world.nextId = none
    · let first : User := { draft with id := state.world.nextId }
      let between : State := ⟨{ state.stores with users := .memory (table.insert first) },
        { state.world with drawn := state.world.drawn + 1 }⟩
      have hrun : (users.add .server draft).run state = (.ok first, between) :=
        run_adds_free hstore hlacks hfree
      have hbetween : between.stores.users = .memory (table.insert first) := rfl
      rw [hrun]
      obtain ⟨table', husers, honce⟩ := run_adds_twice hbetween hunknown hidentity hlacks hidentity
      exact ⟨table', husers, honce.trans (not_congr (and_iff_right ⟨_, _, rfl⟩).symm)⟩
    · -- the first call adds nobody, so the second one has the table for itself
      obtain ⟨error, between, hrun, hstores, -⟩ := run_adds_held hstore hlacks hfree
      rw [hrun]
      obtain ⟨table', husers, honce⟩ := run_adds_once (hstores ▸ hstore) hunknown hlacks
      exact ⟨table', husers, iff_of_true honce fun ⟨⟨_, _, hnone⟩, _⟩ => nomatch hnone⟩

/-! ## One after the other -/

/-- A login of a principal that is not known registers it. -/
theorem userOf_registers (hstore : state.stores.users = .memory table)
    (hunknown : table.knownAs? principal.identity = none) :
    (Login.userOf adminGroup principal).Sat state fun answer after =>
      ∃ granted flag, Login.Registered principal granted flag state table answer after := by
  have hrefused (error : StoreError) : ∃ granted flag,
      Login.Registered principal granted flag state table (.error error) state :=
    ⟨[], false, .refused rfl rfl⟩
  unfold Login.userOf
  refine .after_reading (find?_readOnly _ _ _) (fun found hfound => ?_) fun error _ =>
    hrefused error
  obtain rfl : none = found := hunknown.symm.trans (find?_knownAs hstore hfound)
  show (Login.createUser adminGroup principal).Sat state _
  rw [login_createUser_eq]
  refine .after_reading (Roles.ofPrincipal_readOnly _) (fun granted _ => ?_) fun error _ =>
    hrefused error
  refine .after_reading (firstFlag_readOnly _ _) (fun flag _ => ?_) fun error _ => hrefused error
  exact (register_cases hstore principal granted flag).mono fun h => ⟨granted, flag, h⟩

/-- **The later of two logins finds the user of the earlier one**, or it is the first that stores
one. -/
theorem userOf_in_turn (adminGroup : Option String) (hstore : state.stores.users = .memory table)
    (hunknown : table.knownAs? principal.identity = none) :
    ∃ table', ((Login.userOf adminGroup principal).run
        ((Login.userOf adminGroup principal).run state).2).2.stores.users = .memory table'
      ∧ table'.HoldsOnce principal.identity := by
  rcases hrun : (Login.userOf adminGroup principal).run state with ⟨answer, between⟩
  obtain ⟨granted, flag, hregistered⟩ := (userOf_registers hstore hunknown).of_run hrun
  cases hregistered with
  -- the earlier login has stored nobody, so the later one is a first login
  | refused hstores _ =>
    have hbetween : between.stores.users = .memory table := by rw [hstores, hstore]
    rcases hrun' : (Login.userOf adminGroup principal).run between with ⟨answer', after⟩
    obtain ⟨granted', flag', hregistered'⟩ := (userOf_registers hbetween hunknown).of_run hrun'
    cases hregistered' with
    | refused hstores' _ =>
      exact ⟨table, by rw [hstores', hbetween], .of_unknown hunknown⟩
    | @stored user _ _ _ _ => exact ⟨_, rfl, .insert hunknown user⟩
  | @stored user _ _ _ _ =>
    rw [(settled_of_userOf hstore hrun).run_userOf]
    exact ⟨_, rfl, .insert hunknown user⟩

/-- What a login makes of its user comes after all its calls. -/
theorem provision_eq_answering (adminGroup : Option String) (principal : Principal) :
    Login.provision adminGroup principal
      = (Login.userOf adminGroup principal).answering fun result =>
          (result.mapError ServiceError.store).bind fun user =>
            (Login.contextFor user (some principal.organization)).map (user, ·) := by
  have hcontext (user : User) : (do
        let context ← Script.ofExcept (Login.contextFor user (some principal.organization))
        return (user, context) : ServiceScript (User × Context))
      = .done ((Login.contextFor user (some principal.organization)).map (user, ·)) := by
    cases Login.contextFor user (some principal.organization) <;> rfl
  unfold Login.provision
  rw [funext hcontext]
  show ((Login.userOf adminGroup principal).answering _).bind _ = _
  rw [Script.bind_done, Script.answering_answering]

/-- What it takes to store a principal twice: two logins that do not go one after the other, each of
which would store it by itself, and two ids that are free and not the same. -/
structure Login.Doubled (adminGroup : Option String) (principal : Principal) (schedule : List Bool)
    (table : Table User) (state : State) : Prop where
  atOnce : ¬ Script.InTurn ((Login.provision adminGroup principal).calls state) schedule
  admitted : ∃ user after, (Login.userOf adminGroup principal).run state = (.ok user, after)
  apart : state.world.ids (state.world.drawn + 2) ≠ state.world.nextId
  free : table.get? (state.world.ids (state.world.drawn + 2)) = none

/-- **Two first logins at once.** Two logins of a principal that no stored user stands for, their
calls in any order: at most one user of the identity is stored in the end, exactly unless the logins
have overlapped, each would have stored its user, and both ids were free. -/
theorem first_logins_once_iff (hstore : state.stores.users = .memory table)
    (adminGroup : Option String)
    (hunknown : ∀ user ∈ table.rows, user.identity ≠ principal.identity) (schedule : List Bool) :
    ∃ table', (Script.together schedule (Login.provision adminGroup principal)
        (Login.provision adminGroup principal) state).2.2.stores.users = .memory table'
      ∧ (table'.HoldsOnce principal.identity
        ↔ ¬ Login.Doubled adminGroup principal schedule table state) := by
  have hnobody : table.knownAs? principal.identity = none :=
    List.find?_eq_none.2 fun user huser => by simpa using hunknown user huser
  obtain ⟨opening, hscript, hopening⟩ := userOf_begins adminGroup principal
  obtain ⟨last, hlast, hlooks⟩ := createUser_looks adminGroup principal state
  rw [← hopening hstore hnobody] at hlooks
  have hrun : (Login.userOf adminGroup principal).run state = last.run state := by
    rw [hscript]
    exact hlooks.run rfl
  obtain ⟨hturn, hover⟩ :=
    Script.together_same hlast.oneCall (hlast.aside_run hstore) hscript hlooks schedule
  rw [provision_eq_answering, Script.together_answering]
  -- one after the other, the later login finds the user; at once, both have looked before either
  -- adds
  by_cases hturns : Script.InTurn ((Login.userOf adminGroup principal).calls state) schedule
  · obtain ⟨table', husers, honce⟩ := userOf_in_turn adminGroup hstore hnobody
    rw [hturn hturns]
    refine ⟨table', husers, iff_of_true honce fun h => h.atOnce ?_⟩
    rwa [provision_eq_answering, Script.calls_answering]
  · obtain ⟨table', husers, htwice⟩ := hlast.twice hstore hnobody
    rw [hover hturns]
    refine ⟨table', husers, htwice.trans (not_congr ⟨?_, fun h => ?_⟩)⟩
    · rintro ⟨hadmitted, hapart, hfree⟩
      refine ⟨?_, by rwa [hrun], hapart, hfree⟩
      rwa [provision_eq_answering, Script.calls_answering]
    · have hadmitted := h.admitted
      rw [hrun] at hadmitted
      exact ⟨hadmitted, h.apart, h.free⟩

end Logins

namespace Office

/-- The office, where every new record gets an id of its own. -/
def lobby : State :=
  { console with world := { ids := fun count => String.ofList (List.replicate count 'u') } }

/-- What an engineer is stored as. -/
def colleague (id : String) : User := Login.newcomer engineer false [⟨"o", .viewer⟩] id

end Office

/-- An engineer whose second login starts when the first one is through is stored once. -/
theorem first_logins_once_in_turn :
    Office.lobby.stores.users = .memory Office.tables.users
      ∧ (∀ user ∈ Office.tables.users.rows, user.identity ≠ Office.engineer.identity)
      ∧ ∃ table, (Script.together [] (Login.provision none Office.engineer)
            (Login.provision none Office.engineer) Office.lobby).2.2.stores.users = .memory table
        ∧ table.rows = [Office.colleague "u"]
        ∧ table.HoldsOnce Office.engineer.identity := by
  have hstore : Office.lobby.stores.users = .memory Office.tables.users := rfl
  have hunknown : ∀ user ∈ Office.tables.users.rows, user.identity ≠ Office.engineer.identity :=
    nofun
  obtain ⟨table, husers, honce⟩ := first_logins_once_iff hstore none hunknown []
  refine ⟨hstore, hunknown, table, husers, ?_, honce.2 fun h => h.atOnce (.inl ?_)⟩
  · cases husers
    rfl
  · rw [List.take_nil]
    nofun

/-- **Two first logins can store two users.** Both look for the engineer before either has stored
it. -/
theorem overlapping_logins_store_twins :
    Office.lobby.stores.users = .memory Office.tables.users
      ∧ (∀ user ∈ Office.tables.users.rows, user.identity ≠ Office.engineer.identity)
      ∧ ∃ table, (Script.together [true, false] (Login.provision none Office.engineer)
            (Login.provision none Office.engineer) Office.lobby).2.2.stores.users = .memory table
        ∧ table.rows = [Office.colleague "u", Office.colleague "uu"]
        ∧ ¬ table.HoldsOnce Office.engineer.identity := by
  refine ⟨rfl, nofun, _, rfl, rfl, fun honce => ?_⟩
  have hsame := honce (Office.colleague "u") (.head _) (Office.colleague "uu") (.tail _ (.head _))
    rfl rfl
  exact absurd (congrArg User.id hsame) (by decide)

end TenantConsole
