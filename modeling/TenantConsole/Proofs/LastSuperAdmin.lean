import TenantConsole.Proofs.Authority

/-!
# The last super admin

No check of the console counts super admins, and yet there is always one left. A flag is taken away
in one place only, by a super admin from somebody else; so whoever takes it still has its own. This
is what `KeepsFlag` says of one user across one request, and what makes the existence of a super
admin an invariant of any run.
-/

namespace TenantConsole

/-- The stored user of the session of a request. -/
def Table.callerOf? (table : Table User) (security : SecuritySettings) (request : Request) :
    Option User :=
  (Intake.principal security request).toOption.bind fun principal =>
    table.knownAs? principal.identity

/-- A super admin stays one, or the caller is another one. -/
def KeepsFlag (caller : Option User) (before after : User) : Prop :=
  before.superAdmin = true → after.superAdmin = true
    ∨ ∃ admin, caller = some admin ∧ admin.superAdmin = true ∧ admin.id ≠ before.id

namespace KeepsFlag

variable {caller : Option User} {before after : User}

theorem of_eq (h : after.superAdmin = before.superAdmin) : KeepsFlag caller before after :=
  fun hbefore => .inl (h.trans hbefore)

theorem refl (user : User) : KeepsFlag caller user user := of_eq rfl

/-- What passes the guard keeps the flag of its target, or comes from another super admin. -/
theorem of_authorized {context : Context} {organization : String} {superAdmin : Bool}
    {table : Table User} {principal : Principal}
    (hauthorized : Authorized context organization (some before) superAdmin)
    (hcaller : ServedBy table principal context) (hafter : after.superAdmin = superAdmin) :
    KeepsFlag (table.knownAs? principal.identity) before after := by
  intro hbefore
  -- the flag is what it was, or a super admin changes it: it is submitted as set, or the target is
  -- somebody else
  rcases hauthorized.flag with hflag | ⟨hadmin, hflag | hother⟩
  · exact .inl (hafter.trans (hflag.trans hbefore))
  · exact .inl (hafter.trans hflag)
  · obtain ⟨admin, huser, hadmin⟩ := hcaller.superAdmin hadmin
    refine .inr ⟨admin, hcaller.user huser, hadmin, fun hid => ?_⟩
    rw [RoleGuard.isSelf_iff.2 ⟨admin, huser, hid⟩] at hother
    cases hother

end KeepsFlag

/-! ## One request -/

section Requests

variable {security : SecuritySettings} {principal : Principal} {context : Context}
  {method : Method} {table after : Table User} {route : Route}

/-- **No effect of a request takes a flag but from somebody else.** -/
theorem RequestEffect.keepsFlags
    (heffect : RequestEffect security principal context method table route after)
    (hcaller : ServedBy table principal context) :
    table.Evolves (KeepsFlag (table.knownAs? principal.identity)) (fun _ => True) after := by
  -- only a reassignment writes a flag that was submitted; the other effects leave it or turn it on
  cases heffect with
  | visited hvisit =>
    cases hvisit with
    | @promoted user hknown hadmin =>
      have hheld : table.get? user.id = some user :=
        Table.get?_of_mem (List.mem_of_find?_eq_some hknown)
      exact .replaced KeepsFlag.refl hheld fun _ => .inl rfl
    | registered hunknown hfree hidentity => exact .inserted KeepsFlag.refl hfree trivial
  | admitted hmethod hauthorized hadmission =>
    exact hadmission.evolves KeepsFlag.refl (fun _ => .of_eq rfl) fun _ => trivial
  | reassigned hsegment hauthorized hfound hreassignment =>
    refine hreassignment.evolves KeepsFlag.refl fun hfound' _ => ?_
    cases hfound.symm.trans hfound'
    exact .of_authorized hauthorized hcaller rfl
  | enrolled hadmin hcreator hadmission =>
    exact hadmission.evolves KeepsFlag.refl (fun _ => .of_eq rfl) fun _ => trivial
  | stripped hadmin hsegment hstripping =>
    refine hstripping.mono (fun h => ?_) fun _ => trivial
    rcases h with rfl | rfl
    · exact .refl _
    · exact .of_eq rfl

/-- A request takes flags from others than its caller at most. -/
theorem respond_keepsFlags (console : Console)
    (hstore : console.state.stores.users = .memory table) (request : Request) :
    ∃ users, (console.respond request).2.state.stores.users = .memory users
      ∧ table.Evolves (KeepsFlag (table.callerOf? console.security request)) (fun _ => True)
        users := by
  obtain ⟨-, hsame | ⟨route, principal, context, hroute, hserved⟩⟩ :=
    respond_effect console hstore request
  · rw [hsame]
    exact ⟨table, hstore, .refl KeepsFlag.refl _⟩
  · have hcaller : table.callerOf? console.security request
        = table.knownAs? principal.identity := by
      unfold Table.callerOf?
      rw [hserved.session]
      rfl
    obtain ⟨users, husers, hchange, -⟩ := hserved.left
    rw [hcaller]
    refine ⟨users, husers, ?_⟩
    rcases hchange with rfl | heffect
    · exact .refl KeepsFlag.refl _
    · exact heffect.keepsFlags hserved.caller

/-- A super admin is still one after its own request. -/
theorem caller_keeps_flag {caller : User}
    (hevolves : table.Evolves (KeepsFlag (some caller)) (fun _ => True) after)
    (hcaller : caller ∈ table.rows) (hadmin : caller.superAdmin = true) :
    ∃ user ∈ after.rows, user.id = caller.id ∧ user.superAdmin = true := by
  obtain ⟨user, huser, hid, hkept⟩ := hevolves.of_mem hcaller
  refine ⟨user, huser, hid, ?_⟩
  -- a flag is lost only to somebody else, and the caller is not somebody else
  rcases hkept hadmin with hflag | ⟨admin, hsame, -, hother⟩
  · exact hflag
  · cases hsame
    exact absurd rfl hother

/-- A table with a super admin. -/
def Administered (table : Table User) : Prop := ∃ user ∈ table.rows, user.superAdmin = true

/-- **The step.** Whoever has lost the flag has lost it to one that has it. -/
theorem Administered.step {caller : Option User} (h : Administered table)
    (hcaller : ∀ user, caller = some user → user ∈ table.rows)
    (hevolves : table.Evolves (KeepsFlag caller) (fun _ => True) after) : Administered after := by
  obtain ⟨user, huser, hadmin⟩ := h
  obtain ⟨user', huser', -, hkept⟩ := hevolves.of_mem huser
  rcases hkept hadmin with hflag | ⟨admin, rfl, hflag, -⟩
  · exact ⟨user', huser', hflag⟩
  · obtain ⟨kept, hkept, -, hflag⟩ := caller_keeps_flag hevolves (hcaller admin rfl) hflag
    exact ⟨kept, hkept, hflag⟩

/-- The caller of a request is stored. -/
theorem mem_of_callerOf? {request : Request} {user : User}
    (h : table.callerOf? security request = some user) : user ∈ table.rows := by
  unfold Table.callerOf? at h
  obtain ⟨principal, -, hknown⟩ := Option.bind_eq_some_iff.1 h
  exact List.mem_of_find?_eq_some hknown

end Requests

/-! ## A run of requests -/

/-- **The run.** It ends with the users in memory and a super admin among them. -/
theorem respondAll_administered (console : Console) {table : Table User}
    (hstore : console.state.stores.users = .memory table) (hadmin : Administered table)
    (requests : List Request) :
    (console.respondAll requests).2.security = console.security
      ∧ ∃ users, (console.respondAll requests).2.state.stores.users = .memory users
        ∧ Administered users := by
  -- the flag is read afresh for each request, so nothing but the tables links two steps
  induction requests generalizing console table with
  | nil => exact ⟨rfl, table, hstore, hadmin⟩
  | cons request rest ih =>
    obtain ⟨users, husers, hevolves⟩ := respond_keepsFlags console hstore request
    have hsecurity := (respond_effect console hstore request).1
    have hstep := hadmin.step (fun _ => mem_of_callerOf?) hevolves
    obtain ⟨hsecurity', hrest⟩ := ih (console.respond request).2 husers hstep
    exact ⟨hsecurity'.trans hsecurity, hrest⟩

/-- **There is always a super admin left.** After any run of requests one is stored, and the next
request does not take the flag of the super admin that sends it. -/
theorem superAdmin_stays {settings : CatalogSettings} {tables : PrimaryTables} {stores : Stores}
    (hassembled : Stores.assemble settings tables.stores = .ok stores)
    (hadmin : ∃ user ∈ tables.users.rows, user.superAdmin = true)
    (security : SecuritySettings) (world : World) (requests : List Request) :
    ∃ console users,
      (Console.respondAll ⟨security, ⟨stores, world⟩⟩ requests).2 = console
        ∧ console.state.stores.users = .memory users
        ∧ (∃ user ∈ users.rows, user.superAdmin = true)
        ∧ ∀ request principal caller, Intake.principal security request = .ok principal →
            users.knownAs? principal.identity = some caller → caller.superAdmin = true →
            ∃ after, (console.respond request).2.state.stores.users = .memory after
              ∧ ∃ user ∈ after.rows, user.id = caller.id ∧ user.superAdmin = true := by
  have hstore : stores.users = .memory tables.users := users_of_assemble hassembled
  obtain ⟨hsecurity, users, husers, hleft⟩ :=
    respondAll_administered ⟨security, ⟨stores, world⟩⟩ hstore hadmin requests
  refine ⟨_, users, rfl, husers, hleft, fun request principal caller hsession hknown hflag => ?_⟩
  obtain ⟨after, hafter, hevolves⟩ := respond_keepsFlags _ husers request
  -- the caller of the request after the run is looked up in the users that the run has left
  have hcaller : users.callerOf? security request = some caller := by
    unfold Table.callerOf?
    rw [hsession]
    exact hknown
  rw [hsecurity, hcaller] at hevolves
  exact ⟨after, hafter, caller_keeps_flag hevolves (mem_of_callerOf? hcaller) hflag⟩

/-- A run of one request leaves what the request leaves. -/
theorem respondAll_single (console : Console) (request : Request) :
    (console.respondAll [request]).2 = (console.respond request).2 := rfl

namespace Root

/-- A super admin, with the session of the visitor. -/
def admin : User :=
  { Visitor.user with superAdmin := true, roles := [⟨Organization.defaultId, .admin⟩] }

/-- Another super admin. -/
def deputy : User := { admin with id := "u2", name := "b" }

def tables : PrimaryTables :=
  { organizations := .ofList [.initial], users := .ofList [admin, deputy] }

def console (stores : Stores) : Console := ⟨Visitor.security, ⟨stores, Visitor.world⟩⟩

/-- In the session of the super admin, the flag of a user is to be taken away. -/
def demotion (id : String) : Request :=
  { Visitor.visit .patch with
    target := "/api/users/" ++ id
    headers := ("content-type", "application/json") :: (Visitor.visit .patch).headers
    body := "\x7b\"super_admin\":false\x7d" }

/-- The session of the demotion is that of the super admin. -/
theorem session_demotion (id : String) :
    Intake.principal Visitor.security (demotion id) = .ok Visitor.principal := by
  have hheader : (demotion id).header? "authorization"
      = (Visitor.visit .patch).header? "authorization" := by
    unfold Request.header?
    show (List.find? _ (_ :: _)).map _ = _
    rw [List.find?_cons_of_neg (by decide +kernel)]
  rw [principal_congr Visitor.security (demotion id) (Visitor.visit .patch) hheader rfl]
  exact Visitor.session .patch

/-- The body asks for the flag to be taken and names no roles. -/
theorem body_demotion :
    Intake.body UserPatch.format (demotion deputy.id) = .ok ⟨none, some false⟩ := by
  have hread : (Intake.body UserPatch.format (demotion deputy.id)).toOption.map
      (fun patch => (patch.roles.isNone, patch.superAdmin)) = some (true, some false) := by
    decide +kernel
  generalize Intake.body UserPatch.format (demotion deputy.id) = answer at hread
  match answer, hread with
  | .ok ⟨none, some false⟩, _ => rfl

/-- The super admin takes the flag from the other one. -/
theorem deputy_demoted {stores : Stores}
    (hassembled : Stores.assemble {} tables.stores = .ok stores) :
    ((console stores).respondAll [demotion deputy.id]).2.state.stores.users
      = .memory (.ofList [admin, { deputy with superAdmin := false }]) := by
  have hroute : Route.ofTarget? (demotion deputy.id).target = some (.user deputy.id) := by
    decide +kernel
  have hdecode : Percent.decode? deputy.id = some deputy.id := by decide +kernel
  cases hassembled
  rw [respondAll_single, respond_of_session (console _) hroute (by decide) (by decide)
    (session_demotion deputy.id) rfl]
  show ((Console.updateUser _ deputy.id (demotion deputy.id)).run _).2.stores.users = _
  unfold Console.updateUser Intake.pathId
  rw [body_demotion, hdecode]
  rfl

end Root

/-- A super admin takes the flag from the only other one, and cannot give away its own. -/
theorem superAdmin_stays_root : ∃ stores console users after,
    Stores.assemble {} Root.tables.stores = .ok stores
      ∧ (∃ user ∈ Root.tables.users.rows, user.superAdmin = true)
      ∧ (Console.respondAll (Root.console stores) [Root.demotion Root.deputy.id]).2 = console
      ∧ console.state.stores.users = .memory users
      ∧ users = .ofList [Root.admin, { Root.deputy with superAdmin := false }]
      ∧ (∃ user ∈ users.rows, user.superAdmin = true)
      ∧ Intake.principal Visitor.security (Root.demotion Root.admin.id) = .ok Visitor.principal
      ∧ users.knownAs? Visitor.principal.identity = some Root.admin
      ∧ (console.respond (Root.demotion Root.admin.id)).2.state.stores.users = .memory after
      ∧ ∃ user ∈ after.rows, user.id = Root.admin.id ∧ user.superAdmin = true := by
  have hassembled : Stores.assemble {} Root.tables.stores = .ok _ := rfl
  have hadmin : ∃ user ∈ Root.tables.users.rows, user.superAdmin = true :=
    ⟨Root.admin, .head _, rfl⟩
  obtain ⟨_, users, rfl, husers, hleft, hnext⟩ :=
    superAdmin_stays hassembled hadmin Visitor.security Visitor.world
      [Root.demotion Root.deputy.id]
  have hdemoted : users = .ofList [Root.admin, { Root.deputy with superAdmin := false }] :=
    Store.memory.inj (husers.symm.trans (Root.deputy_demoted hassembled))
  have hsession := Root.session_demotion Root.admin.id
  have hknown : users.knownAs? Visitor.principal.identity = some Root.admin := by
    rw [hdemoted]
    rfl
  obtain ⟨after, hafter, hkept⟩ := hnext _ _ _ hsession hknown rfl
  exact ⟨_, _, users, after, hassembled, hadmin, rfl, husers, hdemoted, hleft, hsession, hknown,
    hafter, hkept⟩

end TenantConsole
