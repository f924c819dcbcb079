import TenantConsole.Proofs.AkinStates
import TenantConsole.Proofs.Requests

/-!
# No detail of a failure reaches a client

A store that fails says why in a text that is meant for the operator. The text travels far: a chain
takes it up in a reason of its own, scopes and services hand it on. It does not reach a client. Two
consoles that differ in these texts only give the same response to every request of a sequence.

What remains to be said on top of the discreet services is what becomes of their errors:

* **`ofStore_akin`**, **`ofGuard_akin`**, **`ofService_akin`**: errors that differ in such a text
  become one and the same error of the interface, so from there on there is nothing to compare;
* **`serve_discreet`**: with that, a handler ends in one response, whichever of two akin states it
  has started from;
* **`respondAllAmid`**: stores need not fail in the same way all the time. The state may change
  before every single step, from outside, and in the other console with other texts.
-/

namespace TenantConsole

open Collection

/-! ## Errors of the interface -/

/-- The text of a failure is left out of the error of the interface; what is missing or in conflict
is named the same on both sides. -/
theorem ofStore_akin {error error' : StoreError} (h : error.Akin error') :
    ApiError.ofStore error = ApiError.ofStore error' := by
  cases h <;> rfl

/-- The guard's own refusals are the same, and what it hands on is an error of a store. -/
theorem ofGuard_akin {error error' : GuardError} (h : error.Akin error') :
    ApiError.ofGuard error = ApiError.ofGuard error' := by
  cases h with
  | same error => rfl
  | store h => exact ofStore_akin h

/-- Akin errors of the services become one error of the interface. -/
theorem ofService_akin {error error' : ServiceError} (h : error.Akin error') :
    ApiError.ofService error = ApiError.ofService error' := by
  cases h with
  | same error => rfl
  | store h => exact ofStore_akin h
  | guard h => exact ofGuard_akin h

/-! ## Handlers -/

/-- What a failing service answers is one response. -/
theorem Script.Discreet.failService {α : Type} {script : ServiceScript α}
    (h : script.Discreet ServiceError.Akin) :
    (script.orFail Console.serviceFailure).Discreet Eq :=
  h.orFail fun herror => congrArg ApiError.response (ofService_akin herror)

/-- A handler that asks a store without a service in between answers akin failures with one
response. -/
theorem Script.Discreet.failStore {α : Type} {script : StoreScript α}
    (h : script.Discreet StoreError.Akin) : (script.orFail Console.storeFailure).Discreet Eq :=
  h.orFail fun herror => congrArg ApiError.response (ofStore_akin herror)

/-- What does not ask the stores answers the same. -/
theorem Script.discreet_ofExcept {α : Type} (result : Except Response α) :
    (Script.ofExcept result : Script State Response α).Discreet Eq :=
  .ofExcept (.refl (fun _ => rfl) result)

namespace Console

section Handlers

variable (context : Context) (request : Request)

theorem list_discreet {ρ : Type} [Record ρ] {collection : Collection ρ}
    (hdiscreet : collection.Discreet) : (list collection context).Discreet Eq :=
  .bind (discreet_all hdiscreet context).failStore fun _ => .pure _

theorem me_discreet (security : SecuritySettings) (principal : Principal) :
    (me security principal).Discreet Eq :=
  .bind (provision_discreet security.superAdminGroup principal).failService fun _ => .pure _

/-- The body is read from the request, which is the same; from there on it is the service. -/
theorem createOrganization_discreet : (createOrganization context request).Discreet Eq := by
  refine .bind (Script.discreet_ofExcept _) fun organization => ?_
  exact .bind (TenantConsole.createOrganization_discreet context organization).failService
    fun _ => .pure _

theorem deleteOrganization_discreet (segment : String) :
    (deleteOrganization context segment).Discreet Eq := by
  refine .bind (Script.discreet_ofExcept _) fun id => ?_
  exact .bind (TenantConsole.deleteOrganization_discreet context id).failService fun _ => .pure _

theorem createUser_discreet : (createUser context request).Discreet Eq := by
  refine .bind (Script.discreet_ofExcept _) fun submission => ?_
  exact .bind (TenantConsole.createUser_discreet context submission).failService
    fun _ => .pure _

theorem updateUser_discreet (segment : String) :
    (updateUser context segment request).Discreet Eq := by
  refine .bind (Script.discreet_ofExcept _) fun id => ?_
  refine .bind (Script.discreet_ofExcept _) fun patch => ?_
  exact .bind (TenantConsole.updateUser_discreet context id patch).failService
    fun _ => .pure _

/-- The one handler without a service: its organization is looked up and the mapping is added, each
in a call of its own. -/
theorem createMapping_discreet : (createMapping context request).Discreet Eq := by
  unfold createMapping
  refine .bind (Script.discreet_ofExcept _) fun mapping => ?_
  split
  · exact .fail rfl
  · refine .bind (discreet_get organizations_discreet context _).failStore fun _ => ?_
    exact .bind (discreet_write mappings_discreet context _).failStore fun _ => .pure _

/-- Route by route, each with its handler or its collection. -/
theorem handle_discreet (security : SecuritySettings) (principal : Principal) (route : Route) :
    (handle security principal context request route).Discreet Eq := by
  cases route with
  | me => exact me_discreet security principal
  | organizations =>
    simp only [handle]
    split
    · exact createOrganization_discreet context request
    · exact list_discreet context organizations_discreet
  | organization segment => exact deleteOrganization_discreet context segment
  | users =>
    simp only [handle]
    split
    · exact createUser_discreet context request
    · exact list_discreet context users_discreet
  | user segment => exact updateUser_discreet context request segment
  | mappings =>
    simp only [handle]
    split
    · exact createMapping_discreet context request
    · exact list_discreet context mappings_discreet
  | sources => exact list_discreet context sources_discreet
  | servers => exact list_discreet context servers_discreet
  | dashboards => exact list_discreet context dashboards_discreet
  | layouts => exact list_discreet context layouts_discreet
  | protoboards => exact list_discreet context protoboards_discreet
  | templates => exact list_discreet context templates_discreet
  | health => exact .fail rfl

end Handlers

/-- **A request is served alike in akin states.** -/
theorem serve_discreet (security : SecuritySettings) (request : Request) (route : Route) :
    (serve security request route).Discreet Eq := by
  unfold serve
  refine .bind (Script.discreet_ofExcept _) fun principal => ?_
  refine .bind (contextOf_discreet principal).failService fun context => ?_
  -- the method is judged only once the caller has a context
  split
  · exact handle_discreet context request security principal route
  · exact .fail rfl

/-! ## Requests -/

/-- Two consoles with the same settings, in akin states. -/
structure Akin (console other : Console) : Prop where
  security : console.security = other.security
  state : console.state.Akin other.state

/-- The route under which a request gets to the stores, if it gets there. -/
def servedRoute? (request : Request) : Option Route :=
  if request.method = .options then none
  else (Route.ofTarget? request.target).filter (· ≠ .health)

/-- Answers one request while the state changes under the console's feet; `count` counts the steps
that have been made. -/
def respondAmid (disturb : Nat → State → State) (console : Console) (count : Nat)
    (request : Request) : Response × Nat × Console :=
  match servedRoute? request with
  | none => ((console.respond request).1, count, console)
  | some route =>
    let (result, count, state) :=
      (serve console.security request route).runAmid disturb count console.state
    (if request.method = .head then (ended result).bare else ended result, count,
      { console with state })

/-- Answers one request after another in a state that changes. -/
def respondAllAmid (disturb : Nat → State → State) (console : Console) (count : Nat) :
    List Request → List Response × Console
  | [] => ([], console)
  | request :: rest =>
    let (response, count, console) := console.respondAmid disturb count request
    let (responses, console) := console.respondAllAmid disturb count rest
    (response :: responses, console)

/-- What does not get to the stores is answered by the request alone. -/
theorem respond_unserved {request : Request} (h : servedRoute? request = none) :
    ∃ response, ∀ console : Console, console.respond request = (response, console) := by
  have hanswer : ∃ response, ∀ console : Console, console.answer request = (response, console) := by
    unfold servedRoute? at h
    unfold answer
    split at h
    · -- a preflight
      rename_i hmethod
      exact ⟨⟨200, .empty⟩, fun _ => if_pos hmethod⟩
    · rename_i hmethod
      simp only [if_neg hmethod]
      -- an unknown path, or the health check
      cases hroute : Route.ofTarget? request.target with
      | none => exact ⟨⟨404, .empty⟩, fun _ => rfl⟩
      | some route =>
        rw [hroute] at h
        have hhealth : route = .health := by simpa [Option.filter] using h
        subst hhealth
        exact ⟨if Route.health.takes request.method then health request.moment else ⟨405, .empty⟩,
          fun _ => rfl⟩
  obtain ⟨response, hanswer⟩ := hanswer
  refine ⟨if request.method = .head then response.bare else response, fun console => ?_⟩
  unfold respond
  rw [hanswer]

/-- A request that does get there is answered by the script that serves it. -/
theorem respond_served {request : Request} {route : Route}
    (h : servedRoute? request = some route) (console : Console) :
    console.respond request
      = (if request.method = .head then
            (ended ((serve console.security request route).run console.state).1).bare
          else ended ((serve console.security request route).run console.state).1,
        { console with
          state := ((serve console.security request route).run console.state).2 }) := by
  unfold servedRoute? at h
  split at h
  · cases h
  · rename_i hmethod
    obtain ⟨hroute, hhealth⟩ := Option.filter_eq_some_iff.1 h
    exact respond_eq_serve hroute (by simpa using hhealth) hmethod

/-- Where nothing happens from outside, a request is answered as ever. -/
theorem respondAmid_undisturbed (console : Console) (count : Nat) (request : Request) :
    ∃ count', console.respondAmid (fun _ state => state) count request
      = ((console.respond request).1, count', (console.respond request).2) := by
  unfold respondAmid
  cases hserved : servedRoute? request with
  | none =>
    obtain ⟨response, hrespond⟩ := respond_unserved hserved
    exact ⟨count, by rw [hrespond]⟩
  | some route =>
    obtain ⟨count', hrun⟩ :=
      (serve console.security request route).runAmid_undisturbed count console.state
    exact ⟨count', by simp only [hrun, respond_served hserved]⟩

/-- If nothing happens between them, a sequence of requests is answered as ever. Induction on the
requests. -/
theorem respondAllAmid_undisturbed (console : Console) (count : Nat) (requests : List Request) :
    console.respondAllAmid (fun _ state => state) count requests = console.respondAll requests := by
  induction requests generalizing console count with
  | nil => rfl
  | cons request rest ih =>
    obtain ⟨count', hfirst⟩ := respondAmid_undisturbed console count request
    simp only [respondAllAmid, respondAll, hfirst, ih]

/-- Two ways for states to change that keep akin states akin. -/
def ChangesAkin (disturb disturb' : Nat → State → State) : Prop :=
  ∀ count {state state' : State}, state.Akin state' →
    (disturb count state).Akin (disturb' count state')

/-- **One request.** Akin consoles give one response, and are akin afterwards. -/
theorem respondAmid_akin {disturb disturb' : Nat → State → State}
    (hdisturb : ChangesAkin disturb disturb') {console console' : Console}
    (h : console.Akin console') (count : Nat) (request : Request) :
    (console.respondAmid disturb count request).1 = (console'.respondAmid disturb' count request).1
      ∧ (console.respondAmid disturb count request).2.1
        = (console'.respondAmid disturb' count request).2.1
      ∧ (console.respondAmid disturb count request).2.2.Akin
          (console'.respondAmid disturb' count request).2.2 := by
  unfold respondAmid
  cases hserved : servedRoute? request with
  | none =>
    obtain ⟨response, hrespond⟩ := respond_unserved hserved
    -- both consoles answer without a look at their states
    simp only [hrespond]
    exact ⟨trivial, trivial, h⟩
  | some route =>
    -- the same number of steps is made, so the counts go on together
    obtain ⟨hanswers, hcounts, hstates⟩ :=
      (serve_discreet console.security request route).runAmid hdisturb count h.state
    simp only [← h.security]
    refine ⟨?_, hcounts, ⟨rfl, hstates⟩⟩
    -- two responses that agree up to equality are equal
    have hsame : ∀ {answer answer' : Except Response Response}, UpTo Eq answer answer' →
        answer = answer' := by
      rintro _ _ (_ | rfl) <;> rfl
    rw [hsame hanswers]

/-- **Any sequence of requests.** Akin consoles give the same responses, in states that change
alike. -/
theorem respondAllAmid_akin {disturb disturb' : Nat → State → State}
    (hdisturb : ChangesAkin disturb disturb') {console console' : Console}
    (h : console.Akin console') (count : Nat) (requests : List Request) :
    (console.respondAllAmid disturb count requests).1
      = (console'.respondAllAmid disturb' count requests).1 := by
  induction requests generalizing console console' count with
  | nil => rfl
  -- what the first request leaves is akin, and is where the others begin
  | cons request rest ih =>
    obtain ⟨hresponse, hcount, hafter⟩ := respondAmid_akin hdisturb h count request
    simp only [respondAllAmid]
    rw [hresponse, hcount, ih hafter]

/-- **No detail of a failure reaches a client.** Of two consoles that differ in the texts of their
stores' failures only, the clients get the same responses; so they do if the stores begin and cease
to fail in between, before any single step, each time with texts of their own. -/
theorem failure_detail_hidden {console console' : Console} (h : console.Akin console')
    (requests : List Request) :
    (console.respondAll requests).1 = (console'.respondAll requests).1
      ∧ ∀ disturb disturb', ChangesAkin disturb disturb' →
        (console.respondAllAmid disturb 0 requests).1
          = (console'.respondAllAmid disturb' 0 requests).1 := by
  refine ⟨?_, fun disturb disturb' hdisturb => respondAllAmid_akin hdisturb h 0 requests⟩
  -- a run by itself is one in which nothing happens from outside
  have hstill : ChangesAkin (fun _ state => state) fun _ state => state := fun _ _ _ h => h
  have hsame := respondAllAmid_akin hstill h 0 requests
  rwa [respondAllAmid_undisturbed, respondAllAmid_undisturbed] at hsame

end Console

/-! ### An outage -/

namespace Outage

/-- Users cannot be listed, and sources are not to be had at all. -/
def primary (reason : String) : PrimaryStores where
  sources := .faulty (.unavailable "database" reason) [.all, .get, .add] (.memory .empty)
  users := .faulty (.backend reason) [.all] (.memory .empty)

def console (reason : String) : Console :=
  ⟨⟨"s3cret", 1, none⟩, ⟨Stores.layeredOver {} [] [] (primary reason), ⟨Nat.repr, 0, []⟩⟩⟩

/-- The mappings are lost as well, from the third step on. -/
def spread (reason : String) (count : Nat) (state : State) : State :=
  if count = 2 then
    { state with stores := { state.stores with
        mappings := .faulty (.backend reason) [.all] state.stores.mappings } }
  else state

/-- The two consoles differ in the reason of their outage only. -/
theorem console_akin (reason reason' : String) : (console reason).Akin (console reason') := by
  have hprimary : (primary reason).Akin (primary reason') :=
    { sources := .faulty (.unavailable ..) _ (.same _)
      servers := .same _
      users := .faulty (.backend ..) _ (.same _)
      dashboards := .same _
      organizations := .same _
      config := .same _
      mappings := .same _
      layouts := .same _ }
  have hassemble (reason : String) :
      Stores.assemble {} (primary reason) = .ok (console reason).state.stores := rfl
  obtain ⟨stores, hstores, hakin⟩ := assemble_akin hprimary (hassemble reason)
  cases hstores.symm.trans (hassemble reason')
  exact ⟨rfl, hakin, rfl⟩

/-- When the mappings are lost as well, the reason is again all that differs. -/
theorem spread_akin (reason reason' : String) :
    Console.ChangesAkin (spread reason) (spread reason') := by
  intro count state state' h
  unfold spread
  split
  · exact ⟨{ h.stores with mappings := .faulty (.backend ..) _ h.stores.mappings }, h.world⟩
  · exact h

end Outage

open Outage

/-- The stores answer with two different texts, and no client can tell them apart. -/
theorem failure_detail_hidden_outage :
    (console "disk full").Akin (console "timeout")
      ∧ (((Collection.users.all .server).run (console "disk full").state).1
          = .error (.backend "disk full")
        ∧ ((Collection.users.all .server).run (console "timeout").state).1
          = .error (.backend "timeout"))
      ∧ ∀ requests,
        ((console "disk full").respondAll requests).1 = ((console "timeout").respondAll requests).1
        ∧ ((console "disk full").respondAllAmid (spread "no route") 0 requests).1
          = ((console "timeout").respondAllAmid (spread "reset by peer") 0 requests).1 := by
  refine ⟨console_akin .., ⟨rfl, rfl⟩, fun requests => ?_⟩
  obtain ⟨hsame, hamid⟩ :=
    Console.failure_detail_hidden (console_akin "disk full" "timeout") requests
  exact ⟨hsame, hamid _ _ (spread_akin _ _)⟩

end TenantConsole
