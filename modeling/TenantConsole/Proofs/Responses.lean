import TenantConsole.Proofs.Requests

/-!
# Which responses are successes

A handler ends in a response on both of its ways out. What it returns is a success, and what it
fails with is not (`ApiError.not_isSuccess`, and the refusals of the intake below); so whoever gets
a success has got what the handler returned. `Succeeds` puts a statement about that into the form in
which it is proved along the text of a handler.
-/

namespace TenantConsole

open Collection

/-- A response with a status of the 200s. -/
def Response.IsSuccess (response : Response) : Prop := response.status / 100 = 2

instance (response : Response) : Decidable response.IsSuccess :=
  inferInstanceAs (Decidable (response.status / 100 = 2))

/-- What a handler returns is this, and what it fails with is no success. -/
def Succeeds (shown : Response → Prop) : Except Response Response → Prop
  | .ok response => shown response
  | .error response => ¬ response.IsSuccess

/-- Only what the handler returned can be a success, and of that the statement holds. -/
theorem Succeeds.of_isSuccess {shown : Response → Prop} {answer : Except Response Response}
    (h : Succeeds shown answer) (hsuccess : (ended answer).IsSuccess) : shown (ended answer) := by
  cases answer with
  | ok response => exact h
  | error response => exact absurd hsuccess h

/-- Other words for an error make no success of it. -/
theorem mapError_eq_ok {ε ε' α : Type} {answer : Except ε α} {f : ε → ε'} {value : α} :
    answer.mapError f = .ok value ↔ answer = .ok value := by
  constructor
  · intro h
    cases answer with
    | error error => cases h
    | ok found =>
      cases h
      rfl
  · rintro rfl
    rfl

/-! ## Refusals -/

/-- No error of the console is answered with a status of the 200s. -/
theorem ApiError.not_isSuccess (error : ApiError) : ¬ error.response.IsSuccess := by
  obtain ⟨kind, message⟩ := error
  cases kind <;> simp [ApiError.response, Response.IsSuccess, Kind.status]

/-- A path without a usable id is no success. -/
theorem Intake.pathId_not_isSuccess {segment : String} {response : Response}
    (h : Intake.pathId segment = .error response) : ¬ response.IsSuccess := by
  unfold Intake.pathId at h
  split at h
  · cases h
  · cases h
    decide

/-- A body that cannot be taken in is no success, whatever the reason. -/
theorem Intake.body_not_isSuccess {α : Type} {format : Format α} {request : Request}
    {response : Response} (h : Intake.body format request = .error response) :
    ¬ response.IsSuccess := by
  unfold Intake.body at h
  -- what is not taken in has a status of its own, as has what is too long
  split at h
  · cases h
    decide
  split at h
  · cases h
    decide
  · -- and so has each of the ways in which the text can be wrong
    split at h
    · cases h
    · cases h
      decide
    · cases h
      decide

/-! ## Listings -/

/-- A listing that can be read is answered whole. -/
theorem run_list {ρ : Type} [Record ρ] {collection : Collection ρ} {context : Context}
    {state : State} {records : List ρ} (h : (collection.readings context state).all = .ok records) :
    (Console.list collection context).run state
      = (.ok (.success (.arr (records.map Record.toJson))), state) := by
  unfold Console.list
  rw [Script.run_bind, Script.run_orFail, run_all, h]
  rfl

/-- What is answered where a listing is asked for. -/
theorem respond_listing (console : Console) {ρ : Type} [Record ρ] {collection : Collection ρ}
    {request : Request} {route : Route} {principal : Principal} {context : Context}
    {records : List ρ} (hroute : Route.ofTarget? request.target = some route)
    (hhealth : route ≠ .health)
    (hsession : Intake.principal console.security request = .ok principal)
    (hderived : ((Login.contextOf principal).run console.state).1 = .ok context)
    (htakes : route.takes .get = true)
    (hlists : Console.handle console.security principal context request route
      = Console.list collection context)
    (hall : (collection.readings context console.state).all = .ok records)
    (hget : request.method = .get) :
    (console.respond request).1 = .success (.arr (records.map Record.toJson)) := by
  have hserved : (Console.serve console.security request route).run console.state
      = (.ok (.success (.arr (records.map Record.toJson))), console.state) := by
    rw [serve_of_session hsession hderived, hget, if_pos htakes, hlists, run_list hall]
  rw [respond_eq_serve hroute hhealth (by rw [hget]; decide), hserved,
    if_neg (by rw [hget]; decide)]
  rfl

/-- A route that is only to be read tells nothing to any other method. -/
theorem respond_body_empty {console : Console} {request : Request} {route : Route}
    {principal : Principal} {context : Context}
    (hroute : Route.ofTarget? request.target = some route) (hhealth : route ≠ .health)
    (hsession : Intake.principal console.security request = .ok principal)
    (hderived : ((Login.contextOf principal).run console.state).1 = .ok context)
    (hmethods : route.methods = [.get]) (hget : request.method ≠ .get) :
    (console.respond request).1.body = .empty := by
  -- `OPTIONS` is answered before the session is looked at, `HEAD` loses its body, all others are
  -- refused
  by_cases hoptions : request.method = .options
  · rw [respond_options console hoptions]
  rw [respond_eq_serve hroute hhealth hoptions]
  by_cases hhead : request.method = .head
  · rw [if_pos hhead]
    rfl
  · have hrefused : route.takes request.method = false := by
      simp [Route.takes, hmethods, hhead, hget]
    rw [if_neg hhead, serve_of_session hsession hderived, hrefused]
    rfl

end TenantConsole
