/-!
# Scripts

A script is a sequence of steps on a shared state. Each step is one indivisible change and decides
from the state it meets how to go on; between two steps the state may change under the script's
feet. `Script.run` lets nobody else in between, `Script.together` runs two scripts whose steps
alternate as a schedule says.
-/

namespace TenantConsole

inductive Script (σ ε α : Type) where
  | done (result : Except ε α)
  /-- Changes the state and goes on as the state before the change says. -/
  | step (change : σ → σ) (next : σ → Script σ ε α)

namespace Script

variable {σ ε ε' α β : Type}

/-- One indivisible call. -/
def call (act : σ → Except ε α × σ) : Script σ ε α :=
  .step (fun state => (act state).2) fun state => .done (act state).1

/-- A call that leaves the state alone. -/
def look (read : σ → Except ε α) : Script σ ε α :=
  .step (fun state => state) fun state => .done (read state)

def ok (value : α) : Script σ ε α := .done (.ok value)

def fail (error : ε) : Script σ ε α := .done (.error error)

def bind : Script σ ε α → (α → Script σ ε β) → Script σ ε β
  | .done (.ok value), next => next value
  | .done (.error error), _ => .done (.error error)
  | .step change rest, next => .step change fun state => (rest state).bind next

instance : Monad (Script σ ε) where
  pure := ok
  bind := bind

/-- The script with another answer in place of its own, be it a value or an error. -/
def answering (f : Except ε α → Except ε' β) : Script σ ε α → Script σ ε' β
  | .done result => .done (f result)
  | .step change rest => .step change fun state => (rest state).answering f

/-- Hands an error on as one of another kind. -/
def orFail (script : Script σ ε α) (f : ε → ε') : Script σ ε' α :=
  script.answering (Except.mapError f)

/-- Answers with the outcome, so that the script goes on after an error. -/
def attempt (script : Script σ ε α) : Script σ ε' (Except ε α) := script.answering .ok

def ofExcept (result : Except ε α) : Script σ ε α := .done result

/-! ### Running -/

def run : Script σ ε α → σ → Except ε α × σ
  | .done result, state => (result, state)
  | .step change rest, state => (rest state).run (change state)

@[simp] theorem run_done (result : Except ε α) (state : σ) :
    (done result : Script σ ε α).run state = (result, state) := rfl

@[simp] theorem run_call (act : σ → Except ε α × σ) (state : σ) :
    (call act).run state = act state :=
  rfl

@[simp] theorem run_look (read : σ → Except ε α) (state : σ) :
    (look read).run state = (read state, state) := rfl

@[simp] theorem run_ok (value : α) (state : σ) :
    (ok value : Script σ ε α).run state = (.ok value, state) := rfl

@[simp] theorem run_pure (value : α) (state : σ) :
    (pure value : Script σ ε α).run state = (.ok value, state) := rfl

@[simp] theorem run_fail (error : ε) (state : σ) :
    (fail error : Script σ ε α).run state = (.error error, state) := rfl

@[simp] theorem run_bind (script : Script σ ε α) (next : α → Script σ ε β) (state : σ) :
    (script >>= next).run state =
      match script.run state with
      | (.ok value, state) => (next value).run state
      | (.error error, state) => (.error error, state) := by
  show (script.bind next).run state = _
  induction script generalizing state with
  | done result => cases result <;> rfl
  | step change rest ih => exact ih state (change state)

@[simp] theorem run_answering (f : Except ε α → Except ε' β) (script : Script σ ε α) (state : σ) :
    (script.answering f).run state = ((f (script.run state).1), (script.run state).2) := by
  induction script generalizing state with
  | done result => rfl
  | step change rest ih => exact ih state (change state)

/-! ### Two at a time -/

/-- Runs two scripts together. Each entry of the schedule says whether the first one takes the next
step; once the schedule is used up, or a script has ended, the rest runs on in order. -/
def together : List Bool → Script σ ε α → Script σ ε β → σ → Except ε α × Except ε β × σ
  | [], a, b, state =>
    let (first, state) := a.run state
    let (second, state) := b.run state
    (first, second, state)
  | true :: schedule, .step change rest, b, state =>
    together schedule (rest state) b (change state)
  | false :: schedule, a, .step change rest, state =>
    together schedule a (rest state) (change state)
  | true :: _, .done first, b, state =>
    let (second, state) := b.run state
    (first, second, state)
  | false :: _, a, .done second, state =>
    let (first, state) := a.run state
    (first, second, state)

end Script

end TenantConsole
