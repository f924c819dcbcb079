import TenantConsole.Proofs.Scripts

/-!
# Scripts in pairs

Two runs are compared step by step. `Script.Matches states errors a b` says that from related states
the scripts `a` and `b` take the same number of steps, that every step leads to related states
again, and that in the end they answer with the same value or with related errors. The relations are
parameters: which states are related is said where it is used.

* **one rule for each way to put scripts together**, as for a script by itself, so that a proof
  about a service follows its text. What two matching scripts hand on is one value, and so the rest
  of a service is compared with itself;
* **`Matches.runAmid`** turns the judgement into a statement about runs. The states may change
  between the steps, from outside and in each run in its own way; a run by itself is the case where
  they do not (`runAmid_undisturbed`).
-/

namespace TenantConsole

/-- Two answers with the same value, or with related errors. -/
inductive UpTo {ε α : Type} (errors : ε → ε → Prop) : Except ε α → Except ε α → Prop where
  | ok (value : α) : UpTo errors (.ok value) (.ok value)
  | error {error error' : ε} (h : errors error error') : UpTo errors (.error error) (.error error')

namespace UpTo

variable {ε ε' α β : Type} {errors : ε → ε → Prop} {errors' : ε' → ε' → Prop}
  {answer answer' : Except ε α}

theorem refl (hrefl : ∀ error, errors error error) (answer : Except ε α) :
    UpTo errors answer answer := by
  cases answer with
  | ok value => exact .ok value
  | error error => exact .error (hrefl error)

/-- Related answers are both values, and the same, or they are both errors. -/
theorem ok_or_error (h : UpTo errors answer answer') :
    (∃ value, answer = .ok value ∧ answer' = .ok value)
      ∨ ∃ error error', answer = .error error ∧ answer' = .error error' ∧ errors error error' := by
  cases h with
  | ok value => exact .inl ⟨value, rfl, rfl⟩
  | error h => exact .inr ⟨_, _, rfl, rfl, h⟩

theorem mapError {f : ε → ε'} (h : UpTo errors answer answer')
    (hf : ∀ {error error'}, errors error error' → errors' (f error) (f error')) :
    UpTo errors' (answer.mapError f) (answer'.mapError f) := by
  cases h with
  | ok value => exact .ok value
  | error h => exact .error (hf h)

/-- After one and the same value, both sides go on. -/
theorem bind {next next' : α → Except ε β} (h : UpTo errors answer answer')
    (hnext : ∀ value, UpTo errors (next value) (next' value)) :
    UpTo errors (answer.bind next) (answer'.bind next') := by
  cases h with
  | ok value => exact hnext value
  | error h => exact .error h

/-- What is left of an answer when its error is forgotten is the same. -/
theorem toOption (h : UpTo errors answer answer') : answer.toOption = answer'.toOption := by
  cases h <;> rfl

end UpTo

namespace Script

variable {σ ε ε' α β : Type}

/-! ## Matching scripts -/

/-- Two scripts side by side. The steps are compared by what they do to related states, the rest of
each by what it does from there. -/
inductive Matches (states : σ → σ → Prop) (errors : ε → ε → Prop) :
    Script σ ε α → Script σ ε α → Prop where
  | done {result result' : Except ε α} (h : UpTo errors result result') :
      Matches states errors (.done result) (.done result')
  | step {change change' : σ → σ} {rest rest' : σ → Script σ ε α}
      (hchange : ∀ {state state'}, states state state' → states (change state) (change' state'))
      (hrest : ∀ {state state'}, states state state' →
        Matches states errors (rest state) (rest' state')) :
      Matches states errors (.step change rest) (.step change' rest')

namespace Matches

variable {states : σ → σ → Prop} {errors : ε → ε → Prop} {errors' : ε' → ε' → Prop}
  {script script' : Script σ ε α}

theorem pure (value : α) :
    (Pure.pure value : Script σ ε α).Matches states errors (Pure.pure value) :=
  .done (.ok value)

theorem fail {error error' : ε} (h : errors error error') :
    (Script.fail error : Script σ ε α).Matches states errors (.fail error') :=
  .done (.error h)

theorem ofExcept {result result' : Except ε α} (h : UpTo errors result result') :
    (Script.ofExcept result : Script σ ε α).Matches states errors (.ofExcept result') :=
  .done h

/-- Two looks match if they see the same, or fail alike. -/
theorem look {read read' : σ → Except ε α}
    (h : ∀ {state state'}, states state state' → UpTo errors (read state) (read' state')) :
    (Script.look read).Matches states errors (.look read') :=
  .step (fun hstates => hstates) fun hstates => .done (h hstates)

theorem call {act act' : σ → Except ε α × σ}
    (h : ∀ {state state'}, states state state' →
      UpTo errors (act state).1 (act' state').1 ∧ states (act state).2 (act' state').2) :
    (Script.call act).Matches states errors (.call act') :=
  .step (fun hstates => (h hstates).2) fun hstates => .done (h hstates).1

/-- **The rule for services.** What comes next is only compared for one value, the one that both
sides hand on. -/
theorem bind {next next' : α → Script σ ε β} (h : script.Matches states errors script')
    (hnext : ∀ value, (next value).Matches states errors (next' value)) :
    (script >>= next).Matches states errors (script' >>= next') := by
  show (script.bind next).Matches states errors (script'.bind next')
  -- on the steps of the first script; where it ends, what is next starts with the same value
  induction h with
  | done h =>
    cases h with
    | ok value => exact hnext value
    | error h => exact .done (.error h)
  | step hchange _ ih => exact .step hchange fun hstates => ih hstates

/-- What is done to all answers, errors or not. -/
theorem answering {f f' : Except ε α → Except ε' β} (h : script.Matches states errors script')
    (hf : ∀ {answer answer'}, UpTo errors answer answer' → UpTo errors' (f answer) (f' answer')) :
    (script.answering f).Matches states errors' (script'.answering f') := by
  induction h with
  | done h => exact .done (hf h)
  | step hchange _ ih => exact .step hchange fun hstates => ih hstates

theorem orFail {f : ε → ε'} (h : script.Matches states errors script')
    (hf : ∀ {error error'}, errors error error' → errors' (f error) (f error')) :
    (script.orFail f).Matches states errors' (script'.orFail f) :=
  h.answering fun hanswer => hanswer.mapError hf

/-- A script that goes on after an error may look at the error, though not at what sets it apart. -/
theorem bind_attempt {next next' : Except ε α → Script σ ε' β}
    (h : script.Matches states errors script')
    (hnext : ∀ {answer answer'}, UpTo errors answer answer' →
      (next answer).Matches states errors' (next' answer')) :
    (script.attempt >>= next).Matches states errors' (script'.attempt >>= next') := by
  show ((script.answering Except.ok).bind next).Matches states errors'
    ((script'.answering Except.ok).bind next')
  -- as for `bind`, but what is next starts with errors too
  induction h with
  | done h => exact hnext h
  | step hchange _ ih => exact .step hchange fun hstates => ih hstates

end Matches

/-! ## Runs -/

/-- Runs a script while the state changes under its feet: `disturb` says what happens before each
step, counted from the start. -/
def runAmid (disturb : Nat → σ → σ) : Script σ ε α → Nat → σ → Except ε α × Nat × σ
  | .done result, count, state => (result, count, state)
  | .step change rest, count, state =>
    (rest (disturb count state)).runAmid disturb (count + 1) (change (disturb count state))

/-- Where nothing happens, the script has the state for itself. -/
theorem runAmid_undisturbed (script : Script σ ε α) (count : Nat) (state : σ) :
    ∃ count', script.runAmid (fun _ state => state) count state
      = ((script.run state).1, count', (script.run state).2) := by
  induction script generalizing count state with
  | done result => exact ⟨count, rfl⟩
  | step change rest ih => exact ih state (count + 1) (change state)

variable {states : σ → σ → Prop} {errors : ε → ε → Prop} {script script' : Script σ ε α}

/-- **Matching scripts run alike in changing states**, as long as the states change in a related
way. -/
theorem Matches.runAmid (h : script.Matches states errors script') {disturb disturb' : Nat → σ → σ}
    (hdisturb : ∀ count {state state'}, states state state' →
      states (disturb count state) (disturb' count state'))
    (count : Nat) {state state' : σ} (hstates : states state state') :
    UpTo errors (script.runAmid disturb count state).1 (script'.runAmid disturb' count state').1
      ∧ (script.runAmid disturb count state).2.1 = (script'.runAmid disturb' count state').2.1
      ∧ states (script.runAmid disturb count state).2.2
          (script'.runAmid disturb' count state').2.2 := by
  -- on the steps of the pair
  induction h generalizing count state state' with
  | done h => exact ⟨h, rfl, hstates⟩
  | step hchange _ ih =>
    -- what the step meets is not what the last one left, though it is related all the same
    have hmet := hdisturb count hstates
    exact ih hmet (count + 1) (hchange hmet)

end Script

end TenantConsole
