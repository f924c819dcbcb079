import TenantConsole.Service.Call

/-!
# What a script leaves behind

`Script.Sat script state post` says that a run of the script from a state, with nobody in between,
ends with an answer and a state of which `post` holds. There is one rule for each way to put scripts
together, so a proof about a service follows its text.

`Script.Keeps` says that a part of the state stays as it is. Most steps of a service only look:
`Script.ReadOnly` says so for a whole script, and `Sat.after_reading` passes over such a prefix. The
state is the one that it met, and all that is left of the prefix is the answer that it gave.
-/

namespace TenantConsole

/-- A sequence of two ends well where both parts do. -/
theorem bind_eq_ok {ε α β : Type} {first : Except ε α} {next : α → Except ε β} {value : β} :
    (first >>= next) = .ok value ↔ ∃ a, first = .ok a ∧ next a = .ok value := by
  cases first with
  | error error => simp [bind, Except.bind]
  | ok a => simp [bind, Except.bind]

namespace Script

variable {σ ε ε' α β : Type}

/-- Nothing is added to a script by a part that answers at once. -/
theorem bind_ok (script : Script σ ε α) : script.bind ok = script := by
  induction script with
  | done result => cases result <;> rfl
  | step change rest ih => exact congrArg (Script.step change) (funext ih)

/-- It is the same script, in whichever order its parts are put together. Induction on the first of
them. -/
theorem bind_bind {γ : Type} (script : Script σ ε α) (next : α → Script σ ε β)
    (last : β → Script σ ε γ) :
    (script.bind next).bind last = script.bind fun value => (next value).bind last := by
  induction script with
  | done result => cases result <;> rfl
  | step change rest ih => exact congrArg (Script.step change) (funext ih)

/-- How a script is cut into parts makes no difference. -/
instance : LawfulMonad (Script σ ε) :=
  LawfulMonad.mk' _ bind_ok (fun _ _ => rfl) bind_bind

/-- Renaming errors changes the answer and nothing else. -/
@[simp] theorem run_orFail (script : Script σ ε α) (f : ε → ε') (state : σ) :
    (script.orFail f).run state = ((script.run state).1.mapError f, (script.run state).2) :=
  run_answering _ script state

/-- What ends well with its errors renamed ends well without. -/
theorem ok_of_orFail {script : Script σ ε α} {f : ε → ε'} {state : σ} {value : α}
    (h : ((script.orFail f).run state).1 = .ok value) : (script.run state).1 = .ok value := by
  rw [run_orFail] at h
  -- an error would still be one under its new name
  cases hrun : (script.run state).1 with
  | error error => simp only [hrun] at h; cases h
  | ok found => simp only [hrun] at h; cases h; rfl

/-- An attempt answers with what the script answered, be it an error. -/
@[simp] theorem run_attempt (script : Script σ ε α) (state : σ) :
    (script.attempt : Script σ ε' (Except ε α)).run state
      = (.ok (script.run state).1, (script.run state).2) :=
  run_answering _ script state

@[simp] theorem run_ofExcept (result : Except ε α) (state : σ) :
    (ofExcept result : Script σ ε α).run state = (result, state) := rfl

/-! ## Postconditions -/

/-- A run from this state ends in an answer and a state of which `post` holds. -/
def Sat (script : Script σ ε α) (state : σ) (post : Except ε α → σ → Prop) : Prop :=
  post (script.run state).1 (script.run state).2

variable {script : Script σ ε α} {state : σ} {post post' : Except ε α → σ → Prop}

/-- A postcondition may be weakened. -/
theorem Sat.mono (h : script.Sat state post) (hpost : ∀ {answer after}, post answer after →
    post' answer after) : script.Sat state post' := hpost h

/-- What is known of every run is known of this one. -/
theorem Sat.of_run {answer : Except ε α} {after : σ} (h : script.Sat state post)
    (hrun : script.run state = (answer, after)) : post answer after := by
  unfold Sat at h
  rw [hrun] at h
  exact h

@[simp] theorem sat_pure {value : α} :
    (pure value : Script σ ε α).Sat state post ↔ post (.ok value) state := Iff.rfl

@[simp] theorem sat_fail {error : ε} :
    (fail error : Script σ ε α).Sat state post ↔ post (.error error) state := Iff.rfl

@[simp] theorem sat_ofExcept {result : Except ε α} :
    (ofExcept result : Script σ ε α).Sat state post ↔ post result state := Iff.rfl

@[simp] theorem sat_orFail {f : ε → ε'} {post : Except ε' α → σ → Prop} :
    (script.orFail f).Sat state post
      ↔ script.Sat state fun answer after => post (answer.mapError f) after := by
  simp [Sat]

/-- The rest of a script meets what the first part has left. -/
theorem sat_bind {next : α → Script σ ε β} {post : Except ε β → σ → Prop} :
    (script >>= next).Sat state post ↔ script.Sat state fun
      | .ok value, after => (next value).Sat after post
      | .error error, after => post (.error error) after := by
  simp only [Sat, run_bind]
  -- either the first part fails and the whole with it, or the rest begins
  rcases script.run state with ⟨_ | value, after⟩ <;> rfl

/-! ## What a script keeps -/

/-- No run of the script changes this part of the state. -/
def Keeps {τ : Type} (part : σ → τ) (script : Script σ ε α) : Prop :=
  ∀ state, part (script.run state).2 = part state

namespace Keeps

variable {τ : Type} {part : σ → τ}

theorem pure (value : α) : (Pure.pure value : Script σ ε α).Keeps part := fun _ => rfl

theorem fail (error : ε) : (Script.fail error : Script σ ε α).Keeps part := fun _ => rfl

theorem ofExcept (result : Except ε α) : (Script.ofExcept result : Script σ ε α).Keeps part :=
  fun _ => rfl

/-- A part that keeps it, followed by parts that keep it. -/
theorem bind {next : α → Script σ ε β} (h : script.Keeps part)
    (hnext : ∀ value, (next value).Keeps part) : (script >>= next).Keeps part := by
  intro state
  rw [run_bind]
  have hstate := h state
  rcases hrun : script.run state with ⟨_ | value, after⟩ <;> rw [hrun] at hstate
  · exact hstate
  · exact (hnext value after).trans hstate

/-- Renaming errors keeps what the script keeps. -/
theorem orFail {f : ε → ε'} (h : script.Keeps part) : (script.orFail f).Keeps part := by
  intro state
  rw [run_orFail]
  exact h state

/-- Going on after an error keeps what the script keeps. -/
theorem attempt (h : script.Keeps part) :
    (script.attempt : Script σ ε' (Except ε α)).Keeps part := by
  intro state
  rw [run_attempt]
  exact h state

end Keeps

/-- No run of the script changes the state. -/
def ReadOnly (script : Script σ ε α) : Prop := script.Keeps fun state => state

namespace ReadOnly

/-- Looking is what a script does that changes nothing. -/
theorem look (read : σ → Except ε α) : (Script.look read).ReadOnly := fun _ => rfl

theorem pure (value : α) : (Pure.pure value : Script σ ε α).ReadOnly := Keeps.pure value

theorem fail (error : ε) : (Script.fail error : Script σ ε α).ReadOnly := Keeps.fail error

theorem ofExcept (result : Except ε α) : (Script.ofExcept result : Script σ ε α).ReadOnly :=
  Keeps.ofExcept result

/-- The rules of `Keeps` for the whole state: only the looks are new. -/
theorem bind {next : α → Script σ ε β} (h : script.ReadOnly)
    (hnext : ∀ value, (next value).ReadOnly) : (script >>= next).ReadOnly :=
  Keeps.bind h hnext

theorem orFail {f : ε → ε'} (h : script.ReadOnly) : (script.orFail f).ReadOnly := Keeps.orFail h

theorem attempt (h : script.ReadOnly) :
    (script.attempt : Script σ ε' (Except ε α)).ReadOnly := Keeps.attempt h

end ReadOnly

/-- **Passing over a prefix that only looks.** What is left of it is its answer. -/
theorem Sat.after_reading {next : α → Script σ ε β} {post : Except ε β → σ → Prop}
    (hread : script.ReadOnly)
    (hok : ∀ value, (script.run state).1 = .ok value → (next value).Sat state post)
    (herror : ∀ error, (script.run state).1 = .error error → post (.error error) state) :
    (script >>= next).Sat state post := by
  rw [sat_bind]
  have hstate : (script.run state).2 = state := hread state
  unfold Sat
  -- the state after the prefix is the one before it, by `hread`
  rcases hrun : script.run state with ⟨error | value, after⟩
    <;> rw [hrun] at hstate <;> cases hstate
  · exact herror error (by rw [hrun])
  · exact hok value (by rw [hrun])

/-- Passing over a prefix that keeps the part of the state that matters. -/
theorem Sat.after_keeping {τ : Type} {part : σ → τ} {next : α → Script σ ε β}
    {post : Except ε β → σ → Prop} (hkeeps : script.Keeps part)
    (hok : ∀ value after, part after = part state → (next value).Sat after post)
    (herror : ∀ error after, part after = part state → post (.error error) after) :
    (script >>= next).Sat state post := by
  rw [sat_bind]
  have hstate := hkeeps state
  unfold Sat
  -- the prefix may change the rest of the state, so the state after it is a new one
  rcases hrun : script.run state with ⟨error | value, after⟩ <;> rw [hrun] at hstate
  · exact herror error after hstate
  · exact hok value after hstate

/-- What only looks afterwards spoils nothing. -/
theorem Sat.then_reading {next : α → Script σ ε β} {post : σ → Prop}
    (h : script.Sat state fun _ => post) (hnext : ∀ value, (next value).ReadOnly) :
    (script >>= next).Sat state fun _ => post := by
  rw [sat_bind]
  refine h.mono fun {answer after} hafter => ?_
  -- after an error nothing more is done, and otherwise only looked
  cases answer with
  | error error => exact hafter
  | ok value =>
    show post ((next value).run after).2
    rw [show ((next value).run after).2 = after from hnext value after]
    exact hafter

/-- A first part that is known to go through. -/
theorem Sat.after_run {after : σ} {value : α} {next : α → Script σ ε β}
    {post : Except ε β → σ → Prop} (hrun : script.run state = (.ok value, after))
    (hnext : (next value).Sat after post) : (script >>= next).Sat state post := by
  rw [sat_bind]
  unfold Sat
  rw [hrun]
  exact hnext

/-- A call that is known to go through, whatever its errors would have been called. -/
theorem Sat.after_call {after : σ} {value : α} {f : ε → ε'} {next : α → Script σ ε' β}
    {post : Except ε' β → σ → Prop} (hrun : script.run state = (.ok value, after))
    (hnext : (next value).Sat after post) : (script.orFail f >>= next).Sat state post := by
  refine .after_run ?_ hnext
  rw [run_orFail, hrun]
  rfl

/-- A call that is known to fail; what would have come next is not reached. -/
theorem Sat.after_failure {after : σ} {error : ε} {f : ε → ε'} {next : α → Script σ ε' β}
    {post : Except ε' β → σ → Prop} (hrun : script.run state = (.error error, after))
    (hpost : post (.error (f error)) after) : (script.orFail f >>= next).Sat state post := by
  unfold Sat
  rw [run_bind, run_orFail, hrun]
  exact hpost

/-- A script that only looks leaves what it met. -/
theorem ReadOnly.sat (h : script.ReadOnly) (hpost : ∀ answer, post answer state) :
    script.Sat state post := by
  unfold Sat
  rw [show (script.run state).2 = state from h state]
  exact hpost _

end Script

end TenantConsole
