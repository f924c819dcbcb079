import Mathlib.Data.List.Forall2
import TenantConsole.Catalog.Assembly
import TenantConsole.Proofs.Lookups
import TenantConsole.Proofs.ScriptPairs

/-!
# Stores that fail with other words

A store may fail for reasons of its own and say so in a text. `Store.Akin` relates two stores that
are built alike and differ in these texts only: in the reason of a backend error, and in the reason
for which a catalog is unavailable. Nothing that is done to a store tells them apart otherwise:

* **reading** (`Store.Akin.readings`): a chain passes over the layers that fail and, if all of them
  do, makes the last error a reason of its own, which is a text again;
* **writing** (`Store.Akin.write`): whether a chain goes on to the next layer depends on the kind
  of a refusal, and both stores refuse with the same kind;
* **looking through a scope**, where the scope is `Scoping.Discreet`, that is, decides nothing by a
  text. The three scopes of the console are.
-/

namespace TenantConsole

/-! ## Errors -/

/-- Errors that differ in the texts for the console's own failures, if at all. -/
inductive StoreError.Akin : StoreError → StoreError → Prop where
  | same (error : StoreError) : Akin error error
  | backend (reason reason' : String) : Akin (.backend reason) (.backend reason')
  | unavailable (catalog reason reason' : String) :
      Akin (.unavailable catalog reason) (.unavailable catalog reason')

namespace StoreError.Akin

variable {error error' : StoreError}

/-- Whether a chain tries its next layer is a matter of the kind of an error. -/
theorem fallsThrough (h : error.Akin error') : error.fallsThrough = error'.fallsThrough := by
  cases h <;> rfl

theorem isNotFound (h : error.Akin error') : error.isNotFound = error'.isNotFound := by
  cases h <;> rfl

end StoreError.Akin

/-! ## Readings -/

namespace Readings

variable {ρ : Type} [Record ρ]

/-- Readings that find the same, and where one fails, the other fails akin. -/
structure Akin (one other : Readings ρ) : Prop where
  all : UpTo StoreError.Akin one.all other.all
  get : ∀ id, UpTo StoreError.Akin (one.get id) (other.get id)
  find : ∀ query, UpTo StoreError.Akin (one.find query) (other.find query)

omit [Record ρ] in
theorem Akin.refl (readings : Readings ρ) : readings.Akin readings where
  all := .refl .same _
  get _ := .refl .same _
  find _ := .refl .same _

theorem akin_search {listing listing' : Except StoreError (List ρ)}
    (h : UpTo StoreError.Akin listing listing') (query : Query ρ) :
    UpTo StoreError.Akin (search listing query) (search listing' query) := by
  cases h with
  | ok records => exact .refl .same _
  | error h => exact .error h

/-- Layers that refuse the same calls with akin errors are read alike. -/
theorem akin_faulty {error error' : StoreError} (herror : error.Akin error')
    (refused : List CallKind) {inner inner' : Readings ρ} (hinner : inner.Akin inner') :
    (faulty error refused inner).Akin (faulty error' refused inner') := by
  have hlisting : UpTo StoreError.Akin (faulty error refused inner).all
      (faulty error' refused inner').all := by
    unfold faulty
    by_cases hall : CallKind.all ∈ refused
    · simp only [if_pos hall]
      exact .error herror
    · simp only [if_neg hall]
      exact hinner.all
  refine ⟨hlisting, fun id => ?_, fun query => akin_search hlisting query⟩
  unfold faulty
  -- a refused call fails with the error of the fault, any other one is passed on
  by_cases hget : CallKind.get ∈ refused
  · simp only [if_pos hget]
    exact .error herror
  · simp only [if_neg hget]
    exact hinner.get id

/-! ### Chains -/

section Chains

variable {layers layers' : List (Readings ρ)}

omit [Record ρ] in
/-- The layers that answer give the same listings. -/
theorem answered_akin (h : List.Forall₂ Akin layers layers') :
    (layers.map Readings.all).filterMap Except.toOption
      = (layers'.map Readings.all).filterMap Except.toOption := by
  -- layer by layer: a layer answers on both sides or fails on both
  induction h with
  | nil => rfl
  | cons hlayer _ ih =>
    rw [List.map_cons, List.map_cons, List.filterMap_cons, List.filterMap_cons,
      hlayer.all.toOption, ih]

omit [Record ρ] in
/-- The first layer that has an id gives the same record. -/
theorem found_akin (h : List.Forall₂ Akin layers layers') (id : String) :
    (layers.findSome? fun layer => (layer.get id).toOption)
      = layers'.findSome? fun layer => (layer.get id).toOption := by
  induction h with
  | nil => rfl
  | cons hlayer _ ih =>
    rw [List.findSome?_cons, List.findSome?_cons, (hlayer.get id).toOption, ih]

/-- **A chain shows of its layers' failures that there are some.** -/
theorem akin_layered (catalog : String) (h : List.Forall₂ Akin layers layers') :
    (layered catalog layers).Akin (layered catalog layers') := by
  have hlisting : UpTo StoreError.Akin (layered catalog layers).all
      (layered catalog layers').all := by
    show UpTo StoreError.Akin (merged catalog _) (merged catalog _)
    unfold merged
    rw [answered_akin h]
    -- if no layer answers, the last failure goes into a reason
    cases (layers'.map Readings.all).filterMap Except.toOption with
    | nil => exact .error (.unavailable ..)
    | cons first rest => exact .ok _
  refine ⟨hlisting, fun id => ?_, fun query => akin_search hlisting query⟩
  show UpTo StoreError.Akin (orMissing id _) (orMissing id _)
  rw [found_akin h]
  exact .refl .same _

end Chains

end Readings

/-! ## Scopes -/

/-- Plans that are the same, or refuse with akin errors. -/
inductive Plan.Akin {ρ α : Type} : Plan ρ α → Plan ρ α → Prop where
  | same (plan : Plan ρ α) : Akin plan plan
  | refuse {error error' : StoreError} (h : error.Akin error') :
      Akin (.refuse error) (.refuse error')

namespace Scoping

variable {ρ : Type} [Record ρ] {below below' : Readings ρ}

/-- A scope that decides nothing by the text of a failure. -/
structure Discreet (scope : Scoping ρ) : Prop where
  readings : ∀ {below below' : Readings ρ}, below.Akin below' →
    (scope.readings below).Akin (scope.readings below')
  plan : ∀ {below below' : Readings ρ} {α : Type} (write : Write ρ α), below.Akin below' →
    (scope.plan below write).Akin (scope.plan below' write)

/-- A view of records looks at records, so it does not make akin readings differ. -/
theorem akin_viewed (view : ρ → Option ρ) (h : below.Akin below') :
    (viewed view below).Akin (viewed view below') where
  all := by
    rcases h.all.ok_or_error with ⟨records, hone, hother⟩ | ⟨_, _, hone, hother, herror⟩
    · simp only [viewed, hone, hother]
      exact .refl .same _
    · simp only [viewed, hone, hother]
      exact .error herror
  get id := by
    rcases (h.get id).ok_or_error with ⟨record, hone, hother⟩ | ⟨_, _, hone, hother, herror⟩
    · simp only [viewed, hone, hother]
      exact .refl .same _
    · simp only [viewed, hone, hother]
      exact .error herror
  find query := by
    rcases (h.find query).ok_or_error with ⟨record, hone, hother⟩ | ⟨_, _, hone, hother, herror⟩
    · simp only [viewed, hone, hother]
      exact .refl .same _
    · simp only [viewed, hone, hother]
      exact .error herror

/-- The scope of owned records decides by owners. -/
theorem discreet_owned {ρ : Type} [Owned ρ] (organization : String) :
    (owned organization : Scoping ρ).Discreet where
  readings h := akin_viewed _ h
  plan {below below' α} write h := by
    have hseen := akin_viewed (ownedView organization) h
    -- an addition is not looked up; the other two are refused as the look-up fails
    cases write with
    | add record => exact .same _
    | update record =>
      rcases (hseen.get (Record.id record)).ok_or_error with
        ⟨found, hone, hother⟩ | ⟨_, _, hone, hother, herror⟩
      · simp only [plan, owned, hone, hother]
        exact .same _
      · simp only [plan, owned, hone, hother]
        exact .refuse herror
    | delete id =>
      rcases (hseen.get id).ok_or_error with
        ⟨found, hone, hother⟩ | ⟨_, _, hone, hother, herror⟩
      · simp only [plan, owned, hone, hother]
        exact .same _
      · simp only [plan, owned, hone, hother]
        exact .refuse herror

/-- The member behind an id is found in both stores, or in neither. -/
theorem akin_member {below below' : Readings User} (organization : String)
    (h : below.Akin below') (id : String) :
    UpTo StoreError.Akin (member organization below id) (member organization below' id) := by
  rcases (h.get id).ok_or_error with ⟨user, hone, hother⟩ | ⟨_, _, hone, hother, herror⟩
  · simp only [member, hone, hother]
    exact .refl .same _
  · simp only [member, hone, hother]
    exact .error herror

theorem discreet_membership (organization : String) : (membership organization).Discreet where
  readings h := akin_viewed _ h
  plan {below below' α} write h := by
    -- adding looks for the identity, updating and deleting for the member
    cases write with
    | add user =>
      cases hrole : submittedRole organization user with
      | error error =>
        simp only [plan, membership, hrole]
        exact .same _
      | ok role =>
        rcases (h.find (identityQuery user.identity)).ok_or_error with
          ⟨existing, hone, hother⟩ | ⟨_, _, hone, hother, herror⟩
        · simp only [plan, membership, hrole, hone, hother]
          exact .same _
        · -- whether the identity is unknown is not a matter of the text
          simp only [plan, membership, hrole, hone, hother, herror.isNotFound]
          split
          · exact .same _
          · exact .refuse herror
    | update user =>
      cases hrole : submittedRole organization user with
      | error error =>
        simp only [plan, membership, hrole]
        exact .same _
      | ok role =>
        rcases (akin_member organization h user.id).ok_or_error with
          ⟨current, hone, hother⟩ | ⟨_, _, hone, hother, herror⟩
        · simp only [plan, membership, hrole, hone, hother]
          exact .same _
        · simp only [plan, membership, hrole, hone, hother]
          exact .refuse herror
    | delete id =>
      rcases (akin_member organization h id).ok_or_error with
        ⟨current, hone, hother⟩ | ⟨_, _, hone, hother, herror⟩
      · simp only [plan, membership, hone, hother]
        exact .same _
      · simp only [plan, membership, hone, hother]
        exact .refuse herror

theorem discreet_itself (organization : String) : (itself organization).Discreet where
  readings {below below'} h := by
    have hlisting : UpTo StoreError.Akin ((itself organization).readings below).all
        ((itself organization).readings below').all := by
      rcases (h.get organization).ok_or_error with
        ⟨record, hone, hother⟩ | ⟨_, _, hone, hother, herror⟩
      · simp only [itself, hone, hother]
        exact .refl .same _
      · simp only [itself, hone, hother, herror.isNotFound]
        split
        · exact .ok []
        · exact .error herror
    refine ⟨hlisting, fun id => ?_, fun query => Readings.akin_search hlisting query⟩
    simp only [itself]
    split
    · exact h.get id
    · exact .refl .same _
  plan {below below' α} write h := by
    cases write with
    | add record => exact .same _
    | update record => exact .same _
    | delete id => exact .same _

end Scoping

/-! ## Stores -/

section Stores

variable {ρ : Type} [Record ρ]

/-- Layers of the same names, one store in each related to the other. -/
inductive Layers.Paired (related : Store ρ → Store ρ → Prop) : Layers ρ → Layers ρ → Prop where
  | nil : Paired related .nil .nil
  | cons (name : String) {store store' : Store ρ} {rest rest' : Layers ρ}
      (hstore : related store store') (hrest : Paired related rest rest') :
      Paired related (.cons name store rest) (.cons name store' rest')

theorem Layers.Paired.mono {related related' : Store ρ → Store ρ → Prop} {layers layers' : Layers ρ}
    (h : layers.Paired related layers') (hmono : ∀ {store store'}, related store store' →
      related' store store') : layers.Paired related' layers' := by
  induction h with
  | nil => exact .nil
  | cons name hstore _ ih => exact .cons name (hmono hstore) ih

/-- Stores that are built alike and differ in the texts of their failures, if at all. -/
inductive Store.Akin : Store ρ → Store ρ → Prop where
  | same (store : Store ρ) : Akin store store
  | faulty {error error' : StoreError} (herror : error.Akin error') (refused : List CallKind)
      {inner inner' : Store ρ} (hinner : Akin inner inner') :
      Akin (.faulty error refused inner) (.faulty error' refused inner')
  /-- The layers are related by something that makes stores akin; this relation will do itself. -/
  | layered (catalog : String) {related : Store ρ → Store ρ → Prop} {layers layers' : Layers ρ}
      (hrelated : ∀ {store store'}, related store store' → Akin store store')
      (hlayers : layers.Paired related layers') :
      Akin (.layered catalog layers) (.layered catalog layers')
  | behind {scope : Scoping ρ} (hscope : scope.Discreet) {inner inner' : Store ρ}
      (hinner : Akin inner inner') : Akin (.scoped scope inner) (.scoped scope inner')

namespace Store.Akin

variable {store store' : Store ρ}

/-- **Akin stores are read alike.** -/
theorem readings (h : store.Akin store') (disk : Disk) :
    (store.readings disk).Akin (store'.readings disk) := by
  -- over how the stores are built alike
  induction h with
  | same store => exact .refl _
  | faulty herror refused _ ih => exact Readings.akin_faulty herror refused ih
  | layered catalog _ hlayers ih =>
    refine Readings.akin_layered catalog ?_
    clear catalog
    induction hlayers with
    | nil => exact .nil
    | cons name hstore _ ih' => exact .cons (ih hstore) ih'
  | behind hscope _ ih => exact hscope.readings ih

/-- What lies under the scopes of akin stores is akin. -/
theorem unscoped (h : store.Akin store') : store.unscoped.Akin store'.unscoped := by
  induction h with
  | same store => exact .same _
  | faulty herror refused hinner _ => exact .faulty herror refused hinner
  | layered catalog hrelated hlayers _ => exact .layered catalog hrelated hlayers
  | behind _ _ ih => exact ih

end Store.Akin

/-! ### Writing -/

/-- Outcomes of a write that answer up to the texts of failures, leave related things behind, and
the same world. -/
structure AkinOutcomes {σ α : Type} (related : σ → σ → Prop) (one other : Outcome σ α) : Prop where
  answers : UpTo StoreError.Akin one.1 other.1
  left : related one.2.1 other.2.1
  world : one.2.2 = other.2.2

/-- Two stores whose writes have akin outcomes. -/
def Store.WritesAkin (store store' : Store ρ) : Prop :=
  ∀ {α : Type} (write : Write ρ α) (world : World),
    AkinOutcomes Store.Akin (store.write write world) (store'.write write world)

/-- Two chains go down their layers in step: where one passes a layer, so does the other. -/
theorem Layers.Paired.write {α : Type} {layers layers' : Layers ρ}
    (h : layers.Paired (fun store store' => store.Akin store' ∧ store.WritesAkin store') layers')
    {refusal refusal' : StoreError} (hrefusal : refusal.Akin refusal') (write : Write ρ α)
    (world : World) :
    AkinOutcomes (Layers.Paired Store.Akin) (layers.write refusal write world)
      (layers'.write refusal' write world) := by
  induction h generalizing refusal refusal' world with
  | nil => exact ⟨.error hrefusal, .nil, rfl⟩
  | @cons name store store' rest rest' hstore hrest ih =>
    have hbelow : rest.Paired Store.Akin rest' := hrest.mono fun h => h.1
    obtain ⟨hanswers, hleft, hworld⟩ := hstore.2 write world
    rcases hone : store.write write world with ⟨answer, left, after⟩
    rcases hother : store'.write write world with ⟨answer', left', after'⟩
    rw [hone, hother] at hanswers hleft hworld
    dsimp only at hanswers hleft hworld
    subst hworld
    cases hanswers with
    | ok value =>
      simp only [Layers.write, hone, hother]
      exact ⟨.ok value, .cons name hleft hbelow, rfl⟩
    | @error error error' herror =>
      simp only [Layers.write, hone, hother]
      -- whether the next layer is asked is a matter of the kind, which is the same
      rw [← herror.fallsThrough]
      cases error.fallsThrough with
      | true =>
        obtain ⟨hlast, hrest', hworld'⟩ := ih herror after
        exact ⟨hlast, .cons name hleft hrest', hworld'⟩
      | false => exact ⟨.error herror, .cons name hleft hbelow, rfl⟩

namespace Store.Akin

variable {store store' : Store ρ}

/-- What a scope makes of the outcome of a write to the store below it. -/
theorem behind_scope {α β : Type} {scope : Scoping ρ} (hscope : scope.Discreet)
    {one other : Outcome (Store ρ) β} (h : AkinOutcomes Store.Akin one other)
    (answer : β → Except StoreError α) :
    AkinOutcomes Store.Akin (one.1.bind answer, .scoped scope one.2.1, one.2.2)
      (other.1.bind answer, .scoped scope other.2.1, other.2.2) :=
  ⟨h.answers.bind fun value => .refl .same (answer value), .behind hscope h.left, h.world⟩

/-- **Akin stores are written alike.** -/
theorem write (h : store.Akin store') : store.WritesAkin store' := by
  -- over how the stores are built alike, for any write and any world
  induction h with
  | same store => exact fun write world => ⟨.refl .same _, .same _, rfl⟩
  | @faulty error error' herror refused inner inner' hinner ih =>
    intro α write world
    simp only [Store.write]
    split
    · exact ⟨.error herror, .faulty herror refused hinner, rfl⟩
    · obtain ⟨hanswers, hleft, hworld⟩ := ih write world
      exact ⟨hanswers, .faulty herror refused hleft, hworld⟩
  | @layered catalog related layers layers' hrelated hlayers ih =>
    intro α write world
    have hwrites : layers.Paired (fun store store' => store.Akin store' ∧ store.WritesAkin store')
        layers' := hlayers.mono fun h => ⟨hrelated h, ih h⟩
    obtain ⟨hanswers, hleft, hworld⟩ := hwrites.write (.same (write.untaken catalog)) write world
    exact ⟨hanswers, .layered catalog (fun h => h) hleft, hworld⟩
  | @behind scope hscope inner inner' hinner ih =>
    intro α write world
    -- the same plan, or a refusal on either side, in which case nothing is written
    have hplans := hscope.plan write (hinner.readings world.disk)
    simp only [Store.write]
    generalize scope.plan (inner.readings world.disk) write = plan at hplans ⊢
    generalize scope.plan (inner'.readings world.disk) write = plan' at hplans ⊢
    cases hplans with
    | refuse herror => exact ⟨.error herror, .behind hscope hinner, rfl⟩
    | same plan =>
      cases plan with
      | refuse error => exact ⟨.refl .same _, .behind hscope hinner, rfl⟩
      | add record answer => exact behind_scope hscope (ih (.add record) world) answer
      | update record answer =>
        exact behind_scope hscope (ih (.update record) world) fun _ => answer
      | delete id answer => exact behind_scope hscope (ih (.delete id) world) fun _ => answer

end Store.Akin

end Stores

end TenantConsole
