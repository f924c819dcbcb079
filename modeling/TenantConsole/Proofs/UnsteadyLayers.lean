import Mathlib.Data.List.Forall2
import TenantConsole.Proofs.LayerStacks

/-!
# Scoped writes to layers that fail

A scope lets an update or a deletion through if it reads a record of its organization under the id,
and hands it down the chain, which offers it to one layer after the other. The two passes come to
the same layer as long as every layer answers both of them. A layer that fails in one pass only is
passed over there, and then the record that was read and the record that is written may be
different ones, with different owners.

* **`Unsteady.get_chain`** and **`Unsteady.write_chain`**: where each of the two passes ends.
* **`Table.spares_after_iff`**: what a write of the organization takes away from the others is the
  record under its id, if that is theirs.

`foreign_records_spared_iff` puts the passes together.
-/

namespace TenantConsole

open Readings

variable {ρ α : Type}

/-! ## Layers -/

section Layers

variable [Record ρ]

/-- A store that refuses each of some calls for a reason of its own. -/
def Store.failing (outage : CallKind → Option String) (inner : Store ρ) : List CallKind → Store ρ
  | [] => inner
  | kind :: rest =>
    match outage kind with
    | some reason => .faulty (.backend reason) [kind] (inner.failing outage rest)
    | none => inner.failing outage rest

/-- A layer that keeps its records in memory, with the calls that fail. -/
structure Unsteady (ρ : Type) [Record ρ] where
  name : String
  outage : CallKind → Option String
  table : Table ρ

namespace Unsteady

def store (layer : Unsteady ρ) : Store ρ :=
  (Store.memory layer.table).failing layer.outage [.all, .get, .add, .update, .delete]

def layers (chain : List (Unsteady ρ)) : Layers ρ :=
  .ofList (chain.map fun layer => (layer.name, layer.store))

/-- What a layer has under an id, as far as calls of a kind get through to it. -/
def reached? (kind : CallKind) (id : String) (layer : Unsteady ρ) : Option ρ :=
  if layer.outage kind = none then layer.table.get? id else none

/-- The first record under an id that calls of a kind get through to. -/
def first? (chain : List (Unsteady ρ)) (kind : CallKind) (id : String) : Option ρ :=
  chain.findSome? (reached? kind id)

/-- The layer with what a write makes of its table. -/
def after (layer : Unsteady ρ) (write : Write ρ α) (world : World) : Unsteady ρ :=
  { layer with table := layer.table.after write world }

end Unsteady

end Layers

namespace Store

variable [Record ρ] {outage : CallKind → Option String} {kinds : List CallKind}

/-- A failing store finds what the store inside finds, unless looking up is what fails. -/
theorem get_failing (inner : Store ρ) (disk : Disk) (id : String) :
    (((inner.failing outage kinds).readings disk).get id).toOption
      = if .get ∈ kinds ∧ outage .get ≠ none then none
        else ((inner.readings disk).get id).toOption := by
  -- the faults lie one around the other, one for each kind of call
  induction kinds with
  | nil => simp [failing]
  | cons kind rest ih =>
    unfold failing
    cases hkind : outage kind with
    | none =>
      show (((inner.failing outage rest).readings disk).get id).toOption = _
      rw [ih]
      by_cases hget : .get = kind
      · simp [hget, hkind]
      · simp [hget]
    | some reason =>
      show (if .get ∈ [kind] then .error (.backend reason)
        else ((inner.failing outage rest).readings disk).get id : Except StoreError ρ).toOption = _
      by_cases hget : .get = kind
      · simp [hget, hkind, Except.toOption]
      · rw [if_neg (by simpa using hget), ih]
        simp [hget]

/-- A write that fails leaves the store as it was. -/
theorem write_failing_down (inner : Store ρ) (write : Write ρ α) (world : World) {reason : String}
    (hkind : write.kind ∈ kinds) (hdown : outage write.kind = some reason) :
    (inner.failing outage kinds).write write world
      = (.error (.backend reason), inner.failing outage kinds, world) := by
  induction kinds with
  | nil => cases hkind
  | cons kind rest ih =>
    unfold failing
    -- the fault of this kind answers; those around it pass the write on
    by_cases hsame : write.kind = kind
    · rw [← hsame, hdown]
      simp only [Store.write, List.mem_singleton, if_true]
    · have hrest := ih (List.mem_of_ne_of_mem hsame hkind)
      cases outage kind with
      | none => exact hrest
      | some other => simp only [Store.write, List.mem_singleton, hsame, if_false, hrest]

/-- A write that does not fail is the write to the store inside. -/
theorem write_failing_up (inner : Store ρ) (write : Write ρ α) (world : World)
    (hup : outage write.kind = none) :
    (inner.failing outage kinds).write write world
      = ((inner.write write world).1, (inner.write write world).2.1.failing outage kinds,
          (inner.write write world).2.2) := by
  induction kinds with
  | nil => rfl
  | cons kind rest ih =>
    unfold failing
    cases hkind : outage kind with
    | none => exact ih
    | some other =>
      have hother : write.kind ≠ kind := by
        rintro rfl
        rw [hup] at hkind
        cases hkind
      simp only [Store.write, List.mem_singleton, hother, if_false, ih]

end Store

/-! ## The two passes -/

namespace Unsteady

section Passes

variable [Record ρ]

theorem get_store (layer : Unsteady ρ) (disk : Disk) (id : String) :
    ((layer.store.readings disk).get id).toOption = layer.reached? .get id := by
  have hget : (((Store.memory layer.table).readings disk).get id).toOption
      = layer.table.get? id := toOption_orMissing id _
  unfold store reached?
  rw [Store.get_failing, hget]
  by_cases hup : layer.outage .get = none
  · rw [if_neg (fun h => h.2 hup), if_pos hup]
  · rw [if_pos ⟨by decide, hup⟩, if_neg hup]

/-- **The reading pass** ends at the first record that can be read. -/
theorem get_chain (catalog : String) (chain : List (Unsteady ρ)) (disk : Disk) (id : String) :
    ((Store.layered catalog (layers chain)).readings disk).get id
      = orMissing id (first? chain .get id) := by
  show orMissing id (((layers chain).readings disk).findSome? fun layer => (layer.get id).toOption)
    = _
  congr 1
  -- a layer that is down or has no record leaves the search to the next one
  induction chain with
  | nil => rfl
  | cons layer rest ih =>
    unfold first? at ih ⊢
    show (_ :: (layers rest).readings disk).findSome? _ = _
    rw [List.findSome?_cons, List.findSome?_cons, get_store, ih]

/-- Whether a write is not taken by a layer that it gets through to. -/
def Passed (write : Write ρ α) (world : World) (layer : Unsteady ρ) : Prop :=
  layer.outage write.kind = none → ¬ write.FitsIn world layer.table

/-- How a write to a chain ends: no layer changes, or the first layer that it gets through to and
fits in. -/
inductive Struck (write : Write ρ α) (world : World) (chain : List (Unsteady ρ)) :
    Except StoreError α → List (Unsteady ρ) → Prop where
  | refused (error : StoreError)
      (hpassed : write.kind ≠ .add → ∀ layer ∈ chain, layer.Passed write world) :
      Struck write world chain (.error error) chain
  | taken {upper lower : List (Unsteady ρ)} {layer : Unsteady ρ}
      (hsplit : chain = upper ++ layer :: lower) (hup : layer.outage write.kind = none)
      (hfits : write.FitsIn world layer.table)
      (hpassed : ∀ higher ∈ upper, higher.Passed write world) :
      Struck write world chain (.ok (write.answer world))
        (upper ++ layer.after write world :: lower)

variable {write : Write ρ α} {world : World}

/-- A layer that passes a write on stays as it is, on top of what happens below. -/
theorem Struck.below {layer : Unsteady ρ} {rest after : List (Unsteady ρ)}
    {answer : Except StoreError α} (h : Struck write world rest answer after)
    (hpassed : layer.Passed write world) :
    Struck write world (layer :: rest) answer (layer :: after) := by
  cases h with
  | refused error hrest =>
    exact .refused error fun hkind => List.forall_mem_cons.2 ⟨hpassed, hrest hkind⟩
  | @taken upper lower taker hsplit hup hfits hupper =>
    have hall : ∀ higher ∈ layer :: upper, higher.Passed write world :=
      List.forall_mem_cons.2 ⟨hpassed, hupper⟩
    show Struck write world _ _ ((layer :: upper) ++ taker.after write world :: lower)
    exact .taken (congrArg (layer :: ·) hsplit) hup hfits hall

/-- No layer comes or goes, and the same calls fail as before. -/
theorem Struck.same_layers {chain after : List (Unsteady ρ)} {answer : Except StoreError α}
    (h : Struck write world chain answer after) :
    after.map (fun layer => (layer.name, layer.outage))
      = chain.map fun layer => (layer.name, layer.outage) := by
  cases h with
  | refused => rfl
  | taken hsplit =>
    rw [hsplit, List.map_append, List.map_append]
    rfl

/-- A layer that a write does not get through to hands it on. -/
theorem write_store_down (layer : Unsteady ρ) (write : Write ρ α) (world : World) {reason : String}
    (hdown : layer.outage write.kind = some reason) :
    layer.store.write write world = (.error (.backend reason), layer.store, world) := by
  refine Store.write_failing_down _ write world ?_ hdown
  cases write.kind <;> decide

/-- A layer that is up for a write has it done by its table. -/
theorem write_store_up (layer : Unsteady ρ) (write : Write ρ α) (world : World)
    (hup : layer.outage write.kind = none) :
    layer.store.write write world = ((layer.table.write write world).1,
      store { layer with table := (layer.table.write write world).2.1 },
      (layer.table.write write world).2.2) :=
  Store.write_failing_up _ write world hup

/-- **The writing pass** ends at the first layer that takes the write. -/
theorem write_chain (chain : List (Unsteady ρ)) (refusal : StoreError) (write : Write ρ α)
    (world : World) : ∃ answer after world',
      (layers chain).write refusal write world = (answer, layers after, world')
      ∧ Struck write world chain answer after := by
  -- a layer that is down or has no place for the write leaves it to the next one, with its own
  -- refusal as the last
  induction chain generalizing refusal with
  | nil => exact ⟨.error refusal, [], world, rfl, .refused refusal fun _ => nofun⟩
  | cons layer rest ih =>
    show ∃ answer after world',
      (Layers.cons layer.name layer.store (layers rest)).write refusal write world
        = (answer, layers after, world') ∧ _
    cases houtage : layer.outage write.kind with
    | some reason =>
      have hstore := layer.write_store_down write world houtage
      have hpassed : layer.Passed write world := by
        intro hup
        rw [hup] at houtage
        cases houtage
      have hfalls : (StoreError.backend reason).fallsThrough = true := rfl
      obtain ⟨answer, after, world', hrest, hstruck⟩ := ih (.backend reason)
      refine ⟨answer, layer :: after, world', ?_, hstruck.below hpassed⟩
      simp only [Layers.write, hstore, hfalls, if_true, hrest]
      rfl
    | none =>
      have hstore := layer.write_store_up write world houtage
      obtain ⟨world', -, ⟨hfits, hwrite⟩ | ⟨hfull, error, hwrite, hfalls, hsame⟩⟩ :=
        layer.table.write_eq write world
      · have hfirst : Struck write world (layer :: rest) (.ok (write.answer world))
            ([] ++ layer.after write world :: rest) := .taken rfl houtage hfits nofun
        refine ⟨.ok (write.answer world), layer.after write world :: rest, world', ?_, hfirst⟩
        rw [hwrite] at hstore
        simp only [Layers.write, hstore]
        rfl
      · rw [hwrite] at hstore
        by_cases hkind : write.kind = .add
        · -- a taken id ends the pass
          have hstop : error.fallsThrough = false := by simpa [hkind] using hfalls
          refine ⟨.error error, layer :: rest, world', ?_,
            .refused error fun hother => absurd hkind hother⟩
          simp only [Layers.write, hstore, hstop, Bool.false_eq_true, if_false]
          rfl
        · have hgoes : error.fallsThrough = true := hfalls.2 hkind
          cases hsame hkind
          obtain ⟨answer, after, world', hrest, hstruck⟩ := ih error
          refine ⟨answer, layer :: after, world', ?_, hstruck.below fun _ => hfull⟩
          simp only [Layers.write, hstore, hgoes, if_true, hrest]
          rfl

/-- A layer that passes on an update or a deletion has no record under the id that the write could
get through to. -/
theorem reached?_of_passed {layer : Unsteady ρ}
    (hkind : write.kind ≠ .add) (h : layer.Passed write world) :
    layer.reached? write.kind (write.target world) = none := by
  unfold reached?
  split
  · rename_i hup
    have hfree := h hup
    rw [Stack.fitsIn_iff hkind] at hfree
    exact Option.not_isSome_iff_eq_none.1 hfree
  · rfl

/-- A layer that takes a write other than a new record has the first record that it gets through
to. -/
theorem first?_of_taken {upper : List (Unsteady ρ)} (lower : List (Unsteady ρ))
    {layer : Unsteady ρ} (hkind : write.kind ≠ .add) (hup : layer.outage write.kind = none)
    (hfits : write.FitsIn world layer.table)
    (hpassed : ∀ higher ∈ upper, higher.Passed write world) :
    first? (upper ++ layer :: lower) write.kind (write.target world)
      = layer.table.get? (write.target world) := by
  have hupper : upper.findSome? (reached? write.kind (write.target world)) = none :=
    List.findSome?_eq_none_iff.2 fun higher hhigher =>
      reached?_of_passed hkind (hpassed higher hhigher)
  have hlayer : layer.reached? write.kind (write.target world)
      = layer.table.get? (write.target world) := if_pos hup
  obtain ⟨record, hrecord⟩ := Option.isSome_iff_exists.1 ((Stack.fitsIn_iff hkind ..).1 hfits)
  unfold first?
  rw [List.findSome?_append, hupper, Option.none_or, List.findSome?_cons, hlayer, hrecord]

/-- Two passes come to the same record if the layers are up for one as for the other. -/
theorem first?_congr {chain : List (Unsteady ρ)} {kind kind' : CallKind} {id : String}
    (halike : ∀ layer ∈ chain, layer.outage kind = none ↔ layer.outage kind' = none) :
    first? chain kind id = first? chain kind' id := by
  unfold first?
  induction chain with
  | nil => rfl
  | cons layer rest ih =>
    obtain ⟨hlayer, hrest⟩ := List.forall_mem_cons.1 halike
    have hreached : layer.reached? kind id = layer.reached? kind' id := by
      simp only [reached?, hlayer]
    rw [List.findSome?_cons, List.findSome?_cons, hreached, ih hrest]

end Passes

end Unsteady

/-! ## Records of other owners -/

section Owners

variable [Owned ρ] {organization : String}

/-- Every record of another owner is still there, as it was. -/
def Table.Spares (organization : String) (before after : Table ρ) : Prop :=
  ∀ record ∈ before.rows, Owned.owner record ≠ organization → record ∈ after.rows

/-- A stamped write brings in records of the organization only. -/
theorem Write.owner_stamped {write : Write ρ α} {world : World} {record : ρ}
    (h : (write.stamped organization).record? world = some record) :
    Owned.owner record = organization := by
  cases write with
  | add submitted =>
    obtain rfl : world.named (Owned.withOwner organization submitted) = record := Option.some.inj h
    rw [owner_named, Owned.owner_withOwner]
  | update submitted =>
    obtain rfl : Owned.withOwner organization submitted = record := Option.some.inj h
    exact Owned.owner_withOwner organization submitted
  | delete id => cases h

theorem Write.kind_stamped (organization : String) (write : Write ρ α) :
    (write.stamped organization).kind = write.kind := by
  cases write <;> rfl

theorem Write.target_stamped (organization : String) (write : Write ρ α) (world : World) :
    (write.stamped organization).target world = write.target world := by
  cases write with
  | add record => exact id_named_withOwner organization record world
  | update record => exact Owned.id_withOwner organization record
  | delete id => rfl

/-- **What a write takes away is the record under its id.** -/
theorem Table.spares_after_iff (table : Table ρ) (write : Write ρ α) (world : World) :
    table.Spares organization (table.after (write.stamped organization) world)
      ↔ ∀ record, table.get? (write.target world) = some record →
        Owned.owner record = organization := by
  have hafter := table.get?_after (write.stamped organization) world
  rw [write.target_stamped] at hafter
  constructor
  · intro hspares record hrecord
    by_contra howner
    obtain ⟨hrow, hid⟩ := get?_eq_some_iff.1 hrecord
    have hkept := get?_of_mem (hspares record hrow howner)
    rw [hid, hafter, if_pos rfl] at hkept
    exact howner (Write.owner_stamped hkept)
  · intro hown record hrow howner
    have hid : Record.id record ≠ write.target world := fun hid =>
      howner (hown record (get?_eq_some_iff.2 ⟨hrow, hid⟩))
    have hkept := hafter (Record.id record)
    rw [if_neg hid, get?_of_mem hrow] at hkept
    exact (get?_eq_some_iff.1 hkept).1

namespace Unsteady

/-- The chain as one organization reaches it. -/
def confined (organization catalog : String) (chain : List (Unsteady ρ)) : Store ρ :=
  .scoped (.owned organization) (.layered catalog (layers chain))

/-- The scope lets an update or a deletion through if the reading pass ends at a record of the
organization. -/
theorem admitted_iff (catalog : String) (chain : List (Unsteady ρ)) (write : Write ρ α)
    (world : World) :
    write.Admitted organization ((Store.layered catalog (layers chain)).readings world.disk)
      ↔ (write.kind ≠ .add → ∃ record, first? chain .get (write.target world) = some record
        ∧ Owned.owner record = organization) := by
  have hget (id : String) (record : ρ) :
      ((Store.layered catalog (layers chain)).readings world.disk).get id = .ok record
        ↔ first? chain .get id = some record := by
    rw [get_chain]
    cases first? chain .get id <;> simp [orMissing]
  cases write with
  | add record => exact iff_of_true trivial fun h => absurd rfl h
  | update record => simp [Write.Admitted, Write.kind, Write.target, hget]
  | delete id => simp [Write.Admitted, Write.kind, Write.target, hget]

/-- In each layer, every record of another owner is still there. -/
def Spared (organization : String) (chain after : List (Unsteady ρ)) : Prop :=
  List.Forall₂ (fun layer layer' => layer.table.Spares organization layer'.table) chain after

theorem Spared.refl (chain : List (Unsteady ρ)) : Spared organization chain chain :=
  List.forall₂_same.2 fun _ _ _ hrecord _ => hrecord

/-- A chain in which one layer changes spares what this layer spares. -/
theorem spared_append_iff {upper lower : List (Unsteady ρ)} {layer layer' : Unsteady ρ} :
    Spared organization (upper ++ layer :: lower) (upper ++ layer' :: lower)
      ↔ layer.table.Spares organization layer'.table := by
  induction upper with
  | nil =>
    show List.Forall₂ _ (layer :: lower) (layer' :: lower) ↔ _
    rw [List.forall₂_cons]
    exact and_iff_left (Spared.refl lower)
  | cons higher rest ih =>
    show List.Forall₂ _ (higher :: (rest ++ _)) (higher :: (rest ++ _)) ↔ _
    rw [List.forall₂_cons]
    exact (and_iff_right fun _ hrecord _ => hrecord).trans ih

/-- **A write that is let through spares the others, unless it gets through to one of theirs.** -/
theorem Struck.spared_iff {chain after : List (Unsteady ρ)} {write : Write ρ α} {world : World}
    {answer : Except StoreError α}
    (h : Struck (write.stamped organization) world chain answer after) :
    Spared organization chain after
      ↔ (write.kind ≠ .add → ∀ record, first? chain write.kind (write.target world) = some record →
        Owned.owner record = organization) := by
  have hkind := write.kind_stamped organization
  have htarget := write.target_stamped organization world
  -- a refused write changes no layer, a taken one changes one
  cases h with
  | refused error hpassed =>
    rw [hkind] at hpassed
    refine iff_of_true (Spared.refl chain) fun hother record hrecord => ?_
    have hnone : first? chain write.kind (write.target world) = none := by
      refine List.findSome?_eq_none_iff.2 fun layer hlayer => ?_
      rw [← hkind, ← htarget]
      exact reached?_of_passed (by rwa [hkind]) (hpassed hother layer hlayer)
    rw [hnone] at hrecord
    cases hrecord
  | @taken upper lower layer hsplit hup hfits hpassed =>
    rw [hsplit, spared_append_iff]
    show layer.table.Spares organization (layer.table.after (write.stamped organization) world) ↔ _
    rw [Table.spares_after_iff]
    by_cases hadd : write.kind = .add
    · -- a new record takes no one's place
      have hfree := (Stack.fitsIn_add_iff (hkind.trans hadd) world layer.table).1 hfits
      rw [htarget] at hfree
      simp [hadd, hfree]
    · have hfirst := first?_of_taken lower (by rwa [hkind]) hup hfits hpassed
      rw [hkind, htarget] at hfirst
      rw [hfirst]
      exact ⟨fun h _ => h, fun h => h hadd⟩

/-- A write goes astray: the record under its id that can be read is the organization's own, and the
one that it gets through to is not. -/
structure Astray (organization : String) (chain : List (Unsteady ρ)) (write : Write ρ α)
    (world : World) : Prop where
  other : write.kind ≠ .add
  own : ∃ record, first? chain .get (write.target world) = some record
    ∧ Owned.owner record = organization
  foreign : ∃ record, first? chain write.kind (write.target world) = some record
    ∧ Owned.owner record ≠ organization

/-- Where each layer fails in both passes or in neither, no write goes astray. -/
theorem not_astray_of_alike {chain : List (Unsteady ρ)} {write : Write ρ α} (world : World)
    (halike : ∀ layer ∈ chain, layer.outage .get = none ↔ layer.outage write.kind = none) :
    ¬ Astray organization chain write world := by
  rintro ⟨-, ⟨record, hrecord, howner⟩, ⟨other, hother, hforeign⟩⟩
  rw [first?_congr halike, hother] at hrecord
  cases hrecord
  exact hforeign howner

end Unsteady

/-- **Scoped writes over layers that fail.** Whatever layers fail, and whatever it answers, a write
inside an organization leaves a chain of the same layers. In each of them, every record of another
organization is still there unchanged exactly if the write has not gone astray; a new record never
does. -/
theorem foreign_records_spared_iff (organization catalog : String) (chain : List (Unsteady ρ))
    (write : Write ρ α) (world : World) : ∃ answer after world',
      (Unsteady.confined organization catalog chain).write write world
        = (answer, Unsteady.confined organization catalog after, world')
      ∧ after.map (fun layer => (layer.name, layer.outage))
        = chain.map (fun layer => (layer.name, layer.outage))
      ∧ (Unsteady.Spared organization chain after
        ↔ ¬ Unsteady.Astray organization chain write world) := by
  -- a write that the scope refuses goes nowhere, so it does not go astray
  by_cases hadmitted : write.Admitted organization
      ((Store.layered catalog (Unsteady.layers chain)).readings world.disk)
  · obtain ⟨answer, after, world', hlayers, hstruck⟩ := Unsteady.write_chain chain
      ((write.stamped organization).untaken catalog) (write.stamped organization) world
    have hchain : (Store.layered catalog (Unsteady.layers chain)).write (write.stamped organization)
        world = (answer, .layered catalog (Unsteady.layers after), world') := by
      simp only [Store.write, hlayers]
    have hown := (Unsteady.admitted_iff catalog chain write world).1 hadmitted
    refine ⟨answer, after, world', write_owned_admitted hadmitted hchain, hstruck.same_layers,
      hstruck.spared_iff.trans ⟨fun hspared hastray => ?_, fun hsafe hkind record hrecord => ?_⟩⟩
    · obtain ⟨record, hrecord, howner⟩ := hastray.foreign
      exact howner (hspared hastray.other record hrecord)
    · by_contra howner
      exact hsafe ⟨hkind, hown hkind, record, hrecord, howner⟩
  · rcases write_owned organization (.layered catalog (Unsteady.layers chain)) write world with
      ⟨error, hrefused⟩ | ⟨hadmitted', -⟩
    · refine ⟨.error error, chain, world, hrefused, rfl,
        iff_of_true (Unsteady.Spared.refl chain) fun hastray => hadmitted ?_⟩
      exact (Unsteady.admitted_iff catalog chain write world).2 fun _ => hastray.own
    · exact absurd hadmitted' hadmitted

end Owners

namespace Adrift

/-- A source of the organization `a`. -/
def ours : Source := { id := "x", name := "ours", url := "http://a", organization := "a" }

/-- A source of the organization `b` under the same id. -/
def theirs : Source := { id := "x", name := "theirs", url := "http://b", organization := "b" }

/-- The first layer cannot be read just now. -/
def chain (first : Source) : List (Unsteady Source) :=
  [⟨"first", fun kind => if kind = .get then some "timeout" else none, Table.empty.insert first⟩,
   ⟨"second", fun _ => none, Table.empty.insert ours⟩]

end Adrift

/-- **A record of another organization is lost.** The scope reads its own record in the second
layer, and the update lands on the other one, in the first. -/
theorem foreign_record_overwritten :
    (Unsteady.confined "a" "sources" (Adrift.chain Adrift.theirs)).write (.update Adrift.ours)
        { ids := fun _ => "" }
      = (.ok (), Unsteady.confined "a" "sources" (Adrift.chain Adrift.ours), { ids := fun _ => "" })
      ∧ ¬ Unsteady.Spared "a" (Adrift.chain Adrift.theirs) (Adrift.chain Adrift.ours) := by
  refine ⟨rfl, fun hspared => ?_⟩
  have hfirst : Adrift.theirs ∈ (Table.empty.insert Adrift.ours).rows :=
    (List.forall₂_cons.1 hspared).1 Adrift.theirs (List.mem_singleton_self _) (by decide)
  exact absurd (List.mem_singleton.1 hfirst) (by decide)

end TenantConsole
