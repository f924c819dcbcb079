import TenantConsole.Proofs.Chains
import TenantConsole.Proofs.Listings

/-!
# Listings and look-ups

A store is read in two ways, as a whole and one id at a time, and the two are defined apart: a chain
merges the listings of its layers but takes the first look-up that succeeds, a scope filters a
listing but judges a record after it has been looked up. `Readings.Agree` says that nothing can be
told from the one way that the other does not tell.

* **the leaves** answer out of one listing, so there is nothing to compare (`agree_ofListing`);
* **a chain** agrees if its layers do: a layer that cannot be listed finds nothing either, so both
  ways pass over the same layers (`findSome?_get`);
* **a scope** agrees if the store below does and lists no id twice. With an id listed twice it would
  not: a scope that hides the first of two records lists the second, and finds none.

`lookups_match_listing` puts them together, by induction over the store.
-/

namespace TenantConsole

namespace Readings

variable {ρ : Type} [Record ρ] {id : String}

/-! ## Listings without repetitions -/

/-- Dropping repetitions keeps what comes first under each id. Induction on the records. -/
theorem firstWithId_distinct (id : String) (records : List ρ) :
    firstWithId id (distinct records) = firstWithId id records := by
  induction records with
  | nil => rfl
  | cons first rest ih =>
    unfold firstWithId at ih ⊢
    by_cases hfirst : Record.id first = id
    · simp [distinct, hfirst]
    · -- the first record hides namesakes of its own, none of which has the id
      have hkept : ((distinct rest).filter fun other => Record.id other ≠ Record.id first).find?
          (fun record => decide (Record.id record = id))
          = (distinct rest).find? fun record => decide (Record.id record = id) := by
        rw [List.find?_filter]
        congr 1
        funext record
        by_cases hrecord : Record.id record = id
        · simp [hrecord, Ne.symm hfirst]
        · simp [hrecord]
      rw [distinct, List.find?_cons_of_neg (by simpa using hfirst),
        List.find?_cons_of_neg (by simpa using hfirst), hkept, ih]

/-- Dropping repetitions leaves no id twice. -/
theorem nodup_distinct (records : List ρ) : ((distinct records).map Record.id).Nodup := by
  induction records with
  | nil => exact .nil
  | cons first rest ih =>
    rw [distinct, List.map_cons, List.nodup_cons]
    refine ⟨fun hmem => ?_, ih.sublist (List.filter_sublist.map _)⟩
    -- a namesake of the first record has been filtered out
    obtain ⟨other, hother, hsame⟩ := List.mem_map.1 hmem
    have hne := (List.mem_filter.1 hother).2
    simp [hsame] at hne

/-! ## Agreement -/

/-- What is listed is what is found, id by id; where nothing can be listed, nothing is found. A
look-up that misses says which id it has missed. -/
structure Agree (readings : Readings ρ) : Prop where
  found : ∀ {listing}, readings.all = .ok listing →
    ∀ id, readings.get id = orMissing id (firstWithId id listing)
  unlisted : ∀ {error}, readings.all = .error error → ∀ id, ∃ error, readings.get id = .error error
  missing : ∀ {id error}, readings.get id = .error error → error.isNotFound = true →
    error = .missing ρ id

/-- No id is listed twice. -/
def ListsOnce (readings : Readings ρ) : Prop :=
  ∀ listing, readings.all = .ok listing → (listing.map Record.id).Nodup

/-- A look-up in a listing fails in one way only: it misses the id, and says so. -/
theorem orMissing_eq_error {found : Option ρ} {error : StoreError}
    (h : orMissing id found = .error error) : found = none ∧ error = .missing ρ id := by
  cases found with
  | none => cases h; exact ⟨rfl, rfl⟩
  | some record => cases h

/-- A store that answers out of one listing. -/
theorem agree_ofListing {listing : Except StoreError (List ρ)}
    (herror : ∀ error, listing = .error error → error.isNotFound = false) :
    (ofListing listing).Agree where
  found h id := by
    rw [show listing = _ from h]
    rfl
  unlisted h id := by
    rw [show listing = _ from h]
    exact ⟨_, rfl⟩
  missing {id error} h hmissing := by
    cases listing with
    | error cause =>
      have hsame : cause = error := Except.error.inj h
      rw [hsame] at herror
      exact absurd hmissing (by simp [herror error rfl])
    | ok records =>
      have hget : orMissing id (firstWithId id records) = .error error := h
      exact (orMissing_eq_error hget).2

/-! ## Chains -/

/-- What the first layer to find an id finds is what comes first under it in the listings that there
are, taken in one row. -/
theorem findSome?_get {layers : List (Readings ρ)} (h : ∀ layer ∈ layers, layer.Agree)
    (id : String) :
    layers.findSome? (fun layer => (layer.get id).toOption)
      = firstWithId id ((layers.map Readings.all).filterMap Except.toOption).flatten := by
  induction layers with
  | nil => rfl
  | cons layer rest ih =>
    have hlayer : layer.Agree := h layer List.mem_cons_self
    have hrest := ih fun other hother => h other (List.mem_cons_of_mem layer hother)
    rw [List.findSome?_cons, List.map_cons]
    cases hall : layer.all with
    | error error =>
      obtain ⟨cause, hget⟩ := hlayer.unlisted hall id
      rw [hget, List.filterMap_cons_none (by rfl)]
      exact hrest
    | ok listing =>
      have hfound : (layer.get id).toOption = firstWithId id listing := by
        rw [hlayer.found hall, toOption_orMissing]
      rw [hfound, List.filterMap_cons_some (by rfl), List.flatten_cons]
      unfold firstWithId at hrest ⊢
      rw [List.find?_append, hrest]
      cases listing.find? fun record => decide (Record.id record = id) <;> rfl

/-- A chain answers from the listings that there are, taken in one row, or fails where there is
none. -/
theorem merged_cases (catalog : String) (answers : List (Except StoreError (List ρ))) :
    (∃ error, merged catalog answers = .error error
        ∧ (answers.filterMap Except.toOption).flatten = [])
      ∨ merged catalog answers
        = .ok (distinct (answers.filterMap Except.toOption).flatten) := by
  unfold merged
  cases answers.filterMap Except.toOption with
  | nil => exact .inl ⟨_, rfl, rfl⟩
  | cons first rest => exact .inr rfl

/-- **A chain agrees if its layers do.** Both ways come down to the listings that there are, in one
row: the listing by definition, the look-up by `findSome?_get`. -/
theorem agree_layered (catalog : String) {layers : List (Readings ρ)}
    (h : ∀ layer ∈ layers, layer.Agree) : (layered catalog layers).Agree := by
  have hget (id : String) : (layered catalog layers).get id = orMissing id
      (firstWithId id ((layers.map Readings.all).filterMap Except.toOption).flatten) := by
    rw [← findSome?_get h id]
    rfl
  have hcases := merged_cases catalog (layers.map Readings.all)
  constructor
  · intro listing hall id
    -- repetitions are dropped from the listing only, which makes no difference to what comes first
    rcases hcases with ⟨error, hfails, -⟩ | hlists
    · cases hfails.symm.trans hall
    · cases hlists.symm.trans hall
      rw [hget, firstWithId_distinct]
  · intro error hall id
    -- no layer can be listed, so the row is empty
    rcases hcases with ⟨-, -, hnone⟩ | hlists
    · rw [hget, hnone]
      exact ⟨_, rfl⟩
    · cases hlists.symm.trans hall
  · intro id error herror _
    rw [hget] at herror
    exact (orMissing_eq_error herror).2

/-- A chain drops repetitions itself, so nothing is asked of its layers. -/
theorem listsOnce_layered (catalog : String) (layers : List (Readings ρ)) :
    (layered catalog layers).ListsOnce := by
  intro listing hall
  rcases merged_cases catalog (layers.map Readings.all) with ⟨error, hfails, -⟩ | hlists
  · cases hfails.symm.trans hall
  · cases hlists.symm.trans hall
    exact nodup_distinct _

/-! ## Scopes -/

section Views

variable {view : ρ → Option ρ} {below : Readings ρ}

/-- The first record that a view shows under an id is the first one there is, if it is shown. -/
theorem firstWithId_filterMap (hview : ∀ record shown, view record = some shown →
      Record.id shown = Record.id record) {records : List ρ}
    (honce : (records.map Record.id).Nodup) (id : String) :
    firstWithId id (records.filterMap view) = (firstWithId id records).bind view := by
  induction records with
  | nil => rfl
  | cons first rest ih =>
    obtain ⟨hfirst, hrest⟩ := List.nodup_cons.1 honce
    have ih := ih hrest
    unfold firstWithId at ih ⊢
    by_cases hid : Record.id first = id
    · rw [List.find?_cons_of_pos (by simpa using hid), Option.bind_some]
      cases hshown : view first with
      | some shown =>
        have hsame : Record.id shown = id := (hview first shown hshown).trans hid
        rw [List.filterMap_cons_some hshown, List.find?_cons_of_pos (by simpa using hsame)]
      | none =>
        -- the record is hidden, and no other one has its id
        have hnone : rest.find? (fun record => decide (Record.id record = id)) = none := by
          refine List.find?_eq_none.2 fun record hrecord hsame => hfirst ?_
          rw [hid, ← of_decide_eq_true hsame]
          exact List.mem_map_of_mem hrecord
        rw [List.filterMap_cons_none hshown, ih, hnone]
        rfl
    · rw [List.find?_cons_of_neg (by simpa using hid), ← ih]
      -- another record, shown or hidden, is passed over on both sides
      cases hshown : view first with
      | none => rw [List.filterMap_cons_none hshown]
      | some shown =>
        have hother : Record.id shown ≠ id := (hview first shown hshown) ▸ hid
        rw [List.filterMap_cons_some hshown, List.find?_cons_of_neg (by simpa using hother)]

/-- A view shows what it lets through of the listing below, and fails where that fails. -/
theorem viewed_all_cases (view : ρ → Option ρ) (below : Readings ρ) :
    (∃ error, below.all = .error error ∧ (Scoping.viewed view below).all = .error error)
      ∨ ∃ records, below.all = .ok records
        ∧ (Scoping.viewed view below).all = .ok (records.filterMap view) := by
  cases hall : below.all with
  | error error => exact .inl ⟨error, rfl, by simp only [Scoping.viewed, hall]; rfl⟩
  | ok records => exact .inr ⟨records, rfl, by simp only [Scoping.viewed, hall]; rfl⟩

/-- **A view agrees if the store below does and lists no id twice.** Both ways judge the first
record below. -/
theorem agree_viewed (hview : ∀ record shown, view record = some shown →
      Record.id shown = Record.id record) (h : below.Agree) (honce : below.ListsOnce) :
    (Scoping.viewed view below).Agree := by
  constructor
  · intro listing hall id
    rcases viewed_all_cases view below with
      ⟨error, -, hfails⟩ | ⟨records, hrecords, hlists⟩
    · cases hfails.symm.trans hall
    · cases hlists.symm.trans hall
      rw [firstWithId_filterMap hview (honce records hrecords)]
      simp only [Scoping.viewed, h.found hrecords]
      cases firstWithId id records <;> rfl
  · intro error hall id
    rcases viewed_all_cases view below with
      ⟨error, hbelow, -⟩ | ⟨records, -, hlists⟩
    · obtain ⟨cause, hget⟩ := h.unlisted hbelow id
      exact ⟨cause, by simp only [Scoping.viewed, hget]⟩
    · cases hlists.symm.trans hall
  · intro id error herror hmissing
    -- what is missing below is missing, and what is hidden is answered like it
    cases hget : below.get id with
    | error cause =>
      simp only [Scoping.viewed, hget] at herror
      cases herror
      exact h.missing hget hmissing
    | ok record =>
      simp only [Scoping.viewed, hget] at herror
      exact (orMissing_eq_error herror).2

/-- Since a view keeps ids, it shows none twice. -/
theorem listsOnce_viewed (hview : ∀ record shown, view record = some shown →
      Record.id shown = Record.id record) (honce : below.ListsOnce) :
    (Scoping.viewed view below).ListsOnce := by
  intro listing hall
  rcases viewed_all_cases view below with
    ⟨error, -, hfails⟩ | ⟨records, hrecords, hlists⟩
  · cases hfails.symm.trans hall
  · cases hlists.symm.trans hall
    have hids : (records.map Record.id).Nodup := honce records hrecords
    refine List.pairwise_map.2 (List.Pairwise.filterMap view ?_ (List.pairwise_map.1 hids))
    intro a a' hne b hb b' hb'
    rwa [hview a b hb, hview a' b' hb']

end Views

section Itself

variable {organization : String} {below : Readings Organization}

/-- What a member lists of the organizations is what it finds under the id of its own. -/
theorem itself_cases (organization : String) (h : below.Agree) :
    (∃ record, below.get organization = .ok record ∧ record.id = organization
        ∧ ((Scoping.itself organization).readings below).all = .ok [record])
      ∨ below.get organization = .error (.missing Organization organization)
        ∧ ((Scoping.itself organization).readings below).all = .ok []
      ∨ ∃ error, below.get organization = .error error
        ∧ ((Scoping.itself organization).readings below).all = .error error := by
  cases hget : below.get organization with
  | ok record =>
    refine .inl ⟨record, rfl, ?_, by simp only [Scoping.itself, hget]⟩
    -- what is found under the id has it, because it is listed
    cases hall : below.all with
    | error error =>
      obtain ⟨cause, hcause⟩ := h.unlisted hall organization
      cases hcause.symm.trans hget
    | ok listing =>
      rw [h.found hall] at hget
      cases hfirst : firstWithId organization listing with
      | none => rw [hfirst] at hget; cases hget
      | some first =>
        rw [hfirst] at hget
        cases hget
        exact (of_firstWithId hfirst).2
  | error error =>
    -- a missing organization is an empty listing, any other error is a failure
    cases hmissing : error.isNotFound with
    | true =>
      have hsame := h.missing hget hmissing
      exact .inr (.inl ⟨by rw [hsame], by simp only [Scoping.itself, hget, hmissing, if_true]⟩)
    | false =>
      refine .inr (.inr ⟨error, rfl, ?_⟩)
      simp only [Scoping.itself, hget, hmissing, Bool.false_eq_true, if_false]

/-- A member finds its own organization and no other. -/
theorem itself_get (id : String) : ((Scoping.itself organization).readings below).get id
    = if id = organization then below.get id else .error (.missing Organization id) := rfl

/-- The listing of one's own organization, if there is any, agrees with the look-ups. -/
theorem agree_itself (h : below.Agree) :
    ((Scoping.itself organization).readings below).Agree := by
  constructor
  · intro listing hall id
    rw [itself_get]
    -- the three cases of the listing, each compared with the look-up of an id
    rcases itself_cases organization h with
      ⟨record, hget, hid, hlists⟩ | ⟨hget, hlists⟩ | ⟨error, -, hfails⟩
    · cases hlists.symm.trans hall
      split
      · rename_i hsame
        have hfirst : firstWithId id [record] = some record :=
          List.find?_cons_of_pos (decide_eq_true (hid.trans hsame.symm))
        rw [hsame, hget, ← hsame, hfirst]
        rfl
      · rename_i hother
        have hfirst : firstWithId id [record] = none :=
          List.find?_cons_of_neg fun hsame =>
            hother ((of_decide_eq_true hsame).symm.trans hid)
        rw [hfirst]
        rfl
    · cases hlists.symm.trans hall
      split
      · rename_i hsame
        rw [hsame, hget]
        rfl
      · rfl
    · cases hfails.symm.trans hall
  · intro error hall id
    rw [itself_get]
    rcases itself_cases organization h with
      ⟨record, -, -, hlists⟩ | ⟨-, hlists⟩ | ⟨cause, hget, -⟩
    · cases hlists.symm.trans hall
    · cases hlists.symm.trans hall
    · split
      · rename_i hsame
        exact ⟨cause, hsame ▸ hget⟩
      · exact ⟨_, rfl⟩
  · intro id error herror hmissing
    rw [itself_get] at herror
    split at herror
    · exact h.missing herror hmissing
    · cases herror
      rfl

/-- A listing of at most one record repeats no id. -/
theorem listsOnce_itself (h : below.Agree) :
    ((Scoping.itself organization).readings below).ListsOnce := by
  intro listing hall
  rcases itself_cases organization h with
    ⟨record, -, -, hlists⟩ | ⟨-, hlists⟩ | ⟨error, -, hfails⟩
  · cases hlists.symm.trans hall
    simp
  · cases hlists.symm.trans hall
    exact .nil
  · cases hfails.symm.trans hall

end Itself

end Readings

/-! ## Stores -/

/-- The scopes that confine a caller to one organization. -/
inductive Scoping.Confining : {ρ : Type} → [Record ρ] → Scoping ρ → Prop where
  | owned {ρ : Type} [Owned ρ] (organization : String) :
      Confining (Scoping.owned organization : Scoping ρ)
  | members (organization : String) : Confining (Scoping.membership organization)
  | itself (organization : String) : Confining (Scoping.itself organization)

section Confining

variable {ρ : Type} [Record ρ] {scope : Scoping ρ} {below : Readings ρ}

theorem ownedView_id {ρ : Type} [Owned ρ] {organization : String} (record shown : ρ)
    (h : Scoping.ownedView organization record = some shown) :
    Record.id shown = Record.id record := by
  unfold Scoping.ownedView at h
  split at h
  · cases h
    rfl
  · cases h

theorem seenIn?_id {organization : String} (user shown : User)
    (h : user.seenIn? organization = some shown) : Record.id shown = Record.id user := by
  obtain ⟨role, -, rfl⟩ := Option.map_eq_some_iff.1 h
  rfl

/-- Each of the three scopes agrees over a store that does. -/
theorem Scoping.Confining.agree (hscope : scope.Confining) (h : below.Agree)
    (honce : below.ListsOnce) : (scope.readings below).Agree := by
  cases hscope with
  | owned organization => exact Readings.agree_viewed ownedView_id h honce
  | members organization => exact Readings.agree_viewed seenIn?_id h honce
  | itself organization => exact Readings.agree_itself h

/-- Each of the three scopes lists no id twice over a store that does not. -/
theorem Scoping.Confining.listsOnce (hscope : scope.Confining) (h : below.Agree)
    (honce : below.ListsOnce) : (scope.readings below).ListsOnce := by
  cases hscope with
  | owned organization => exact Readings.listsOnce_viewed ownedView_id honce
  | members organization => exact Readings.listsOnce_viewed seenIn?_id honce
  | itself organization => exact Readings.listsOnce_itself h

end Confining

namespace Store

variable {ρ : Type} [Record ρ] {disk : Disk} {store : Store ρ}

/-- The stores that are put together out of tables, lists, directories, chains and scopes, each
scope over a store that lists no id twice. -/
inductive Composed (disk : Disk) : Store ρ → Prop where
  | memory (table : Table ρ) : Composed disk (.memory table)
  | closed : Composed disk .closed
  | fixed (label : String) (records : List ρ) : Composed disk (.fixed label records)
  | files (folder : Folder) : Composed disk (.files folder)
  | layered (catalog : String) {layers : Layers ρ}
      (hlayers : ∀ layer ∈ layers.toList, Composed disk layer.2) :
      Composed disk (.layered catalog layers)
  | confined {scope : Scoping ρ} {inner : Store ρ} (hscope : scope.Confining)
      (hinner : Composed disk inner) (honce : (inner.readings disk).ListsOnce) :
      Composed disk (.scoped scope inner)

/-- The stores that can list no id twice, whatever lies below them. -/
def Merges : Store ρ → Prop
  | .memory _ | .layered _ _ | .scoped _ _ => True
  | .closed | .fixed _ _ | .files _ | .faulty _ _ _ => False

theorem readings_toList (disk : Disk) : (layers : Layers ρ) →
    layers.readings disk = layers.toList.map fun layer => layer.2.readings disk
  | .nil => rfl
  | .cons _ store rest => congrArg (store.readings disk :: ·) (readings_toList disk rest)

/-- A directory that is not there is a failure and not a missing record. -/
theorem listing_not_missing {folder : Folder} {error : StoreError}
    (h : folder.listing (ρ := ρ) disk = .error error) : error.isNotFound = false := by
  unfold Folder.listing Folder.records Folder.directory at h
  cases hdirectory : disk.directory? folder.path with
  | none => rw [hdirectory] at h; cases h; rfl
  | some directory => rw [hdirectory] at h; cases h

/-- **The induction over the store**: the leaves answer out of one listing, a chain and a scope rest
on what is below them. -/
theorem Composed.agree (h : store.Composed disk) : (store.readings disk).Agree := by
  induction h with
  | memory table => exact Readings.agree_ofListing nofun
  | closed => exact Readings.agree_ofListing nofun
  | fixed label records => exact Readings.agree_ofListing nofun
  | files folder => exact Readings.agree_ofListing fun error => listing_not_missing
  | layered catalog hlayers ih =>
    refine Readings.agree_layered catalog fun layer hlayer => ?_
    rw [readings_toList] at hlayer
    obtain ⟨named, hnamed, rfl⟩ := List.mem_map.1 hlayer
    exact ih named hnamed
  | confined hscope hinner honce ih => exact hscope.agree ih honce

theorem Composed.listsOnce (h : store.Composed disk) (hmerges : store.Merges) :
    (store.readings disk).ListsOnce := by
  cases h with
  | memory table =>
    intro listing hall
    cases hall
    -- a table is sorted by id, strictly
    refine List.pairwise_map.2 (table.sorted.imp fun {a b} hlt hsame => ?_)
    rw [hsame] at hlt
    exact String.lt_irrefl _ hlt
  | layered catalog hlayers => exact Readings.listsOnce_layered catalog _
  | confined hscope hinner honce => exact hscope.listsOnce hinner.agree honce
  | closed => cases hmerges
  | fixed label records => cases hmerges
  | files folder => cases hmerges

/-- **A store finds what it lists.** Where a store can be listed, a look-up finds the first listed
record with the id, or says that the id is missing; where it cannot be listed, no look-up succeeds.
Tables, chains and scopes list no id twice. -/
theorem lookups_match_listing (h : store.Composed disk) :
    (∀ listing, (store.readings disk).all = .ok listing → ∀ id,
        (store.readings disk).get id = Readings.orMissing id (Readings.firstWithId id listing))
      ∧ (∀ error, (store.readings disk).all = .error error → ∀ id,
        ∃ cause, (store.readings disk).get id = .error cause)
      ∧ (store.Merges → ∀ listing, (store.readings disk).all = .ok listing →
        (listing.map Record.id).Nodup) :=
  ⟨fun _ hall => h.agree.found hall, fun _ hall => h.agree.unlisted hall, h.listsOnce⟩

end Store

namespace Shadowed

def upper : Source := { id := "s", name := "", url := "", organization := "b" }

def lower : Source := { id := "s", name := "", url := "", organization := "a" }

def beside : Source := { id := "t", name := "", url := "", organization := "a" }

/-- The table hides a record of another organization, a directory is missing, and the list at the
bottom repeats an id. -/
def chain : Store Source :=
  .layered "sources" (.ofList [("database", .memory (Table.empty.insert upper)),
    ("filesystem", .files ⟨"r", "src"⟩), ("flags", .fixed "flag sources" [lower, beside, beside])])

def inside : Store Source := .scoped (.owned "a") chain

/-- The scope stands over a chain, which lists no id twice; so it may stand there. -/
theorem inside_composed : inside.Composed [] := by
  have hlayers : ∀ layer ∈ (Layers.ofList [("database", Store.memory (Table.empty.insert upper)),
      ("filesystem", .files ⟨"r", "src"⟩),
      ("flags", .fixed "flag sources" [lower, beside, beside])]).toList,
      layer.2.Composed [] := by
    rw [Layers.toList_ofList]
    exact List.forall_mem_cons.2 ⟨.memory _, List.forall_mem_cons.2 ⟨.files _,
      List.forall_mem_cons.2 ⟨.fixed _ _, nofun⟩⟩⟩
  exact .confined (.owned "a") (.layered _ hlayers) (Readings.listsOnce_layered _ _)

end Shadowed

open Shadowed

/-- The hidden record is neither listed nor found, and the one beside it is both, once. -/
theorem lookups_match_listing_shadowed :
    inside.Composed [] ∧ (inside.readings []).all = .ok [beside]
      ∧ (inside.readings []).get "s" = .error (.missing Source "s")
      ∧ (inside.readings []).get "t" = .ok beside := by
  have hall : (inside.readings []).all = .ok [beside] := rfl
  have hget := (Store.lookups_match_listing inside_composed).1 [beside] hall
  exact ⟨inside_composed, hall, hget "s", hget "t"⟩

end TenantConsole
