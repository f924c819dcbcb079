import Mathlib.Data.List.Induction
import TenantConsole.Proofs.Lookups
import TenantConsole.Record.Organization

/-!
# Failing layers

A layer that fails is passed over, whatever the others hold. A chain is listed in one pass over its
layers, with three things in hand: the ids seen so far, whether a layer has answered at all, and the
last refusal. `Merge` is that pass.

* **`distinct_eq_unshadowed`**: of some records in a row, those are kept whose id has not come
  earlier in the row (`unshadowed`). This is said by the places in the row, without a pass.
* **`Merge.Stands`** is what the pass knows after some layers. Each layer keeps it up
  (`Stands.take`), and so the pass ends with it (`stands_foldl`).
* **`merged_eq_pass`**: what a chain lists is the outcome of the pass.

`failing_layers_absent` reads the answers of a chain off them.
-/

namespace TenantConsole.Readings

variable {ρ : Type} [Record ρ]

/-! ## Shadowed records -/

/-- The records of a row whose id has no record at an earlier place. -/
def unshadowed (row : List ρ) : List ρ :=
  (row.zipIdx.filter fun (record, place) =>
    ∀ earlier ∈ row.take place, Record.id earlier ≠ Record.id record).map Prod.fst

/-- One more record at the end is kept unless its id is in the row. -/
theorem unshadowed_concat (row : List ρ) (record : ρ) :
    unshadowed (row ++ [record]) = unshadowed row
      ++ if ∃ earlier ∈ row, Record.id earlier = Record.id record then [] else [record] := by
  have hbefore : row.zipIdx.filter (fun (other, place) => decide
        (∀ earlier ∈ (row ++ [record]).take place, Record.id earlier ≠ Record.id other))
      = row.zipIdx.filter fun (other, place) => decide
        (∀ earlier ∈ row.take place, Record.id earlier ≠ Record.id other) := by
    refine List.filter_congr fun ⟨other, place⟩ hplace => ?_
    -- a place in the row has only the row before it
    have hlt : place ≤ row.length := by
      have := (List.mem_zipIdx hplace).2.1
      omega
    simp only [List.take_append_of_le_length hlt]
  have hlast : (row ++ [record]).take row.length = row := List.take_left
  unfold unshadowed
  rw [List.zipIdx_append, List.filter_append, List.map_append, hbefore, Nat.zero_add]
  congr 1
  simp only [List.zipIdx_singleton, List.filter_cons, List.filter_nil, hlast, decide_eq_true_eq]
  by_cases hshadowed : ∃ earlier ∈ row, Record.id earlier = Record.id record
  · rw [if_pos hshadowed, if_neg (by simpa using hshadowed), List.map_nil]
  · rw [if_neg hshadowed, if_pos (by simpa using hshadowed), List.map_singleton]

/-- Dropping repetitions treats one more record at the end in the same way. -/
theorem distinct_concat (row : List ρ) (record : ρ) :
    distinct (row ++ [record]) = distinct row
      ++ if ∃ earlier ∈ row, Record.id earlier = Record.id record then [] else [record] := by
  -- over the row; the record at the end is hidden by the first one or by one of the rest
  induction row with
  | nil => simp [distinct]
  | cons first rest ih =>
    rw [List.cons_append, distinct, ih, List.filter_append, distinct, List.cons_append]
    by_cases hrest : ∃ earlier ∈ rest, Record.id earlier = Record.id record
    · have hrow : ∃ earlier ∈ first :: rest, Record.id earlier = Record.id record := by
        obtain ⟨earlier, hearlier, hsame⟩ := hrest
        exact ⟨earlier, .tail _ hearlier, hsame⟩
      rw [if_pos hrest, if_pos hrow]
      rfl
    · rw [if_neg hrest]
      by_cases hfirst : Record.id first = Record.id record
      · rw [if_pos ⟨first, List.mem_cons_self, hfirst⟩]
        simp [hfirst]
      · have hrow : ¬ ∃ earlier ∈ first :: rest, Record.id earlier = Record.id record := by
          simpa [hfirst] using hrest
        rw [if_neg hrow]
        simp [Ne.symm hfirst]

/-- **A record is kept exactly where its id comes first.** -/
theorem distinct_eq_unshadowed (row : List ρ) : distinct row = unshadowed row := by
  induction row using List.reverseRecOn with
  | nil => rfl
  | append_singleton row record ih => rw [distinct_concat, unshadowed_concat, ih]

/-! ## The pass over the layers -/

/-- The records of all the listings that there are, in one row. -/
def listed (answers : List (Except StoreError (List ρ))) : List ρ :=
  (answers.filterMap Except.toOption).flatten

/-- How far a pass over the layers has come. -/
structure Merge (ρ : Type) where
  seen : List String := []
  kept : List ρ := []
  reached : Bool := false
  refusal : Option StoreError := none

namespace Merge

/-- A record is kept, unless its id has been seen. -/
def keep (merge : Merge ρ) (record : ρ) : Merge ρ :=
  if Record.id record ∈ merge.seen then merge
  else { merge with seen := Record.id record :: merge.seen, kept := merge.kept ++ [record] }

/-- One layer: its records are kept one by one, or its refusal is. -/
def take (merge : Merge ρ) : Except StoreError (List ρ) → Merge ρ
  | .ok listing => listing.foldl keep { merge with reached := true }
  | .error error => { merge with refusal := some error }

/-- What is answered after the last layer. -/
def outcome (catalog : String) (merge : Merge ρ) : Except StoreError (List ρ) :=
  if merge.reached then .ok merge.kept
  else
    .error <| .unavailable catalog <|
      match merge.refusal with
      | some error => error.message
      | none => "no providers configured"

/-- What a pass has kept of a row of records. -/
structure Holds (row : List ρ) (merge : Merge ρ) : Prop where
  seen : ∀ id, id ∈ merge.seen ↔ ∃ record ∈ row, Record.id record = id
  kept : merge.kept = unshadowed row

/-- What the pass knows of a row it knows of the row with one more record. -/
theorem Holds.keep {row : List ρ} {merge : Merge ρ} (h : merge.Holds row) (record : ρ) :
    (merge.keep record).Holds (row ++ [record]) := by
  have hshadowed := h.seen (Record.id record)
  unfold Merge.keep
  -- a record whose id has been seen is passed over
  split
  · rename_i hseen
    refine ⟨fun id => ?_, ?_⟩
    · -- the id is known already, from a record further up
      have hid : Record.id record = id → ∃ earlier ∈ row, Record.id earlier = id := by
        rintro rfl
        exact hshadowed.1 hseen
      rw [h.seen]
      simpa [or_and_right, exists_or] using hid
    · rw [h.kept, unshadowed_concat, if_pos (hshadowed.1 hseen), List.append_nil]
  · rename_i hnew
    refine ⟨fun id => ?_, ?_⟩
    · rw [List.mem_cons, h.seen]
      simp [or_comm, eq_comm]
    · rw [unshadowed_concat, if_neg (mt hshadowed.2 hnew), ← h.kept]

theorem Holds.foldl {row listing : List ρ} {merge : Merge ρ} (h : merge.Holds row) :
    (listing.foldl Merge.keep merge).Holds (row ++ listing) := by
  induction listing generalizing row merge with
  | nil => simpa using h
  | cons record rest ih =>
    have hrest := ih (h.keep record)
    rwa [List.append_assoc, List.singleton_append] at hrest

/-- The records of a layer tell nothing about the other layers. -/
theorem foldl_keep (listing : List ρ) (merge : Merge ρ) :
    (listing.foldl keep merge).reached = merge.reached
      ∧ (listing.foldl keep merge).refusal = merge.refusal := by
  -- record by record; only the ids and the listing are touched
  induction listing generalizing merge with
  | nil => exact ⟨rfl, rfl⟩
  | cons record rest ih =>
    have hkeep : (merge.keep record).reached = merge.reached
        ∧ (merge.keep record).refusal = merge.refusal := by
      unfold keep
      split
      · exact ⟨rfl, rfl⟩
      · exact ⟨rfl, rfl⟩
    obtain ⟨hreached, hrefusal⟩ := ih (merge.keep record)
    exact ⟨hreached.trans hkeep.1, hrefusal.trans hkeep.2⟩

/-- The refusals among the answers. -/
def refusals (answers : List (Except StoreError (List ρ))) : List StoreError :=
  answers.filterMap fun
    | .error error => some error
    | .ok _ => none

/-- What a pass knows after these answers. -/
structure Stands (answers : List (Except StoreError (List ρ))) (merge : Merge ρ) : Prop where
  holds : merge.Holds (listed answers)
  reached : merge.reached = true ↔ ∃ listing, .ok listing ∈ answers
  refusal : merge.refusal = (refusals answers).getLast?

/-- **One more layer.** -/
theorem Stands.take {answers : List (Except StoreError (List ρ))} {merge : Merge ρ}
    (h : merge.Stands answers) (answer : Except StoreError (List ρ)) :
    (merge.take answer).Stands (answers ++ [answer]) := by
  -- a listing adds its records and shows that a layer has answered, an error becomes the last
  -- refusal
  cases answer with
  | ok listing =>
    obtain ⟨hreached, hrefusal⟩ := foldl_keep listing { merge with reached := true }
    have hlisted : listed (answers ++ [.ok listing]) = listed answers ++ listing := by
      simp [listed, Except.toOption]
    have hrefusals : refusals (answers ++ [.ok listing]) = refusals answers := by
      simp [refusals]
    refine ⟨?_, ?_, ?_⟩
    · rw [hlisted]
      exact Holds.foldl ⟨h.holds.seen, h.holds.kept⟩
    · exact iff_of_true hreached ⟨listing, by simp⟩
    · rw [hrefusals]
      exact hrefusal.trans h.refusal
  | error error =>
    have hlisted : listed (answers ++ [.error error]) = listed answers := by
      simp [listed, Except.toOption]
    have hrefusals : refusals (answers ++ [.error error]) = refusals answers ++ [error] := by
      simp [refusals]
    refine ⟨?_, ?_, ?_⟩
    · rw [hlisted]
      exact ⟨h.holds.seen, h.holds.kept⟩
    · refine h.reached.trans ?_
      simp
    · rw [hrefusals, List.getLast?_concat]
      rfl

/-- **All layers**, whatever they answer. -/
theorem stands_foldl (answers : List (Except StoreError (List ρ))) :
    (answers.foldl Merge.take {}).Stands answers := by
  induction answers using List.reverseRecOn with
  | nil => exact ⟨⟨by simp [listed], rfl⟩, by simp, rfl⟩
  | append_singleton answers answer ih =>
    rw [List.foldl_append]
    exact ih.take answer

end Merge

/-- **A chain is listed in one pass.** -/
theorem merged_eq_pass (catalog : String) (answers : List (Except StoreError (List ρ))) :
    merged catalog answers = (answers.foldl Merge.take {}).outcome catalog := by
  have hstands := Merge.stands_foldl answers
  have hunreached : answers.filterMap Except.toOption = []
      ↔ (answers.foldl Merge.take {}).reached = false := by
    rw [List.filterMap_eq_nil_iff, ← Bool.not_eq_true, hstands.reached]
    refine ⟨fun hnone ⟨listing, hlisting⟩ => ?_, fun hnone answer hanswer => ?_⟩
    · cases hnone _ hlisting
    · cases answer with
      | error error => rfl
      | ok listing => exact absurd ⟨listing, hanswer⟩ hnone
  unfold merged Merge.outcome
  split
  · rename_i hnone
    rw [if_neg (by simpa using hunreached.1 hnone), hstands.refusal]
    rfl
  · rename_i hsome
    rw [if_pos (by simpa using mt hunreached.2 hsome), hstands.holds.kept, distinct_eq_unshadowed]
    rfl

/-! ## What a chain answers -/

theorem toOption_eq_some_iff {α : Type} {answer : Except StoreError α} {value : α} :
    answer.toOption = some value ↔ answer = .ok value := by
  cases answer <;> simp [Except.toOption]

theorem toOption_eq_none_iff {α : Type} {answer : Except StoreError α} :
    answer.toOption = none ↔ ∃ error, answer = .error error := by
  cases answer <;> simp [Except.toOption]

section Chains

variable {catalog : String} {layers : List (Readings ρ)}

/-- A chain lists the outcome of the pass over its layers. -/
theorem layered_all_eq (catalog : String) (layers : List (Readings ρ)) :
    (layered catalog layers).all
      = ((layers.map Readings.all).foldl Merge.take {}).outcome catalog :=
  merged_eq_pass catalog _

/-- A chain can be listed if a layer can, and then its listing is that of all layers. -/
theorem layered_all_ok_iff {listing : List ρ} :
    (layered catalog layers).all = .ok listing
      ↔ (∃ layer ∈ layers, ∃ records, layer.all = .ok records)
        ∧ listing = unshadowed (listed (layers.map Readings.all)) := by
  have hstands := Merge.stands_foldl (layers.map Readings.all)
  have hreached : (∃ layer ∈ layers, ∃ records, layer.all = .ok records)
      ↔ ((layers.map Readings.all).foldl Merge.take {}).reached = true := by
    rw [hstands.reached]
    simp only [List.mem_map]
    exact ⟨fun ⟨layer, hlayer, records, h⟩ => ⟨records, layer, hlayer, h⟩,
      fun ⟨records, layer, hlayer, h⟩ => ⟨layer, hlayer, records, h⟩⟩
  rw [layered_all_eq, hreached, ← hstands.holds.kept]
  unfold Merge.outcome
  split
  · rename_i hyes
    simp [hyes, eq_comm]
  · rename_i hno
    simp [hno]

/-- A chain that cannot be listed says that its catalog is unavailable. -/
theorem layered_all_error {error : StoreError} (h : (layered catalog layers).all = .error error) :
    ∃ reason, error = .unavailable catalog reason := by
  rw [layered_all_eq] at h
  unfold Merge.outcome at h
  split at h
  · cases h
  · cases h
    exact ⟨_, rfl⟩

omit [Record ρ] in
/-- Layers that cannot be listed add nothing to the listings. -/
theorem listed_reachable (layers : List (Readings ρ)) :
    listed ((layers.filter fun layer => layer.all.isOk).map Readings.all)
      = listed (layers.map Readings.all) := by
  unfold listed
  rw [List.filterMap_map, List.filterMap_filter, List.filterMap_map]
  congr 2
  funext layer
  show (if layer.all.isOk = true then layer.all.toOption else none) = layer.all.toOption
  cases layer.all <;> rfl

/-- The first layer that finds an id is believed. -/
theorem layered_get_cases (catalog : String) (layers : List (Readings ρ)) (id : String) :
    (∃ above layer below record, layers = above ++ layer :: below
        ∧ (∀ higher ∈ above, ∃ error, higher.get id = .error error)
        ∧ layer.get id = .ok record ∧ (layered catalog layers).get id = .ok record)
      ∨ (∀ layer ∈ layers, ∃ error, layer.get id = .error error)
        ∧ (layered catalog layers).get id = .error (.missing ρ id) := by
  have hget : (layered catalog layers).get id
      = orMissing id (layers.findSome? fun layer => (layer.get id).toOption) := rfl
  rw [hget]
  -- the search stops at the first layer that finds the id
  cases hfound : layers.findSome? fun layer => (layer.get id).toOption with
  | some record =>
    obtain ⟨above, layer, below, hlayers, hlayer, habove⟩ := List.findSome?_eq_some_iff.1 hfound
    have hfails : ∀ higher ∈ above, ∃ error, higher.get id = .error error := fun higher hhigher =>
      toOption_eq_none_iff.1 (habove higher hhigher)
    exact .inl ⟨above, layer, below, record, hlayers, hfails, toOption_eq_some_iff.1 hlayer, rfl⟩
  | none =>
    have hfails : ∀ layer ∈ layers, ∃ error, layer.get id = .error error := fun layer hlayer =>
      toOption_eq_none_iff.1 (List.findSome?_eq_none_iff.1 hfound layer hlayer)
    exact .inr ⟨hfails, rfl⟩

end Chains

/-- **A layer that fails counts for nothing.** A chain of any layers, whatever they answer, can be
listed exactly if one of the layers can. Its listing is then all the records of the layers that can,
in their order, without those whose id has come before; so no id is listed twice, and the layers
that cannot be listed may as well be left out. Else the chain is unavailable. An id is looked up in
one layer after the other, and the first that finds it is believed, whatever went wrong in those
above; if none does, the id is missing. -/
theorem failing_layers_absent (catalog : String) (layers : List (Readings ρ)) :
    ((∃ listing, (layered catalog layers).all = .ok listing)
      ↔ ∃ layer ∈ layers, ∃ listing, layer.all = .ok listing)
    ∧ (∀ listing, (layered catalog layers).all = .ok listing →
        listing = unshadowed (listed (layers.map Readings.all))
        ∧ (listing.map Record.id).Nodup
        ∧ (layered catalog (layers.filter fun layer => layer.all.isOk)).all = .ok listing)
    ∧ (∀ error, (layered catalog layers).all = .error error →
        ∃ reason, error = .unavailable catalog reason)
    ∧ ∀ id, (∃ above layer below record, layers = above ++ layer :: below
          ∧ (∀ higher ∈ above, ∃ error, higher.get id = .error error)
          ∧ layer.get id = .ok record ∧ (layered catalog layers).get id = .ok record)
        ∨ (∀ layer ∈ layers, ∃ error, layer.get id = .error error)
          ∧ (layered catalog layers).get id = .error (.missing ρ id) := by
  refine ⟨?_, fun listing hall => ?_, fun error => layered_all_error,
    layered_get_cases catalog layers⟩
  · constructor
    · rintro ⟨listing, hall⟩
      exact (layered_all_ok_iff.1 hall).1
    · intro hreached
      exact ⟨_, layered_all_ok_iff.2 ⟨hreached, rfl⟩⟩
  · obtain ⟨⟨layer, hlayer, records, hrecords⟩, rfl⟩ := layered_all_ok_iff.1 hall
    refine ⟨rfl, ?_, ?_⟩
    · rw [← distinct_eq_unshadowed]
      exact nodup_distinct _
    · -- the layer that can be listed is among those that are left
      have hkept : layer ∈ layers.filter fun layer => layer.all.isOk := by
        rw [List.mem_filter, hrecords]
        exact ⟨hlayer, rfl⟩
      rw [layered_all_ok_iff, listed_reachable]
      exact ⟨⟨layer, hkept, records, hrecords⟩, rfl⟩

namespace Outage

/-- An organization of the upper layer. -/
def acme : Organization := { id := "acme", name := "Acme" }

/-- The same id in a layer below, under another name. -/
def renamed : Organization := { id := "acme", name := "Acme & Sons" }

/-- An organization that the upper layer does not have. -/
def lab : Organization := { id := "lab", name := "Laboratory" }

/-- A layer that cannot be listed. -/
def down : Readings Organization := .ofListing (.error (.backend "timeout"))

/-- A layer that is down, one that is empty, and two that have an id in common. -/
def layers : List (Readings Organization) :=
  [down, .ofListing (.ok []), .ofListing (.ok [acme]), .ofListing (.ok [renamed, lab])]

end Outage

/-- The others answer for the layer that is down; by itself it makes the chain unavailable. -/
theorem failing_layers_absent_outage :
    (layered "organizations" Outage.layers).all = .ok [Outage.acme, Outage.lab]
      ∧ (layered "organizations" (Outage.layers.filter fun layer => layer.all.isOk)).all
        = .ok [Outage.acme, Outage.lab]
      ∧ ∃ error reason, (layered "organizations" [Outage.down]).all = .error error
        ∧ error = .unavailable "organizations" reason := by
  have hall : (layered "organizations" Outage.layers).all = .ok [Outage.acme, Outage.lab] := rfl
  have hdown : (layered "organizations" [Outage.down]).all = .error _ := rfl
  obtain ⟨-, hlisting, -, -⟩ := failing_layers_absent "organizations" Outage.layers
  obtain ⟨-, -, hwithout⟩ := hlisting _ hall
  obtain ⟨-, -, hfails, -⟩ := failing_layers_absent "organizations" [Outage.down]
  obtain ⟨reason, hreason⟩ := hfails _ hdown
  exact ⟨hall, hwithout, _, reason, hdown, hreason⟩

end TenantConsole.Readings
