import TenantConsole.Proofs.Lookups
import TenantConsole.Proofs.UserServices

/-!
# What organizations learn of hidden users

A user without a role in an organization is hidden from it. Under the id of a hidden user the
organization gets the answers that it gets under an id that nobody has: `Table.Unseen` covers both,
and the answers are those of `get_unseen`, `delete_unseen` and `update_unseen`.

It is different for a user that is looked up by its identity. The look-up goes through all users
first and asks afterwards whether the organization may see what was found. So a hidden user answers
in its own name, and it stands before a member of the same identity; `hidden_alike_iff` says when
that makes no difference.
-/

namespace TenantConsole

/-! ## Looking users up by id -/

/-- A user without a role in an organization is not seen from there. -/
theorem User.seenIn?_of_hidden {user : User} {organization : String}
    (h : user.hasRoleIn organization = false) : user.seenIn? organization = none := by
  have hrole : user.roleIn? organization = none :=
    Option.isNone_iff_eq_none.1 (Option.isSome_eq_false_iff.1 h)
  unfold seenIn?
  rw [hrole]
  rfl

/-- There is nobody under the id that the organization sees. -/
def Table.Unseen (table : Table User) (organization id : String) : Prop :=
  ∀ user, table.get? id = some user → user.hasRoleIn organization = false

section Unseen

variable {table : Table User} {organization id : String} {world : World}

/-- The id of a hidden user is one under which nobody is seen. -/
theorem Table.unseen_of_hidden {hidden : User} (hstored : hidden ∈ table.rows)
    (hhidden : hidden.hasRoleIn organization = false) : table.Unseen organization hidden.id := by
  intro user huser
  have hfound : table.get? hidden.id = some hidden := get?_of_mem hstored
  cases hfound.symm.trans huser
  exact hhidden

theorem Table.unseen_erase (table : Table User) (organization id : String) :
    (table.erase id).Unseen organization id := by
  intro user huser
  rw [get?_erase, if_pos rfl] at huser
  cases huser

theorem member_unseen (h : table.Unseen organization id) :
    Scoping.member organization (.ofListing (.ok table.rows)) id = .error (.missing User id) := by
  unfold Scoping.member
  rw [Table.get_ofListing]
  cases hfound : table.get? id with
  | none => rfl
  | some user => exact if_neg (by simp [h user hfound])

/-- Looking up an unseen id is answered as if it were unknown. -/
theorem get_unseen (h : table.Unseen organization id) (disk : Disk) :
    ((table.membersOf organization).readings disk).get id = .error (.missing User id) := by
  show (Scoping.viewed _ (.ofListing (.ok table.rows))).get id = _
  simp only [Scoping.viewed, Table.get_ofListing]
  cases hfound : table.get? id with
  | none => rfl
  | some user => simp only [Readings.orMissing, User.seenIn?_of_hidden (h user hfound)]

theorem delete_unseen (h : table.Unseen organization id) :
    (table.membersOf organization).write (.delete id) world
      = (.error (.missing User id), table.membersOf organization, world) := by
  rw [Table.write_membersOf]
  simp only [Access.outcome, Scoping.plan, Scoping.membership, member_unseen h, Plan.carriedOut]

/-- Why an update is refused under an id that the organization does not see: what is submitted is
looked at first. -/
def unseenUpdate (organization : String) (user : User) : StoreError :=
  match Scoping.submittedRole organization user with
  | .error error => error
  | .ok _ => .missing User user.id

theorem update_unseen {user : User} (h : table.Unseen organization user.id) :
    (table.membersOf organization).write (.update user) world
      = (.error (unseenUpdate organization user), table.membersOf organization, world) := by
  rw [Table.write_membersOf]
  unfold unseenUpdate
  simp only [Access.outcome, Scoping.plan, Scoping.membership, member_unseen h]
  cases Scoping.submittedRole organization user <;> rfl

end Unseen

/-! ## Looking users up by identity -/

section Identities

variable {table : Table User} {organization id : String} {identity : Identity} {first : User}

/-- What the look-up answers is what the organization sees of the first user of the identity. -/
theorem find_membersOf (table : Table User) (organization : String) (identity : Identity)
    (disk : Disk) :
    ((table.membersOf organization).readings disk).find (Scoping.identityQuery identity)
      = match table.knownAs? identity with
        | none => .error (.missing User (Scoping.identityQuery identity).label)
        | some first => Readings.orMissing first.id (first.seenIn? organization) := by
  show (Scoping.viewed _ (.ofListing (.ok table.rows))).find _ = _
  simp only [Scoping.viewed, table.find_ofListing]
  cases table.knownAs? identity <;> rfl

/-- The first user of an identity is not affected when another user goes. -/
theorem Table.knownAs?_erase_of_ne (hfirst : table.knownAs? identity = some first)
    (hother : first.id ≠ id) : (table.erase id).knownAs? identity = some first := by
  obtain ⟨hidentity, above, below, hrows, habove⟩ := List.find?_eq_some_iff_append.1 hfirst
  have hkept : (table.erase id).rows = above.filter (fun row => Record.id row ≠ id)
      ++ first :: below.filter (fun row => Record.id row ≠ id) := by
    show table.rows.filter _ = _
    rw [hrows, List.filter_append, List.filter_cons_of_pos (by simpa using hother)]
  refine List.find?_eq_some_iff_append.2 ⟨hidentity, _, _, hkept, fun row hrow => ?_⟩
  exact habove row (List.mem_filter.1 hrow).1

/-- Once a user has gone, the first user of an identity is another one. -/
theorem Table.id_of_knownAs?_erase (h : (table.erase id).knownAs? identity = some first) :
    first.id ≠ id :=
  (mem_erase.1 (List.mem_of_find?_eq_some h)).2

/-- Nobody has an identity once a user has gone, if all users of the identity had that user's id. -/
theorem Table.knownAs?_erase_eq_none_iff : (table.erase id).knownAs? identity = none
    ↔ ∀ other ∈ table.rows, other.identity = identity → other.id = id := by
  unfold knownAs?
  rw [List.find?_eq_none]
  constructor
  · intro hnone other hother hidentity
    by_cases hid : other.id = id
    · exact hid
    · exact absurd (decide_eq_true hidentity) (hnone other (mem_erase.2 ⟨hother, hid⟩))
  · intro honly other hother hidentity
    obtain ⟨hrow, hid⟩ := mem_erase.1 hother
    exact hid (honly other hrow (of_decide_eq_true hidentity))

end Identities

/-! ## Hidden users -/

/-- Two stores that give the same answers under an id. -/
structure Store.AlikeUnder {ρ : Type} [Record ρ] (id : String) (store other : Store ρ) :
    Prop where
  get : ∀ disk, (store.readings disk).get id = (other.readings disk).get id
  update : ∀ record world, Record.id record = id →
    (store.write (.update record) world).1 = (other.write (.update record) world).1
  delete : ∀ world, (store.write (.delete id) world).1 = (other.write (.delete id) world).1

/-- Under an id that is unseen in both, two tables give an organization the same answers. -/
theorem alikeUnder_of_unseen {table other : Table User} {organization id : String}
    (h : table.Unseen organization id) (h' : other.Unseen organization id) :
    (table.membersOf organization).AlikeUnder id (other.membersOf organization) where
  get disk := by rw [get_unseen h, get_unseen h']
  update user world hid := by
    have hunseen : table.Unseen organization user.id := by rwa [← hid] at h
    have hunseen' : other.Unseen organization user.id := by rwa [← hid] at h'
    rw [update_unseen hunseen, update_unseen hunseen']
  delete world := by rw [delete_unseen h, delete_unseen h']

/-- Errors for missing records differ in the ids that they name. -/
theorem StoreError.missing_inj {ρ : Type} [Record ρ] {id other : String} :
    missing ρ id = missing ρ other ↔ id = other := by
  simp [missing]

section Hidden

variable {table : Table User} {organization : String} {hidden : User}

/-- What is found instead of a hidden user is not answered for in its name. -/
theorem find_hidden_ne {next : User} (hother : next.id ≠ hidden.id) :
    (.error (.missing User hidden.id) : Except StoreError User)
      ≠ Readings.orMissing next.id (next.seenIn? organization) := by
  intro hsame
  obtain ⟨-, hmissing⟩ := Readings.orMissing_eq_error hsame.symm
  exact hother (StoreError.missing_inj.1 hmissing).symm

/-- **A look-up by identity gives a hidden user away**, unless it is not the first of its identity,
or it is the only one and has for its id what the look-up would name if there were none. -/
theorem find_hidden_iff (hstored : hidden ∈ table.rows)
    (hhidden : hidden.hasRoleIn organization = false) (disk : Disk) :
    ((table.membersOf organization).readings disk).find (Scoping.identityQuery hidden.identity)
        = (((table.erase hidden.id).membersOf organization).readings disk).find
          (Scoping.identityQuery hidden.identity)
      ↔ table.knownAs? hidden.identity ≠ some hidden
        ∨ (∀ other ∈ table.rows, other.identity = hidden.identity → other = hidden)
          ∧ hidden.id = (Scoping.identityQuery hidden.identity).label := by
  have hheld : table.get? hidden.id = some hidden := Table.get?_of_mem hstored
  -- a table has one row for an id
  have hsame {other : User} (hother : other ∈ table.rows) (hid : other.id = hidden.id) :
      other = hidden := by
    have hfound : table.get? other.id = some other := Table.get?_of_mem hother
    rw [hid, hheld] at hfound
    exact (Option.some.inj hfound).symm
  rw [find_membersOf, find_membersOf]
  by_cases hfirst : table.knownAs? hidden.identity = some hidden
  case neg =>
    -- somebody else stands before it, with it and without it
    refine iff_of_true ?_ (.inl hfirst)
    cases hknown : table.knownAs? hidden.identity with
    | none => exact absurd (List.find?_eq_none.1 hknown hidden hstored) (by simp)
    | some first =>
      have hother : first.id ≠ hidden.id := fun hid => hfirst <| by
        rw [hknown, hsame (List.mem_of_find?_eq_some hknown) hid]
      rw [Table.knownAs?_erase_of_ne hknown hother]
  have hseen : Readings.orMissing hidden.id (hidden.seenIn? organization)
      = .error (.missing User hidden.id) := by
    rw [User.seenIn?_of_hidden hhidden]
    rfl
  rw [hfirst]
  simp only [hseen]
  cases hnext : (table.erase hidden.id).knownAs? hidden.identity with
  | none =>
    -- the look-up is in vain once it has gone, and names the identity
    have honly := Table.knownAs?_erase_eq_none_iff.1 hnext
    rw [Except.error.injEq, StoreError.missing_inj]
    constructor
    · exact fun hlabel => .inr
        ⟨fun other hother hidentity => hsame hother (honly other hother hidentity), hlabel⟩
    · exact fun h => h.elim (absurd rfl) And.right
  | some next =>
    have hother : next.id ≠ hidden.id := Table.id_of_knownAs?_erase hnext
    refine iff_of_false (find_hidden_ne hother) fun h => h.elim (absurd rfl) fun honly => ?_
    have hmem := (Table.mem_erase.1 (List.mem_of_find?_eq_some hnext)).1
    have hidentity : next.identity = hidden.identity := by simpa using List.find?_some hnext
    exact hother (congrArg User.id (honly.1 next hmem hidentity))

/-- **When a hidden user is as good as none.** An organization looks a user up, updates it or
deletes it under the id of a stored user that has no role in it, and gets the answers that it would
get if that user were not stored. Looking for the user's identity it gets the same answer exactly if
another user of the identity comes first, or if the user is the only one of its identity and has the
text for its id by which the look-up would name the identity. -/
theorem hidden_alike_iff (hstored : hidden ∈ table.rows)
    (hhidden : hidden.hasRoleIn organization = false) (disk : Disk) :
    (table.membersOf organization).AlikeUnder hidden.id
        ((table.erase hidden.id).membersOf organization)
      ∧ (((table.membersOf organization).readings disk).find
            (Scoping.identityQuery hidden.identity)
          = (((table.erase hidden.id).membersOf organization).readings disk).find
            (Scoping.identityQuery hidden.identity)
        ↔ table.knownAs? hidden.identity ≠ some hidden
          ∨ (∀ other ∈ table.rows, other.identity = hidden.identity → other = hidden)
            ∧ hidden.id = (Scoping.identityQuery hidden.identity).label) :=
  ⟨alikeUnder_of_unseen (Table.unseen_of_hidden hstored hhidden) (table.unseen_erase _ _),
    find_hidden_iff hstored hhidden disk⟩

end Hidden

namespace Incognito

/-- A user of another organization. -/
def hidden : User :=
  { id := "h", name := "n", provider := "p", scheme := "s", superAdmin := false
    roles := [⟨"b", .viewer⟩] }

/-- A member with the same identity. -/
def member (id : String) : User := { hidden with id, roles := [⟨"a", .viewer⟩] }

/-- What both of them are looked up by. -/
def query : Query User := Scoping.identityQuery hidden.identity

/-- The hidden user and nobody else. -/
def alone : Table User := Table.empty.insert hidden

/-- The member comes first. -/
def behind : Table User := alone.insert (member "g")

/-- The member comes second. -/
def ahead : Table User := alone.insert (member "i")

end Incognito

/-- Behind a member, a hidden user is not noticed. -/
theorem hidden_alike_iff_incognito : Incognito.hidden ∈ Incognito.behind.rows
    ∧ Incognito.hidden.hasRoleIn "a" = false
    ∧ (Incognito.behind.membersOf "a").AlikeUnder "h" ((Incognito.behind.erase "h").membersOf "a")
    ∧ ((Incognito.behind.membersOf "a").readings []).find Incognito.query
      = (((Incognito.behind.erase "h").membersOf "a").readings []).find Incognito.query := by
  have hstored : Incognito.hidden ∈ Incognito.behind.rows := by decide
  have hhidden : Incognito.hidden.hasRoleIn "a" = false := rfl
  obtain ⟨halike, hfind⟩ := hidden_alike_iff hstored hhidden []
  exact ⟨hstored, hhidden, halike, hfind.2 (.inl (by decide))⟩

/-- **A hidden user answers in its own name**, where the look-up would name the identity if it were
not stored, and it keeps a member with the same identity from being found. -/
theorem hidden_user_answers :
    (Incognito.hidden ∈ Incognito.alone.rows ∧ Incognito.hidden ∈ Incognito.ahead.rows
      ∧ Incognito.hidden.hasRoleIn "a" = false)
    ∧ ((Incognito.alone.membersOf "a").readings []).find Incognito.query
      = .error (.missing User "h")
    ∧ (((Incognito.alone.erase "h").membersOf "a").readings []).find Incognito.query
      = .error (.missing User "p/s/n")
    ∧ (.missing User "h" : StoreError) ≠ .missing User "p/s/n"
    ∧ ((Incognito.ahead.membersOf "a").readings []).find Incognito.query
      = .error (.missing User "h")
    ∧ (((Incognito.ahead.erase "h").membersOf "a").readings []).find Incognito.query
      = .ok (Incognito.member "i") :=
  ⟨⟨by decide, by decide, rfl⟩, rfl, rfl, by decide, rfl, rfl⟩

end TenantConsole
