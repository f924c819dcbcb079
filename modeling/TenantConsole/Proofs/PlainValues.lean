import TenantConsole.Proofs.WrittenValues

/-!
# Plain values are read as they were written

A value is plain if nothing in it is lost on the way through text: it has no floats, its whole
numbers fit into 64 bits, it nests no deeper than the reader follows, and its objects are what
reading makes of them, sorted by name and not in the guise of an embedded text. What has been
written of a plain value is read as that value, in whichever layout and whatever follows
(`reads_value`).

`Reads` is the statement for any reader. It is the other half of `Spans`: that one says where a
reader stops if it answers at all, this one that it answers, and what. Numbers come first, then
entries between brackets, then values by induction on `Plain`.
-/

namespace TenantConsole.Json

/-- The reader takes the text for this value, with any blanks before it, and leaves what follows. -/
def Reads {α : Type} (read : Reader α) (text : List Char) (value : α) : Prop :=
  ∀ blanks rest, (∀ c ∈ blanks, isBlank c = true) → Ends rest →
    read (blanks ++ (text ++ rest)) = .ok (value, rest)

/-- What is read at all is read to its end. -/
theorem Reads.spans {α : Type} {read : Reader α} {text : List Char} {value : α} {post : α → Prop}
    (h : Reads read text value) (hpost : post value) : Spans read text post := by
  intro blanks hblanks rest found rest' hends hread
  rw [List.append_assoc, h blanks rest hblanks hends] at hread
  cases hread
  exact ⟨rfl, hpost⟩

/-! ## Numbers -/

theorem decimal_toDigits (n : Nat) : Text.decimal (Nat.toDigits 10 n) = n :=
  Nat.ofDigitChars_toDigits (by decide) (by decide)

/-- Only zero is written with a leading zero. -/
theorem head_toDigits {n : Nat} (hn : 0 < n) : ∀ d ∈ (Nat.toDigits 10 n).head?, d ≠ '0' := by
  -- the leading digit is that of the number without its last digit
  induction n using Nat.strongRecOn with
  | ind n ih =>
    by_cases hsmall : n < 10
    · have hdigit : ∀ k < 10, 0 < k → Nat.digitChar k ≠ '0' := by decide
      rw [Nat.toDigits_of_lt_base hsmall]
      intro d hd
      cases hd
      exact hdigit n hsmall hn
    · rw [Nat.toDigits_of_base_le (by decide) (by omega)]
      obtain ⟨d, digits, hdigits⟩ :=
        List.exists_cons_of_ne_nil (Nat.toDigits_ne_nil (n := n / 10) (b := 10))
      have hhead := ih (n / 10) (by omega) (by omega)
      rw [hdigits] at hhead ⊢
      exact hhead

theorem readWholePart_toDigits (n : Nat) {rest : List Char} (hends : Ends rest) :
    readWholePart (Nat.toDigits 10 n ++ rest) = .ok (Nat.toDigits 10 n, rest) := by
  have hrest : ∀ c ∈ rest.head?, c.isDigit = false := fun c hc => (hends.not_digit hc).1
  -- zero is one digit, and nothing may follow it; any other number does not begin with a zero
  by_cases hzero : n = 0
  · subst hzero
    show readWholePart ('0' :: rest) = .ok (['0'], rest)
    unfold readWholePart
    cases rest with
    | nil => rfl
    | cons c rest =>
      have hc : c.isDigit = false := hrest c rfl
      simp only [hc, Bool.false_eq_true, if_false]
  · have hhead := head_toDigits (Nat.pos_of_ne_zero hzero)
    have hread := readDigits_eq (digits_toDigits n) hrest Nat.toDigits_ne_nil
    unfold readWholePart
    split
    · rename_i tail hleading
      obtain ⟨d, digits, hdigits⟩ :=
        List.exists_cons_of_ne_nil (Nat.toDigits_ne_nil (n := n) (b := 10))
      rw [hdigits] at hleading hhead
      exact absurd (List.cons.inj hleading).1 (hhead d rfl)
    · exact hread

/-- Digits with nothing behind them that belongs to a numeral. -/
theorem readParts_toDigits (flag : Bool) (n : Nat) {rest : List Char} (hends : Ends rest) :
    (do
      let (whole, text) ← readWholePart (Nat.toDigits 10 n ++ rest)
      let (fraction, text) ← readFraction text
      let (exponent, text) ← readExponent text
      return ((⟨flag, whole, fraction, exponent⟩ : Numeral), text))
      = Except.ok (⟨flag, Nat.toDigits 10 n, [], none⟩, rest) := by
  have hfraction : readFraction rest = .ok ([], rest) := by
    unfold readFraction
    split
    · rename_i tail
      exact absurd rfl (hends.not_digit (c := '.') rfl).2.1
    · rfl
  have hexponent : readExponent rest = .ok (none, rest) := by
    unfold readExponent
    cases rest with
    | nil => rfl
    | cons c rest =>
      obtain ⟨-, -, hlower, hupper⟩ := hends.not_digit (c := c) rfl
      simp only [hlower, hupper, or_self, if_false]
  rw [readWholePart_toDigits n hends]
  show (readFraction rest >>= _) = _
  rw [hfraction]
  show (readExponent rest >>= _) = _
  rw [hexponent]
  rfl

/-- A whole number is read as the numeral that has been written. -/
theorem readNumeral_writeInt (n : Int) {rest : List Char} (hends : Ends rest) :
    readNumeral (writeInt n ++ rest)
      = .ok (⟨decide (n < 0), Nat.toDigits 10 n.natAbs, [], none⟩, rest) := by
  -- a number without sign begins with a digit, so no minus is taken off
  cases n with
  | ofNat n =>
    have hflag : decide (Int.ofNat n < 0) = false :=
      decide_eq_false (Int.not_lt.2 (Int.natCast_nonneg n))
    rw [hflag]
    obtain ⟨d, digits, hdigits, hd⟩ := (unsigned_toDigits n).head
    have hread := readParts_toDigits false n hends
    show readNumeral (Nat.toDigits 10 n ++ rest) = _
    unfold readNumeral
    split
    rename_i hsplit
    split at hsplit
    · rename_i tail hminus
      rw [hdigits] at hminus
      obtain ⟨rfl, -⟩ : d = '-' ∧ digits ++ rest = tail := List.cons.inj hminus
      exact absurd hd (by decide)
    · cases hsplit
      exact hread
  | negSucc n =>
    have hflag : decide (Int.negSucc n < 0) = true := decide_eq_true (Int.negSucc_lt_zero n)
    rw [hflag]
    exact readParts_toDigits true (n + 1) hends

/-- The whole numbers that are kept as they are. -/
def Fits (n : Int) : Prop := -0x8000000000000000 ≤ n ∧ n < 0x10000000000000000

theorem value?_toDigits {n : Int} (hn : Fits n) :
    (⟨decide (n < 0), Nat.toDigits 10 n.natAbs, [], none⟩ : Numeral).value? = some (.int n) := by
  obtain ⟨hlow, hhigh⟩ := hn
  have hsize : UInt64.size = 0x10000000000000000 := rfl
  unfold Numeral.value?
  simp only [decimal_toDigits]
  by_cases hneg : n < 0
  · rw [if_neg (by simp [hneg]), if_pos (by simp [hneg]; omega)]
    congr 2
    omega
  · rw [if_pos (by simp [hneg]; omega)]
    congr 2
    omega

/-- **A whole number of 64 bits is read as itself.** -/
theorem readNumber_writeInt {n : Int} (hn : Fits n) {rest : List Char} (hends : Ends rest) :
    readNumber (writeInt n ++ rest) = .ok (.int n, rest) := by
  have hvalue := value?_toDigits hn
  unfold readNumber
  rw [readNumeral_writeInt n hends]
  simp only [bind, Except.bind, hvalue]
  rfl

/-! ## Entries -/

section Entries

variable {τ σ : Type} {close : Char} {entry : σ → Reader σ} {text : τ → List Char}
  {gap last : List Char} {entries : List τ} {found found' : σ}

/-- Reading an entry where it stands makes this of what has been found before. -/
def Enters (entry : σ → Reader σ) (text : τ → List Char) (e : τ) (found found' : σ) : Prop :=
  ∀ rest, Ends rest → entry found (text e ++ rest) = .ok (found', rest)

/-- Entries that are listed one by one, each as what is made of it. -/
theorem steps_mapped {α : Type} (made : τ → α) {step : τ → List α → List α → Prop}
    (h : ∀ e ∈ entries, ∀ found, step e found (found ++ [made e])) :
    Steps step entries [] (entries.map made) := by
  have hmore : ∀ (rest : List τ) (found : List α), (∀ e ∈ rest, e ∈ entries) →
      Steps step rest found (found ++ rest.map made) := by
    intro rest
    -- along the entries that are left, with what has been found before them
    induction rest with
    | nil =>
      intro found _
      rw [List.map_nil, List.append_nil]
      exact .nil
    | cons e rest ih =>
      intro found hrest
      have hsteps := ih (found ++ [made e]) fun e he => hrest e (List.mem_cons_of_mem _ he)
      rw [List.append_assoc] at hsteps
      exact .cons (h e (hrest e List.mem_cons_self) found) hsteps
  exact hmore entries [] fun _ he => he

/-- Entries that are listed as they are. -/
theorem steps_listed {step : τ → List τ → List τ → Prop}
    (h : ∀ e ∈ entries, ∀ found, step e found (found ++ [e])) : Steps step entries [] entries := by
  have hsteps := steps_mapped id h
  rwa [List.map_id] at hsteps

/-- **The entries behind the first are read, as many as there is fuel for.** -/
theorem read_followed (hclose : close = ']' ∨ close = '}')
    (hgap : ∀ c ∈ gap, isBlank c = true) (hlast : ∀ c ∈ last, isBlank c = true)
    (hsteps : Steps (Enters entry text) entries found found')
    (hhead : ∀ e ∈ entries, ∃ c rest, text e = c :: rest ∧ isBlank c = false)
    {fuel : Nat} (hfuel : entries.length < fuel) (rest : List Char) :
    readEntries close entry fuel true found
      (followed gap (entries.map text) ++ (last ++ close :: rest)) = .ok (found', rest) := by
  have hblank : isBlank close = false := by rcases hclose with rfl | rfl <;> decide
  have hcomma : ',' ≠ close := by rcases hclose with rfl | rfl <;> decide
  -- one unit of fuel for each entry, and one for the closing bracket
  induction hsteps generalizing fuel with
  | nil =>
    obtain ⟨fuel, rfl⟩ : ∃ more, fuel = more + 1 := ⟨fuel - 1, by omega⟩
    rw [List.map_nil, followed, List.nil_append, readEntries, skipBlanks_append hlast,
      skipBlanks_cons hblank]
    simp only [if_true]
  | @cons e entries found middle found' hstep _ ih =>
    obtain ⟨fuel, rfl⟩ : ∃ more, fuel = more + 1 := ⟨fuel - 1, by omega⟩
    obtain ⟨c, tail, htext, hc⟩ := hhead e List.mem_cons_self
    have hskip (more : List Char) : skipBlanks (gap ++ (text e ++ more)) = text e ++ more := by
      rw [skipBlanks_append hgap, htext, List.cons_append, skipBlanks_cons hc]
    have hless : entries.length < fuel := by
      rw [List.length_cons] at hfuel
      omega
    have hmore := ih (fun e he => hhead e (.tail _ he)) hless
    rw [List.map_cons, followed, List.cons_append, List.cons_append, List.cons_append,
      readEntries, skipBlanks_cons (show isBlank ',' = false by decide)]
    simp only [if_neg hcomma, if_true, List.append_assoc, hskip,
      hstep _ (ends_followed hclose hlast _ rest), hmore]

/-- Every entry takes at least one character. -/
theorem length_entriesText (hhead : ∀ e ∈ entries, ∃ c rest, text e = c :: rest) :
    entries.length ≤ (entriesText gap last (entries.map text)).length := by
  have hfollowed : ∀ entries : List τ, (followed gap (entries.map text)).length
      ≥ entries.length := by
    intro entries
    induction entries with
    | nil => exact Nat.zero_le _
    | cons e entries ih =>
      rw [List.map_cons, followed]
      simp only [List.length_append, List.length_cons]
      omega
  cases entries with
  | nil => exact Nat.zero_le _
  | cons e entries =>
    obtain ⟨c, tail, htext⟩ := hhead e List.mem_cons_self
    have hrest := hfollowed entries
    rw [List.map_cons, entriesText, htext]
    simp only [List.length_append, List.length_cons]
    omega

/-- **Entries are read up to the closing bracket**, with the length of the text for fuel. -/
theorem read_entries (hclose : close = ']' ∨ close = '}')
    (hgap : ∀ c ∈ gap, isBlank c = true) (hlast : ∀ c ∈ last, isBlank c = true)
    (hsteps : Steps (Enters entry text) entries found found')
    (hhead : ∀ e ∈ entries, ∃ c rest, text e = c :: rest ∧ isBlank c = false ∧ c ≠ close)
    (rest : List Char) :
    readEntries close entry ((entriesText gap last (entries.map text) ++ close :: rest).length + 1)
      false found (entriesText gap last (entries.map text) ++ close :: rest)
      = .ok (found', rest) := by
  have hblank : isBlank close = false := by rcases hclose with rfl | rfl <;> decide
  have hlength : entries.length ≤ (entriesText gap last (entries.map text)).length :=
    length_entriesText fun e he => by
      obtain ⟨c, tail, htext, -⟩ := hhead e he
      exact ⟨c, tail, htext⟩
  have hfuel : entries.length
      < (entriesText gap last (entries.map text) ++ close :: rest).length := by
    rw [List.length_append, List.length_cons]
    omega
  generalize (entriesText gap last (entries.map text) ++ close :: rest).length = fuel at hfuel
  cases hsteps with
  | nil =>
    rw [List.map_nil, entriesText, List.nil_append, readEntries, skipBlanks_cons hblank]
    simp only [if_true]
  | @cons e entries found middle found' hstep hmore =>
    obtain ⟨c, tail, htext, hc, hne⟩ := hhead e List.mem_cons_self
    have hless : entries.length < fuel := by
      rw [List.length_cons] at hfuel
      omega
    have hends : Ends (followed gap (entries.map text) ++ (last ++ close :: rest)) :=
      ends_followed hclose hlast (entries.map text) rest
    have hread := hstep _ hends
    have hmorehead : ∀ e ∈ entries, ∃ c rest, text e = c :: rest ∧ isBlank c = false :=
      fun e he => by
        obtain ⟨c, rest, htext, hblank, -⟩ := hhead e (.tail _ he)
        exact ⟨c, rest, htext, hblank⟩
    have hrest := read_followed hclose hgap hlast hmore hmorehead hless rest
    rw [htext, List.cons_append] at hread
    rw [List.map_cons, entriesText, List.append_assoc, List.append_assoc, List.append_assoc,
      readEntries, skipBlanks_append hgap, htext, List.cons_append, skipBlanks_cons hc]
    simp only [if_neg hne, Bool.false_eq_true, if_false, hread, hrest]

end Entries

/-! ## Values -/

/-- A value that nothing is lost of: no floats, no whole number beyond 64 bits, lists and objects
nested this deep at most. Its objects are as reading makes them, sorted by name, and none is an
embedded text. -/
inductive Plain : Nat → Json → Prop where
  | null {depth : Nat} : Plain depth .null
  | bool {depth : Nat} (flag : Bool) : Plain depth (.bool flag)
  | int {depth : Nat} {n : Int} (hn : Fits n) : Plain depth (.int n)
  | str {depth : Nat} (text : String) : Plain depth (.str text)
  | arr {depth : Nat} {items : List Json} (hitems : ∀ item ∈ items, Plain depth item) :
      Plain (depth + 1) (.arr items)
  | obj {depth : Nat} {members : List (String × Json)}
      (hsorted : members.Pairwise fun a b => a.1 < b.1)
      (hname : ∀ member ∈ members.head?, member.1 ≠ embeddingName)
      (hmembers : ∀ member ∈ members, Plain depth member.2) : Plain (depth + 1) (.obj members)

/-- A member whose name comes after all others is put last. -/
theorem insertMember_last {name : String} {value : Json} {members : List (String × Json)}
    (h : ∀ member ∈ members, member.1 < name) :
    insertMember name value members = members ++ [(name, value)] := by
  induction members with
  | nil => rfl
  | cons first rest ih =>
    obtain ⟨n, v⟩ := first
    have hless : n < name := h (n, v) List.mem_cons_self
    have hnot : ¬ name < n := String.lt_asymm hless
    have hne : name ≠ n := by
      rintro rfl
      exact String.lt_irrefl name hless
    rw [insertMember, if_neg hnot, if_neg hne, ih fun member hmember => h member (.tail _ hmember)]
    rfl

/-- Members that come sorted are put one after the other. -/
theorem foldl_insertMember {sorted rest : List (String × Json)}
    (hsorted : (sorted ++ rest).Pairwise fun a b => a.1 < b.1) :
    rest.foldl (fun sorted (name, value) => insertMember name value sorted) sorted
      = sorted ++ rest := by
  -- member by member, each behind all that have been put so far
  induction rest generalizing sorted with
  | nil => rw [List.foldl_nil, List.append_nil]
  | cons member rest ih =>
    obtain ⟨name, value⟩ := member
    have hbefore : ∀ before ∈ sorted, before.1 < name := fun before hbefore =>
      (List.pairwise_append.1 hsorted).2.2 before hbefore (name, value) List.mem_cons_self
    have hmore : ((sorted ++ [(name, value)]) ++ rest).Pairwise fun a b => a.1 < b.1 := by
      rw [List.append_assoc]
      exact hsorted
    rw [List.foldl_cons]
    show List.foldl _ (insertMember name value sorted) rest = _
    rw [insertMember_last hbefore, ih hmore, List.append_assoc]
    rfl

/-- An object whose members are sorted is what reading makes of them. -/
theorem ofMembers_sorted {members : List (String × Json)}
    (hsorted : members.Pairwise fun a b => a.1 < b.1) : ofMembers members = .obj members :=
  congrArg Json.obj (foldl_insertMember hsorted)

section Values

variable {style : Style} {whole : List Char → Except ReadError Json}

/-- A reader of any value, from the first character on. -/
theorem reads_of_head (hstyle : style.Airy) {depth indent : Nat} {value found : Json}
    (h : ∀ c tail rest, written style indent value = c :: tail → Ends rest →
      readValueWith (readObject whole) depth (c :: (tail ++ rest)) = .ok (found, rest)) :
    Reads (readValueWith (readObject whole) depth) (written style indent value) found := by
  intro blanks rest hblanks hends
  obtain ⟨c, tail, htext, hhead⟩ := head_written hstyle indent value
  have hread := h c tail rest htext hends
  unfold readValueWith at hread ⊢
  rwa [skipBlanks_written hstyle hblanks, htext, List.cons_append,
    ← skipBlanks_cons hhead.not_blank.1 (tail ++ rest)]

/-- Items are read one by one, each as what is made of it. -/
theorem read_items {α : Type} (hstyle : style.Airy) {reader : Reader Json} {depth : Nat}
    {items : List α} {value found : α → Json}
    (hitems : ∀ item ∈ items,
      Reads reader (written style (depth + 1) (value item)) (found item)) (rest : List Char) :
    readItems reader (entriesText (style.gap (depth + 1)) (style.gap depth)
      ((items.map value).map (written style (depth + 1))) ++ ']' :: rest)
      = .ok (items.map found, rest) := by
  have hheads : ∀ item ∈ items, ∃ c rest, written style (depth + 1) (value item) = c :: rest
      ∧ isBlank c = false ∧ c ≠ ']' := by
    intro item _
    obtain ⟨c, tail, htext, hhead⟩ := head_written hstyle (depth + 1) (value item)
    exact ⟨c, tail, htext, hhead.not_blank.1, hhead.not_blank.2.1⟩
  unfold readItems
  rw [List.map_map]
  refine read_entries (.inl rfl) (hstyle.gap _) (hstyle.gap _) (steps_mapped found ?_) hheads rest
  intro item hitem before rest hends
  have hread : reader (written style (depth + 1) (value item) ++ rest) = .ok (found item, rest) :=
    hitems item hitem [] rest nofun hends
  simp only [hread]

/-- Members are read one by one, each under its name. -/
theorem read_members (hstyle : style.Airy) {reader : Reader Json} {depth : Nat}
    {members : List (String × Json)}
    (hmembers : ∀ member ∈ members, Reads reader (written style (depth + 1) member.2) member.2)
    (rest : List Char) :
    readMembers reader (entriesText (style.gap (depth + 1)) (style.gap depth)
      (members.map (writtenMember style (depth + 1))) ++ '}' :: rest) = .ok (members, rest) := by
  obtain ⟨blanks, hcolon, hblanks⟩ := hstyle.colon
  unfold readMembers
  refine read_entries (.inr rfl) (hstyle.gap _) (hstyle.gap _) (steps_listed ?_)
    (fun member _ => head_writtenMember (depth + 1) member) rest
  intro member hmember found rest hends
  have hname := readName_written hcolon member.1 (written style (depth + 1) member.2 ++ rest)
  have hread := hmembers member hmember blanks rest hblanks hends
  simp only [writtenMember, List.append_assoc, hname]
  show (reader _ >>= _) = _
  rw [hread]
  rfl

/-- An object that is no embedded text is made of its members. -/
theorem readObject_of_members {value : Reader Json} {text rest : List Char}
    {members : List (String × Json)} (hplain : afterEmbeddingName? text = none)
    (hread : readMembers value text = .ok (members, rest)) :
    readObject whole value text = .ok (ofMembers members, rest) := by
  unfold readObject
  rw [hplain]
  show (readMembers value text >>= _) = _
  rw [hread]
  rfl

/-- No object of this form is an embedded text. -/
theorem afterEmbeddingName?_entries (hstyle : style.Airy) {depth : Nat}
    {members : List (String × Json)}
    (hname : ∀ member ∈ members.head?, member.1 ≠ embeddingName) (rest : List Char) :
    afterEmbeddingName? (entriesText (style.gap (depth + 1)) (style.gap depth)
      (members.map (writtenMember style (depth + 1))) ++ '}' :: rest) = none := by
  unfold afterEmbeddingName?
  cases members with
  | nil => rfl
  | cons member members =>
    have hne : member.1 ≠ embeddingName := hname member rfl
    rw [List.map_cons, entriesText, writtenMember, bytes_writeText]
    simp only [List.append_assoc, List.cons_append, List.nil_append]
    rw [skipBlanks_append (hstyle.gap _), skipBlanks_cons (by decide)]
    simp only [readText_written, if_neg hne]

/-- **A plain value is read as it has been written.** -/
theorem reads_value (hstyle : style.Airy) {depth : Nat} {value : Json} (h : Plain depth value)
    (indent : Nat) :
    Reads (readValueWith (readObject whole) depth) (written style indent value) value := by
  -- over why the value is plain; each value is one deeper than what is in it
  induction h generalizing indent with
  | @null depth =>
    refine reads_of_head hstyle fun c tail rest htext _ => ?_
    obtain ⟨rfl, rfl⟩ := List.cons.inj htext
    cases depth <;> rfl
  | @bool depth flag =>
    refine reads_of_head hstyle fun c tail rest htext _ => ?_
    cases flag with
    | true =>
      obtain ⟨rfl, rfl⟩ := List.cons.inj htext
      cases depth <;> rfl
    | false =>
      obtain ⟨rfl, rfl⟩ := List.cons.inj htext
      cases depth <;> rfl
  | @int depth n hn =>
    refine reads_of_head hstyle fun c tail rest htext hends => ?_
    have hsigned := signed_writeInt n
    obtain ⟨d, digits, hdigits, hd⟩ := hsigned.head
    rw [written, write, hsigned.bytes_eq, hdigits] at htext
    obtain ⟨rfl, rfl⟩ := List.cons.inj htext
    rw [readValueWith_number _ _ hd, ← List.cons_append, ← hdigits]
    exact readNumber_writeInt hn hends
  | @str depth text =>
    refine reads_of_head hstyle fun c tail rest htext _ => ?_
    rw [written, write, bytes_writeText] at htext
    obtain ⟨rfl, rfl⟩ := List.cons.inj htext
    rw [List.append_assoc, List.cons_append, List.nil_append, readValueWith_str, readText_written]
    rfl
  | @arr depth items _ ih =>
    refine reads_of_head hstyle fun c tail rest htext _ => ?_
    rw [written_arr hstyle] at htext
    obtain ⟨rfl, rfl⟩ := List.cons.inj htext
    rw [List.append_assoc, readValueWith_arr]
    have hitems : ∀ item ∈ items,
        Reads (readValueWith (readObject whole) depth) (written style (indent + 1) (id item))
          (id item) := fun item hitem => ih item hitem (indent + 1)
    have hread := read_items hstyle hitems rest
    rw [List.map_id] at hread
    exact congrArg (· >>= fun found => pure (Json.arr found.1, found.2)) hread
  | @obj depth members hsorted hname _ ih =>
    refine reads_of_head hstyle fun c tail rest htext _ => ?_
    rw [written_obj hstyle] at htext
    obtain ⟨rfl, rfl⟩ := List.cons.inj htext
    rw [List.append_assoc, readValueWith_obj]
    have hread := read_members hstyle (fun member hmember => ih member hmember (indent + 1)) rest
    have hplain := @afterEmbeddingName?_entries _ hstyle indent _ hname rest
    rw [← ofMembers_sorted hsorted]
    exact readObject_of_members hplain hread

end Values

end TenantConsole.Json
