import TenantConsole.Proofs.PlainValues
import TenantConsole.Record.Format

/-!
# Plain records are read as they were written

A format reads what has been written of a value, in whichever layout, and makes this of it
(`ReadsAs`). A record is read member by member: a declared member is read by the format of its slot,
any other one is passed over, and the slots are filled from what has been found (`readsAs_record`).
On a text that holds nothing else, that is what reading answers (`finish_written`), so a record
whose texts, numbers and free-form values are plain comes back from its page.
-/

namespace TenantConsole

namespace Json

section Texts

variable {style : Style} {blanks tail : List Char} {value : Json} {c : Char}

/-- The compact layout puts nothing between tokens at all. -/
theorem compact_airy : Style.compact.Airy where
  gap _ := nofun
  colon := ⟨[], rfl, nofun⟩

/-- The bytes of a text are those that the reader is shown. -/
theorem bytesOf_compact (value : Json) : bytesOf value.compact = written .compact 0 value := by
  unfold bytesOf compact
  rw [String.toList_ofList]
  rfl

theorem bytesOf_indented (value : Json) : bytesOf value.indented = written .indented 0 value := by
  unfold bytesOf indented
  rw [String.toList_ofList]
  rfl

/-- The first character of a written value is found behind blanks. -/
theorem skipBlanks_to_head (hstyle : style.Airy) (hblanks : ∀ c ∈ blanks, isBlank c = true)
    {indent : Nat} (htext : written style indent value = c :: tail) (rest : List Char) :
    skipBlanks (blanks ++ (written style indent value ++ rest)) = c :: (tail ++ rest) := by
  rw [skipBlanks_written hstyle hblanks, htext, List.cons_append]

/-- A written text, quotes and all. -/
theorem written_str (indent : Nat) (text : String) :
    written style indent (.str text)
      = '"' :: (bytes (text.toList.flatMap escape) ++ ['"']) := by
  rw [written, write, bytes_writeText]

/-- A text is found behind blanks, quote first. -/
theorem skipBlanks_to_str (hstyle : style.Airy) (hblanks : ∀ c ∈ blanks, isBlank c = true)
    (indent : Nat) (text : String) (rest : List Char) :
    skipBlanks (blanks ++ (written style indent (.str text) ++ rest))
      = '"' :: (bytes (text.toList.flatMap escape) ++ '"' :: rest) := by
  rw [skipBlanks_to_head hstyle hblanks (written_str indent text), List.append_assoc]
  rfl

theorem written_int (n : Int) (indent : Nat) : written style indent (.int n) = writeInt n := by
  rw [written, write, (signed_writeInt n).bytes_eq]

theorem skipBlanks_to_int (hstyle : style.Airy) (hblanks : ∀ c ∈ blanks, isBlank c = true)
    (indent : Nat) (n : Int) (rest : List Char) :
    skipBlanks (blanks ++ (written style indent (.int n) ++ rest)) = writeInt n ++ rest := by
  rw [skipBlanks_written hstyle hblanks, written_int]

end Texts

theorem Steps.imp {τ σ : Type} {step step' : τ → σ → σ → Prop} {entries : List τ} {found last : σ}
    (h : ∀ {entry found middle}, step entry found middle → step' entry found middle)
    (hsteps : Steps step entries found last) : Steps step' entries found last := by
  induction hsteps with
  | nil => exact .nil
  | cons hstep _ ih => exact .cons (h hstep) ih

/-! ## Passing over -/

section Skips

variable {text found rest : List Char}

/-- An escape by a number is passed over if its digits are some. -/
theorem skipQuoted_unit {a b c d : Char} {unit : Nat} (hunit : codeUnit? a b c d = some unit) :
    skipQuoted ('\\' :: 'u' :: a :: b :: c :: d :: text) = skipQuoted text := by
  rw [skipQuoted.eq_def]
  simp [hunit]

theorem skipQuoted_letter {letter c : Char} (hletter : letter ≠ 'u')
    (hnames : unescape? letter = some c) :
    skipQuoted ('\\' :: letter :: text) = skipQuoted text := by
  rw [skipQuoted.eq_def]
  simp [hletter, hnames]

theorem skipQuoted_plain {c : Char} (hquote : c ≠ '"') (hslash : c ≠ '\\')
    (hprintable : ¬ c.toNat < 32) : skipQuoted (c :: text) = skipQuoted text := by
  rw [skipQuoted.eq_def]
  simp only [if_neg hquote, if_neg hslash, if_neg hprintable]

/-- What is pushed makes no difference to where reading stops. -/
theorem ok_of_push {bytes : List Char} {read : Except Stop (List Char × List Char)}
    (h : push bytes read = .ok (found, rest)) : ∃ found, read = .ok (found, rest) := by
  cases read with
  | error stop => cases h
  | ok read =>
    cases h
    exact ⟨_, rfl⟩

/-- A text that can be read ends here, or its first piece is passed over and the rest is read. -/
theorem readQuoted_cases (h : readQuoted text = .ok (found, rest)) :
    text = '"' :: rest ∨ ∃ later found', later.length < text.length ∧
      readQuoted later = .ok (found', rest) ∧ skipQuoted text = skipQuoted later := by
  rw [readQuoted.eq_def] at h
  repeat' split at h
  -- what is refused is no case of this; five cases are left
  all_goals first
    | (cases h; done)
    | skip
  · rename_i hquote
    cases h
    exact .inl (by rw [hquote])
  · -- a pair of surrogates is passed over one by one
    obtain ⟨found, hrest⟩ := ok_of_push h
    have hmark := Decidable.not_not.1 ‹¬ _ ≠ '\\'›
    have hunit := Decidable.not_not.1 ‹¬ _ ≠ 'u'›
    subst_vars
    refine .inr ⟨_, found, ?_, hrest, ?_⟩
    · simp only [List.length_cons]
      omega
    · rw [skipQuoted_unit (by assumption), skipQuoted_unit (by assumption)]
  · obtain ⟨found, hrest⟩ := ok_of_push h
    subst_vars
    refine .inr ⟨_, found, ?_, hrest, skipQuoted_unit (by assumption)⟩
    simp only [List.length_cons]
    omega
  · obtain ⟨found, hrest⟩ := ok_of_push h
    subst_vars
    refine .inr ⟨_, found, ?_, hrest, skipQuoted_letter (by assumption) (by assumption)⟩
    simp only [List.length_cons]
    omega
  · obtain ⟨found, hrest⟩ := ok_of_push h
    exact .inr ⟨_, found, Nat.lt_succ_self _, hrest,
      skipQuoted_plain (by assumption) (by assumption) (by assumption)⟩

/-- **A text that can be read can be passed over.** -/
theorem skipQuoted_of_readQuoted (h : readQuoted text = .ok (found, rest)) :
    skipQuoted text = .ok rest := by
  -- on the length of the text: reading takes off a piece at a time, of one character or more
  induction hlength : text.length using Nat.strongRecOn generalizing text found with
  | ind length ih =>
    obtain rfl | ⟨later, found, hless, hread, hskip⟩ := readQuoted_cases h
    · rw [skipQuoted.eq_def]
      rfl
    · rw [hskip]
      exact ih later.length (hlength ▸ hless) hread rfl

/-- A text that was written can be passed over, since it can be read. -/
theorem skipQuoted_written (text : String) (rest : List Char) :
    skipQuoted (bytes (text.toList.flatMap escape) ++ '"' :: rest) = .ok rest :=
  skipQuoted_of_readQuoted (readQuoted_written text.toList rest)

/-- A value is passed over, wherever it stands. -/
def Skips (value : Json) : Prop :=
  ∀ style : Style, style.Airy → ∀ indent blanks rest, (∀ c ∈ blanks, isBlank c = true) →
    Ends rest → skipValue (blanks ++ (written style indent value ++ rest)) = .ok rest

theorem skips_str (text : String) : Skips (.str text) := by
  intro style hstyle indent blanks rest hblanks _
  unfold skipValue skipAny
  rw [skipBlanks_to_str hstyle hblanks]
  exact skipQuoted_written text rest

theorem skips_int (n : Int) : Skips (.int n) := by
  intro style hstyle indent blanks rest hblanks hends
  obtain ⟨c, digits, hdigits, hc⟩ := (signed_writeInt n).head
  have hnumeral := readNumeral_writeInt n hends
  -- the first character is no mark, so the number is told by it
  have hn : c ≠ 'n' := ne_of_number hc (by decide)
  have ht : c ≠ 't' := ne_of_number hc (by decide)
  have hf : c ≠ 'f' := ne_of_number hc (by decide)
  have hquote : c ≠ '"' := ne_of_number hc (by decide)
  unfold skipValue skipAny
  rw [skipBlanks_to_int hstyle hblanks]
  rw [hdigits, List.cons_append] at hnumeral ⊢
  simp only [hn, ht, hf, hquote, hc, if_false, if_true]
  -- its numeral is read, and what it stands for is not asked
  unfold skipNumber
  rw [hnumeral]

end Skips

end Json

namespace Format

open Json

/-! ## Formats -/

/-- In whichever layout the value has been written, the format makes this of it. -/
def ReadsAs (format : Format Json) (depth : Nat) (value found : Json) : Prop :=
  ∀ style : Style, style.Airy → ∀ indent,
    Reads (format.read depth) (written style indent value) found

section Formats

variable {depth : Nat} {value found : Json}

/-- A plain value of any kind reads as itself. -/
theorem readsAs_any (h : Plain depth value) : any.ReadsAs depth value value := by
  intro style hstyle indent blanks rest hblanks hends
  exact reads_value hstyle h indent blanks rest hblanks hends

/-- A text reads as itself, between any quotes that may be in it. -/
theorem readsAs_text (depth : Nat) (content : String) :
    text.ReadsAs depth (.str content) (.str content) := by
  intro style hstyle indent blanks rest hblanks _
  simp only [text, skipBlanks_to_str hstyle hblanks, readText_written]
  rfl

/-- A flag is one of two words. -/
theorem readsAs_flag (depth : Nat) (up : Bool) : flag.ReadsAs depth (.bool up) (.bool up) := by
  intro style hstyle indent blanks rest hblanks _
  cases up with
  | true =>
    have htext : written style indent (.bool true) = 't' :: ['r', 'u', 'e'] := rfl
    simp only [flag, skipBlanks_to_head hstyle hblanks htext]
    rfl
  | false =>
    have htext : written style indent (.bool false) = 'f' :: ['a', 'l', 's', 'e'] := rfl
    simp only [flag, skipBlanks_to_head hstyle hblanks htext]
    rfl

/-- A number of 64 bits with a sign is within what can be read exactly. -/
theorem fits_of_isInt64 {n : Int} (hn : isInt64 n = true) : Fits n := by
  unfold isInt64 at hn
  simp only [Bool.and_eq_true, decide_eq_true_eq] at hn
  unfold Fits
  omega

/-- A number of 64 bits with a sign reads as itself. -/
theorem readsAs_int64 (depth : Nat) {n : Int} (hn : isInt64 n = true) :
    int64.ReadsAs depth (.int n) (.int n) := by
  intro style hstyle indent blanks rest hblanks hends
  obtain ⟨c, digits, hdigits, hc⟩ := (signed_writeInt n).head
  have hread := readNumber_writeInt (fits_of_isInt64 hn) hends
  simp only [int64, skipBlanks_to_int hstyle hblanks]
  rw [hdigits, List.cons_append] at hread ⊢
  simp only [hc, if_true, hread, hn]

theorem readsAs_oneOf (depth : Nat) {known : List String} {name : String} (hname : name ∈ known) :
    (oneOf known).ReadsAs depth (.str name) (.str name) := by
  intro style hstyle indent blanks rest hblanks _
  simp only [oneOf, skipBlanks_to_str hstyle hblanks, readText_written]
  exact if_pos hname

/-- A list reads as the list of what its items read as. -/
theorem readsAs_list {α : Type} {item : Format Json} {items : List α} {value found : α → Json}
    (hitems : ∀ a ∈ items, item.ReadsAs depth (value a) (found a)) :
    item.list.ReadsAs (depth + 1) (.arr (items.map value)) (.arr (items.map found)) := by
  intro style hstyle indent blanks rest hblanks _
  -- the items one level further in, each as what its format makes of it
  have hread := read_items hstyle (fun a ha => hitems a ha style hstyle (indent + 1)) rest
  simp only [list, skipBlanks_to_head hstyle hblanks (written_arr hstyle indent (items.map value)),
    List.append_assoc]
  exact congrArg (Except.map fun found => (Json.arr found.1, found.2)) hread

theorem readsAs_nullable {format : Format Json} (hvalue : value ≠ .null)
    (h : format.ReadsAs depth value found) : format.nullable.ReadsAs depth value found := by
  intro style hstyle indent blanks rest hblanks hends
  obtain ⟨c, tail, htext, hhead⟩ := head_written hstyle indent value
  -- only the word for nothing begins with this letter
  have hc : c ≠ 'n' := by
    rintro rfl
    cases hhead with
    | null => exact hvalue rfl
    | number hc => exact absurd hc (by decide)
  have hread := h style hstyle indent [] rest nofun hends
  rw [List.nil_append, htext, List.cons_append] at hread
  simp only [nullable, skipBlanks_to_head hstyle hblanks htext]
  split
  · rename_i hn
    exact absurd (List.cons.inj hn).1 hc
  · exact hread

end Formats

/-! ## Records -/

section Records

variable {slots : List Slot} {depth : Nat} {found found' : List (String × Json)}

/-- What reading a member adds to the members before it: a declared one comes with what its format
makes of it, any other one is passed over. -/
inductive Adds (slots : List Slot) (depth : Nat) (member : String × Json)
    (found : List (String × Json)) : List (String × Json) → Prop where
  | declared {slot : Slot} {value : Json} (hslot : findSlot? slots member.1 = some slot)
      (hnew : found? found member.1 = none) (hreads : slot.format.ReadsAs depth member.2 value) :
      Adds slots depth member found (found ++ [(member.1, value)])
  | undeclared (hslot : findSlot? slots member.1 = none) (hskips : Skips member.2) :
      Adds slots depth member found found

/-- Reading a member does what is said of it: its name is read first, and that decides how the value
is taken. -/
theorem enters_member {style : Style} (hstyle : style.Airy) {member : String × Json}
    (h : Adds slots depth member found found') (indent : Nat) :
    Enters (readMember slots depth) (writtenMember style indent) member found found' := by
  obtain ⟨blanks, hcolon, hblanks⟩ := hstyle.colon
  intro rest hends
  have hafter (text : List Char) : readColon (style.colon ++ text) = .ok (blanks ++ text) := by
    rw [hcolon]
    rfl
  rw [writtenMember, bytes_writeText]
  simp only [List.cons_append, List.append_assoc, List.nil_append, readMember, readText_written,
    bind, Except.bind, hafter]
  -- the name has been read; the value is left, behind its colon
  cases h with
  | @declared slot value hslot hnew hreads =>
    have hread := hreads style hstyle indent blanks rest hblanks hends
    simp only [hslot, hnew, hread]
    rfl
  | undeclared hslot hskips =>
    have hskip := hskips style hstyle indent blanks rest hblanks hends
    simp only [hslot, hskip]
    rfl

/-- **A record is read member by member, and its slots are filled from what has been found.** -/
theorem readsAs_record {kind : String} {members : List (String × Json)} {values : List Json}
    (hsteps : Steps (Adds slots depth) members [] found) (hfill : fill found slots = .ok values) :
    (record kind slots).ReadsAs (depth + 1) (.obj members) (.arr values) := by
  intro style hstyle indent blanks rest hblanks _
  -- each member is an entry, and what is in front of it has been read
  have henters : Steps (Enters (readMember slots depth) (writtenMember style (indent + 1))) members
      [] found := hsteps.imp fun hstep => enters_member hstyle hstep (indent + 1)
  have hread := read_entries (.inr rfl) (hstyle.gap (indent + 1)) (hstyle.gap indent) henters
    (fun member _ => head_writtenMember (indent + 1) member) rest
  simp only [record, skipBlanks_to_head hstyle hblanks (written_obj hstyle indent members),
    List.append_assoc, List.cons_append, List.nil_append]
  show (readEntries _ _ _ _ _ _ >>= _) = _
  rw [hread]
  simp only [bind, Except.bind, hfill]
  rfl

end Records

/-! ## Whole texts -/

/-- **What the format makes of a value is what it reads from a text that holds the value alone.** -/
theorem finish_written {format : Format Json} {value found : Json}
    (h : format.ReadsAs depthLimit value found) {style : Style} (hstyle : style.Airy) :
    finish (format.read depthLimit (written style 0 value)) = .ok found := by
  have hread := h style hstyle 0 [] [] nofun nofun
  rw [List.nil_append, List.append_nil] at hread
  rw [hread]
  rfl

/-- What is made of the value afterwards does not change how the text is read. -/
theorem finish_map {α β : Type} (f : α → β) (format : Format α) (text : List Char) :
    finish ((format.map f).read depthLimit text)
      = (finish (format.read depthLimit text)).map f := by
  unfold Format.map
  cases hread : format.read depthLimit text with
  | error error => simp only [hread]; rfl
  | ok front =>
    -- whether something stands behind the value is asked of the text, not of what is made of it
    obtain ⟨value, rest⟩ := front
    simp only [hread, Except.map, finish]
    split <;> rfl

end Format

end TenantConsole
