import TenantConsole.Json.Parser
import TenantConsole.Proofs.Scripts
import TenantConsole.Proofs.WrittenText

/-!
# Values, written and read again

Reading stops exactly where writing has stopped: whatever a reader takes off the front of a text
that has been written, it takes all of it and nothing of what follows (`Takes`). It may still refuse
the text, since numbers can be beyond every float and values can be nested too deep.

* **numbers**: a numeral reads up to the first character that cannot belong to it;
* **lists and objects**: the entries are taken one by one, each with the comma before it;
* **`spans_value`**: any value, by induction over it.
-/

namespace TenantConsole.Json

/-! ## Taking a text -/

/-- What can follow a value. -/
def Ends (rest : List Char) : Prop :=
  ∀ c ∈ rest.head?, c = ',' ∨ c = ']' ∨ c = '}' ∨ isBlank c = true

/-- What the reader takes off the text, if anything, is all of it, and has a property. -/
def Takes {α : Type} (read : Reader α) (text : List Char) (post : α → Prop) : Prop :=
  ∀ rest value rest', Ends rest → read (text ++ rest) = .ok (value, rest') →
    rest' = rest ∧ post value

/-- What can follow a value cannot belong to a number: no digit, no point, no exponent. -/
theorem Ends.not_digit {rest : List Char} (h : Ends rest) {c : Char} (hc : c ∈ rest.head?) :
    c.isDigit = false ∧ c ≠ '.' ∧ c ≠ 'e' ∧ c ≠ 'E' := by
  have hblank : isBlank c = true → c = ' ' ∨ c = '\n' ∨ c = '\t' ∨ c = '\r' := by
    simp [isBlank, or_assoc]
  rcases h c hc with rfl | rfl | rfl | hc
  · decide
  · decide
  · decide
  · rcases hblank hc with rfl | rfl | rfl | rfl <;> decide

/-! ## Numbers -/

/-- Nothing but decimal digits. -/
def Digits (text : List Char) : Prop := ∀ d ∈ text, d.isDigit = true

/-- What stands in a numeral after its whole part. -/
def fractionText (fraction : Option (List Char)) : List Char := fraction.elim [] ('.' :: ·)

/-- What stands behind the fraction. Only the small letter is ever written. -/
def exponentText (exponent : Option (Char × List Char)) : List Char :=
  exponent.elim [] fun signed => 'e' :: signed.1 :: signed.2

@[simp] theorem fractionText_none : fractionText none = [] := rfl

@[simp] theorem fractionText_some (digits : List Char) :
    fractionText (some digits) = '.' :: digits := rfl

@[simp] theorem exponentText_none : exponentText none = [] := rfl

@[simp] theorem exponentText_some (sign : Char) (digits : List Char) :
    exponentText (some (sign, digits)) = 'e' :: sign :: digits := rfl

/-- A numeral without a sign. -/
inductive Unsigned : List Char → Prop where
  | parts {whole : List Char} (fraction : Option (List Char))
      (exponent : Option (Char × List Char)) (hsome : whole ≠ [])
      (hwhole : Digits whole) (hfraction : ∀ digits ∈ fraction, Digits digits)
      (hsign : ∀ signed ∈ exponent, signed.1 = '+' ∨ signed.1 = '-')
      (hexponent : ∀ signed ∈ exponent, Digits signed.2) :
      Unsigned (whole ++ (fractionText fraction ++ exponentText exponent))

/-- Digits are read up to the first character that is none, if there are any. -/
theorem readDigits_eq {digits rest : List Char} (hdigits : Digits digits)
    (hrest : ∀ c ∈ rest.head?, c.isDigit = false) (hsome : digits ≠ []) :
    readDigits (digits ++ rest) = .ok (digits, rest) := by
  have hspan : spanDigits (digits ++ rest) = (digits, rest) := by
    unfold spanDigits
    rw [List.takeWhile_append_of_pos hdigits, List.dropWhile_append_of_pos hdigits]
    -- the digits are all taken; what is left over begins with something else, or is empty
    cases rest with
    | nil => simp
    | cons c rest =>
      have hc : c.isDigit = false := hrest c rfl
      simp [hc]
  unfold readDigits
  rw [hspan]
  cases digits with
  | nil => exact absurd rfl hsome
  | cons d digits => rfl

theorem readDigits_nil {rest : List Char} (hrest : ∀ c ∈ rest.head?, c.isDigit = false) :
    ∃ error, readDigits rest = .error error := by
  cases rest with
  | nil => exact ⟨_, rfl⟩
  | cons c rest =>
    have hc : c.isDigit = false := hrest c rfl
    refine ⟨.malformed, ?_⟩
    simp [readDigits, spanDigits, hc]

/-- Digits are taken up to the first character that is none. -/
theorem rest_of_readDigits {digits rest found rest' : List Char}
    (hdigits : Digits digits) (hrest : ∀ c ∈ rest.head?, c.isDigit = false)
    (h : readDigits (digits ++ rest) = .ok (found, rest')) : rest' = rest := by
  cases digits with
  | nil =>
    obtain ⟨error, herror⟩ := readDigits_nil hrest
    rw [List.nil_append, herror] at h
    cases h
  | cons d digits =>
    rw [readDigits_eq hdigits hrest (List.cons_ne_nil d digits)] at h
    cases h
    rfl

/-- The whole part is taken up to the first character that is no digit. -/
theorem rest_of_readWholePart {digits rest found rest' : List Char}
    (hdigits : Digits digits) (hrest : ∀ c ∈ rest.head?, c.isDigit = false)
    (h : readWholePart (digits ++ rest) = .ok (found, rest')) : rest' = rest := by
  unfold readWholePart at h
  split at h
  · -- a leading zero stands alone, a digit behind it is refused
    rename_i tail hzero
    cases digits with
    | nil =>
      rw [List.nil_append] at hzero
      exact absurd (hrest '0' (by simp [hzero])) (by decide)
    | cons d digits =>
      obtain ⟨-, htail⟩ : d = '0' ∧ digits ++ rest = tail := List.cons.inj hzero
      rw [← htail] at h
      -- behind the zero: the text goes on with something else, or the reader refuses
      cases digits with
      | nil =>
        rw [List.nil_append] at h
        cases rest with
        | nil => cases h; rfl
        | cons c rest =>
          have hc : c.isDigit = false := hrest c rfl
          simp only [hc, Bool.false_eq_true, if_false] at h
          cases h
          rfl
      | cons e digits =>
        have he : e.isDigit = true := hdigits e (by simp)
        simp only [List.cons_append, he, if_true] at h
        cases h
  · exact rest_of_readDigits hdigits hrest h

/-- The fraction is taken whole, or there is none and nothing is taken. -/
theorem rest_of_readFraction {fraction : Option (List Char)} {rest found rest' : List Char}
    (hdigits : ∀ digits ∈ fraction, Digits digits)
    (hrest : ∀ c ∈ rest.head?, c.isDigit = false ∧ c ≠ '.')
    (h : readFraction (fractionText fraction ++ rest) = .ok (found, rest')) :
    rest' = rest := by
  unfold readFraction at h
  cases fraction with
  | none =>
    rw [fractionText_none, List.nil_append] at h
    -- a point behind a numeral without a fraction would be part of what follows, which has none
    split at h
    · rename_i tail
      exact absurd rfl (hrest '.' rfl).2
    · cases h; rfl
  | some digits =>
    rw [fractionText_some, List.cons_append] at h
    exact rest_of_readDigits (hdigits digits rfl) (fun c hc => (hrest c hc).1) h

/-- The exponent is taken whole, or there is none and nothing is taken. -/
theorem rest_of_readExponent {exponent : Option (Char × List Char)} {rest rest' : List Char}
    {found : Option (Bool × List Char)}
    (hsign : ∀ signed ∈ exponent, signed.1 = '+' ∨ signed.1 = '-')
    (hdigits : ∀ signed ∈ exponent, Digits signed.2)
    (hrest : ∀ c ∈ rest.head?, c.isDigit = false ∧ c ≠ 'e' ∧ c ≠ 'E')
    (h : readExponent (exponentText exponent ++ rest) = .ok (found, rest')) : rest' = rest := by
  unfold readExponent at h
  cases exponent with
  | none =>
    rw [exponentText_none, List.nil_append] at h
    cases rest with
    | nil => cases h; rfl
    | cons c rest =>
      obtain ⟨-, hlower, hupper⟩ := hrest c rfl
      simp only [hlower, hupper, or_self, if_false] at h
      cases h
      rfl
  | some signed =>
    obtain ⟨sign, digits⟩ := signed
    -- whichever sign was read, the digits behind it are taken
    have hdone {flag : Bool} (h : (readDigits (digits ++ rest) >>= fun read =>
        pure (some (flag, read.1), read.2)) = Except.ok (found, rest')) : rest' = rest := by
      obtain ⟨⟨read, left⟩, hread, hreturn⟩ := bind_eq_ok.1 h
      cases hreturn
      exact rest_of_readDigits (hdigits _ rfl) (fun c hc => (hrest c hc).1) hread
    rw [exponentText_some,
      List.cons_append, List.cons_append] at h
    simp only [true_or, if_true] at h
    rcases hsign _ rfl with rfl | rfl
    · exact hdone h
    · exact hdone h

/-- The parts of a numeral are taken one after the other, up to the first character that cannot
belong to the next. -/
theorem Unsigned.rest {text rest rest' : List Char} {flag : Bool} {numeral : Numeral}
    (h : Unsigned text) (hends : Ends rest)
    (hread : (do
      let (whole, text) ← readWholePart (text ++ rest)
      let (fraction, text) ← readFraction text
      let (exponent, text) ← readExponent text
      return ((⟨flag, whole, fraction, exponent⟩ : Numeral), text)) = Except.ok (numeral, rest')) :
    rest' = rest := by
  obtain ⟨fraction, exponent, hsome, hwhole, hfraction, hsign, hexponent⟩ := h
  -- no part begins with a character that could belong to the part before it
  have hlast : ∀ c ∈ (exponentText exponent ++ rest).head?, c.isDigit = false ∧ c ≠ '.' := by
    intro c hc
    cases exponent with
    | none => exact ⟨(hends.not_digit hc).1, (hends.not_digit hc).2.1⟩
    | some signed => cases hc; decide
  have hmiddle : ∀ c ∈ (fractionText fraction ++ (exponentText exponent ++ rest)).head?,
      c.isDigit = false := by
    intro c hc
    cases fraction with
    | none => exact (hlast c hc).1
    | some digits => cases hc; decide
  -- so each part is taken up to the beginning of the next
  rw [List.append_assoc, List.append_assoc] at hread
  obtain ⟨⟨_, text⟩, hpart, hread⟩ := bind_eq_ok.1 hread
  cases rest_of_readWholePart hwhole hmiddle hpart
  obtain ⟨⟨_, text⟩, hpart, hread⟩ := bind_eq_ok.1 hread
  cases rest_of_readFraction hfraction hlast hpart
  obtain ⟨⟨_, text⟩, hpart, hread⟩ := bind_eq_ok.1 hread
  cases rest_of_readExponent hsign hexponent
    (fun c hc => ⟨(hends.not_digit hc).1, (hends.not_digit hc).2.2⟩) hpart
  cases hread
  rfl

/-- A numeral begins with a digit. -/
theorem Unsigned.head {text : List Char} (h : Unsigned text) :
    ∃ d digits, text = d :: digits ∧ d.isDigit = true := by
  obtain ⟨fraction, exponent, hsome, hwhole, -, -, -⟩ := h
  obtain ⟨d, digits, rfl⟩ := List.exists_cons_of_ne_nil hsome
  exact ⟨d, _, rfl, hwhole d List.mem_cons_self⟩

/-- **A numeral ends where its text ends.** -/
theorem Unsigned.takes {text : List Char} (h : Unsigned text) :
    Takes readNumber text (fun _ => True) ∧ Takes readNumber ('-' :: text) fun _ => True := by
  -- the value of a numeral can be refused, but then nothing is read at all
  have hnumber {text : List Char} (htakes : Takes readNumeral text fun _ => True) :
      Takes readNumber text fun _ => True := by
    intro rest value rest' hends hread
    unfold readNumber at hread
    obtain ⟨⟨numeral, text'⟩, hnumeral, hvalue⟩ := bind_eq_ok.1 hread
    obtain ⟨rfl, -⟩ := htakes rest numeral text' hends hnumeral
    simp only at hvalue
    split at hvalue
    · cases hvalue; exact ⟨rfl, trivial⟩
    · cases hvalue
  constructor
  · refine hnumber fun rest value rest' hends hread => ⟨?_, trivial⟩
    unfold readNumeral at hread
    split at hread
    rename_i hsplit
    split at hsplit
    · rename_i tail hminus
      -- a digit comes first, and no sign
      obtain ⟨d, digits, rfl, hd⟩ := h.head
      obtain ⟨rfl, -⟩ : d = '-' ∧ digits ++ rest = tail := List.cons.inj hminus
      exact absurd hd (by decide)
    · cases hsplit
      exact h.rest hends hread
  · -- the sign is dropped, and then it is the same
    refine hnumber fun rest value rest' hends hread => ⟨?_, trivial⟩
    unfold readNumeral at hread
    exact h.rest hends hread

/-! ### Numbers that have been written -/

/-- The digits of a number in base ten are what they are called. -/
theorem digits_toDigits (n : Nat) : Digits (Nat.toDigits 10 n) :=
  fun _ => Nat.isDigit_of_mem_toDigits (by decide) (by decide)

theorem digits_zeros (n : Nat) : Digits (List.replicate n '0') := by
  intro d hd
  rw [List.eq_of_mem_replicate hd]
  decide

theorem Digits.append {left right : List Char} (hleft : Digits left) (hright : Digits right) :
    Digits (left ++ right) :=
  List.forall_mem_append.2 ⟨hleft, hright⟩

theorem Digits.take {digits : List Char} (h : Digits digits) (n : Nat) : Digits (digits.take n) :=
  fun d hd => h d (List.mem_of_mem_take hd)

theorem Digits.drop {digits : List Char} (h : Digits digits) (n : Nat) : Digits (digits.drop n) :=
  fun d hd => h d (List.mem_of_mem_drop hd)

theorem unsigned_toDigits (n : Nat) : Unsigned (Nat.toDigits 10 n) := by
  have h : Unsigned (Nat.toDigits 10 n ++ (fractionText none ++ exponentText none)) :=
    .parts none none Nat.toDigits_ne_nil (digits_toDigits n) nofun nofun nofun
  simpa using h

/-- Digits with a point. -/
theorem unsigned_point {whole fraction : List Char} (hsome : whole ≠ []) (hwhole : Digits whole)
    (hfraction : Digits fraction) : Unsigned (whole ++ '.' :: fraction) := by
  have h : Unsigned (whole ++ (fractionText (some fraction) ++ exponentText none)) :=
    .parts (some fraction) none hsome hwhole (fun _ hsame => Option.some.inj hsame ▸ hfraction)
      nofun nofun
  rwa [exponentText_none, List.append_nil] at h

/-- Digits with a power of ten, and a point where there is more than one before it. -/
theorem unsigned_power {whole : List Char} {fraction : Option (List Char)} {sign : Char}
    (hsome : whole ≠ []) (hwhole : Digits whole) (hfraction : ∀ digits ∈ fraction, Digits digits)
    (hsign : sign = '+' ∨ sign = '-') (n : Nat) :
    Unsigned (whole ++ (fractionText fraction ++ 'e' :: sign :: Nat.toDigits 10 n)) :=
  .parts fraction (some (sign, Nat.toDigits 10 n)) hsome hwhole hfraction
    (fun _ hsame => Option.some.inj hsame ▸ hsign)
    fun _ hsame => Option.some.inj hsame ▸ digits_toDigits n

/-- A decimal is written with a point, in full or with an exponent. -/
theorem unsigned_write (decimal : Decimal) : Unsigned decimal.write := by
  have hdigits := digits_toDigits decimal.significand
  have hsome : Nat.toDigits 10 decimal.significand ≠ [] := Nat.toDigits_ne_nil
  have hfirst : (Nat.toDigits 10 decimal.significand).take 1 ≠ [] := by simp [hsome]
  have hzero : Digits ['0'] := digits_zeros 1
  unfold Decimal.write
  simp only
  -- zero is written as `0.0`
  split
  · exact unsigned_point (List.cons_ne_nil '0' []) hzero hzero
  split
  · -- in full: zeros may be needed behind the digits, or before them, or the point comes in between
    split
    · exact unsigned_point (by simp [hsome]) (hdigits.append (digits_zeros _)) hzero
    split
    · exact unsigned_point (by simp [hsome]) (hdigits.take _) (hdigits.drop _)
    · exact unsigned_point (List.cons_ne_nil '0' []) hzero ((digits_zeros _).append hdigits)
  · rw [List.append_assoc]
    -- the digits behind the first one, if there are any, then the sign of the power
    split
    · have hnone : ∀ digits ∈ (none : Option (List Char)), Digits digits := nofun
      split
      · exact unsigned_power hfirst (hdigits.take 1) hnone (.inr rfl) _
      · exact unsigned_power hfirst (hdigits.take 1) hnone (.inl rfl) _
    · have hrest : ∀ digits ∈ some ((Nat.toDigits 10 decimal.significand).drop 1), Digits digits :=
        fun _ hsame => Option.some.inj hsame ▸ hdigits.drop 1
      split
      · exact unsigned_power hfirst (hdigits.take 1) hrest (.inr rfl) _
      · exact unsigned_power hfirst (hdigits.take 1) hrest (.inl rfl) _

/-- The text of a number, with its sign. -/
def Signed (text : List Char) : Prop :=
  Unsigned text ∨ ∃ digits, text = '-' :: digits ∧ Unsigned digits

/-- A whole number is written with its digits, and a sign where it is negative. -/
theorem signed_writeInt (n : Int) : Signed (writeInt n) := by
  cases n with
  | ofNat n => exact .inl (unsigned_toDigits n)
  | negSucc n => exact .inr ⟨_, rfl, unsigned_toDigits (n + 1)⟩

/-- A float is written as its shortest decimal, with the sign that it has. -/
theorem signed_writeFloat (x : Float) : Signed (Decimal.writeFloat x) := by
  unfold Decimal.writeFloat
  simp only
  split
  · exact .inl (unsigned_write _)
  · exact .inr ⟨_, rfl, unsigned_write _⟩

/-- **A number that was written is taken whole.** -/
theorem Signed.takes {text : List Char} (h : Signed text) :
    Takes readNumber text fun _ => True := by
  rcases h with h | ⟨digits, rfl, h⟩
  · exact h.takes.1
  · exact h.takes.2

/-- A number begins with its sign or a digit, so the reader knows it for a number at once. -/
theorem Signed.head {text : List Char} (h : Signed text) :
    ∃ c rest, text = c :: rest ∧ (c = '-' ∨ c.isDigit = true) := by
  rcases h with h | ⟨digits, rfl, -⟩
  · obtain ⟨d, digits, rfl, hd⟩ := h.head
    exact ⟨d, digits, rfl, .inr hd⟩
  · exact ⟨'-', digits, rfl, .inl rfl⟩

theorem toNat_lt_of_isDigit {c : Char} (h : c.isDigit = true) : c.toNat < 128 := by
  have hle : c.val ≤ 57 := by
    simp only [Char.isDigit, Bool.and_eq_true, decide_eq_true_eq] at h
    exact h.2
  have : c.val.toNat ≤ 57 := hle
  show c.val.toNat < 128
  omega

/-- Every character of a numeral is a single byte, part by part. -/
theorem Unsigned.ascii {text : List Char} (h : Unsigned text) : ∀ c ∈ text, c.toNat < 128 := by
  obtain ⟨fraction, exponent, -, hwhole, hfraction, hsign, hexponent⟩ := h
  intro c hc
  simp only [List.mem_append] at hc
  rcases hc with hc | hc | hc
  · exact toNat_lt_of_isDigit (hwhole c hc)
  · cases fraction with
    | none => cases hc
    | some digits =>
      rcases List.mem_cons.1 hc with rfl | hc
      · decide
      · exact toNat_lt_of_isDigit (hfraction digits rfl c hc)
  · cases exponent with
    | none => cases hc
    | some signed =>
      rcases List.mem_cons.1 hc with rfl | hc
      · decide
      rcases List.mem_cons.1 hc with rfl | hc
      · rcases hsign signed rfl with h | h <;> rw [h] <;> decide
      · exact toNat_lt_of_isDigit (hexponent signed rfl c hc)

/-- The bytes of a number are its characters. -/
theorem Signed.bytes_eq {text : List Char} (h : Signed text) : bytes text = text := by
  rcases h with h | ⟨digits, rfl, h⟩
  · exact bytes_ascii h.ascii
  · refine bytes_ascii fun c hc => ?_
    rcases List.mem_cons.1 hc with rfl | hc
    · decide
    · exact h.ascii c hc

/-! ## Entries -/

/-- The entries behind the first, each with a comma and blanks before it. -/
def followed (gap : List Char) : List (List Char) → List Char
  | [] => []
  | text :: rest => ',' :: gap ++ text ++ followed gap rest

/-- What entries make of what has been found, one after the other. -/
inductive Steps {τ σ : Type} (step : τ → σ → σ → Prop) : List τ → σ → σ → Prop where
  | nil {found : σ} : Steps step [] found found
  | cons {entry : τ} {rest : List τ} {found middle last : σ} (hstep : step entry found middle)
      (hrest : Steps step rest middle last) : Steps step (entry :: rest) found last

/-- Blanks are skipped together. -/
theorem skipBlanks_append {blanks : List Char} (h : ∀ c ∈ blanks, isBlank c = true)
    (rest : List Char) : skipBlanks (blanks ++ rest) = skipBlanks rest :=
  List.dropWhile_append_of_pos h

theorem skipBlanks_cons {c : Char} (hc : isBlank c = false) (rest : List Char) :
    skipBlanks (c :: rest) = c :: rest :=
  List.dropWhile_cons_of_neg (by simp [hc])

section Entries

variable {τ σ : Type} {close : Char} {entry : σ → Reader σ} (step : τ → σ → σ → Prop)
  {text : τ → List Char} {gap last : List Char}

/-- After an entry comes a comma, a blank or the closing bracket. -/
theorem ends_followed (hclose : close = ']' ∨ close = '}') (hlast : ∀ c ∈ last, isBlank c = true)
    (texts : List (List Char)) (rest : List Char) :
    Ends (followed gap texts ++ (last ++ close :: rest)) := by
  intro c hc
  cases texts with
  -- a comma, if an entry follows
  | cons text texts =>
    cases hc
    exact .inl rfl
  | nil =>
    cases last with
    | nil =>
      cases hc
      rcases hclose with rfl | rfl
      · exact .inr (.inl rfl)
      · exact .inr (.inr (.inl rfl))
    | cons blank last =>
      cases hc
      exact .inr (.inr (.inr (hlast _ List.mem_cons_self)))

/-- **The entries behind the first are taken up to the closing bracket.** -/
theorem takes_followed (hclose : close = ']' ∨ close = '}')
    (hgap : ∀ c ∈ gap, isBlank c = true) (hlast : ∀ c ∈ last, isBlank c = true) {entries : List τ}
    (hentry : ∀ e ∈ entries, ∀ found, Takes (entry found) (text e) (step e found))
    (hhead : ∀ e ∈ entries, ∃ c rest, text e = c :: rest ∧ isBlank c = false)
    {fuel : Nat} {found found' : σ} {rest rest' : List Char}
    (hread : readEntries close entry fuel true found
      (followed gap (entries.map text) ++ (last ++ close :: rest)) = .ok (found', rest')) :
    rest' = rest ∧ Steps step entries found found' := by
  have hblank : isBlank close = false := by rcases hclose with rfl | rfl <;> decide
  have hcomma : ',' ≠ close := by rcases hclose with rfl | rfl <;> decide
  -- on the entries: what the first of them leaves begins with the comma before the next
  induction entries generalizing fuel found with
  | nil =>
    cases fuel with
    | zero => cases hread
    | succ fuel =>
      rw [List.map_nil, followed, List.nil_append, readEntries, skipBlanks_append hlast,
        skipBlanks_cons hblank] at hread
      simp only [if_true] at hread
      cases hread
      exact ⟨rfl, .nil⟩
  | cons e entries ih =>
    -- a reader without fuel refuses; the claim is about what it takes
    cases fuel with
    | zero => cases hread
    | succ fuel =>
      obtain ⟨c, tail, htext, hc⟩ := hhead e List.mem_cons_self
      have hskip (more : List Char) : skipBlanks (gap ++ (text e ++ more)) = text e ++ more := by
        rw [skipBlanks_append hgap, htext, List.cons_append, skipBlanks_cons hc]
      rw [List.map_cons, followed, List.cons_append, List.cons_append, List.cons_append,
        readEntries, skipBlanks_cons (show isBlank ',' = false by decide)] at hread
      simp only [if_neg hcomma, if_true, List.append_assoc, hskip] at hread
      -- the entry is refused, or taken up to where the next one begins
      split at hread
      · cases hread
      · rename_i middle rest'' hfound
        obtain ⟨rfl, hstep⟩ := hentry e List.mem_cons_self found _ _ _
          (ends_followed hclose hlast _ rest) hfound
        obtain ⟨hrest, hsteps⟩ := ih (fun e he => hentry e (.tail _ he))
          (fun e he => hhead e (.tail _ he)) hread
        exact ⟨hrest, .cons hstep hsteps⟩

/-- The text between two brackets. -/
def entriesText (gap last : List Char) : List (List Char) → List Char
  | [] => []
  | text :: rest => gap ++ (text ++ (followed gap rest ++ last))

/-- **Entries are taken up to the closing bracket.** -/
theorem takes_entries (hclose : close = ']' ∨ close = '}')
    (hgap : ∀ c ∈ gap, isBlank c = true) (hlast : ∀ c ∈ last, isBlank c = true) {entries : List τ}
    (hentry : ∀ e ∈ entries, ∀ found, Takes (entry found) (text e) (step e found))
    (hhead : ∀ e ∈ entries, ∃ c rest, text e = c :: rest ∧ isBlank c = false ∧ c ≠ close)
    {fuel : Nat} {found found' : σ} {rest rest' : List Char}
    (hread : readEntries close entry fuel false found
      (entriesText gap last (entries.map text) ++ close :: rest) = .ok (found', rest')) :
    rest' = rest ∧ Steps step entries found found' := by
  have hblank : isBlank close = false := by rcases hclose with rfl | rfl <;> decide
  cases fuel with
  | zero => cases hread
  | succ fuel =>
    -- empty brackets, or a first entry without a comma before it
    cases entries with
    | nil =>
      rw [List.map_nil, entriesText, List.nil_append, readEntries,
        skipBlanks_cons hblank] at hread
      simp only [if_true] at hread
      cases hread
      exact ⟨rfl, .nil⟩
    | cons e entries =>
      obtain ⟨c, tail, htext, hc, hne⟩ := hhead e List.mem_cons_self
      rw [List.map_cons, entriesText, List.append_assoc, List.append_assoc, List.append_assoc,
        readEntries, skipBlanks_append hgap, htext, List.cons_append, skipBlanks_cons hc] at hread
      simp only [if_neg hne, Bool.false_eq_true, if_false] at hread
      rw [← List.cons_append, ← htext] at hread
      split at hread
      · cases hread
      · rename_i middle rest'' hfound
        -- the first entry ends where the others begin, and `takes_followed` has the others
        obtain ⟨rfl, hstep⟩ := hentry e List.mem_cons_self found _ _ _
          (ends_followed hclose hlast _ rest) hfound
        obtain ⟨hrest, hsteps⟩ := takes_followed step hclose hgap hlast
          (fun e he => hentry e (.tail _ he))
          (fun e he => let ⟨c, rest, h, hblank, _⟩ := hhead e (.tail _ he); ⟨c, rest, h, hblank⟩)
          hread
        exact ⟨hrest, .cons hstep hsteps⟩

end Entries

/-! ## Values -/

/-- A layout that puts nothing but blanks between tokens. -/
structure Style.Airy (style : Style) : Prop where
  gap : ∀ depth, ∀ c ∈ style.gap depth, isBlank c = true
  colon : ∃ blanks, style.colon = ':' :: blanks ∧ ∀ c ∈ blanks, isBlank c = true

/-- The indented layout puts line ends and spaces between tokens. -/
theorem indented_airy : Style.indented.Airy where
  gap depth c hc := by
    rcases List.mem_cons.1 hc with rfl | hc
    · decide
    · rw [List.eq_of_mem_replicate hc]; decide
  colon := ⟨[' '], rfl, List.forall_mem_singleton.2 rfl⟩

theorem bytes_blanks {blanks : List Char} (h : ∀ c ∈ blanks, isBlank c = true) :
    bytes blanks = blanks := by
  refine bytes_ascii fun c hc => ?_
  have hblank : c = ' ' ∨ c = '\n' ∨ c = '\t' ∨ c = '\r' := by
    simpa [isBlank, or_assoc] using h c hc
  rcases hblank with rfl | rfl | rfl | rfl <;> decide

section Values

variable {style : Style}

/-- A value as it is read, byte by byte. -/
def written (style : Style) (depth : Nat) (value : Json) : List Char :=
  bytes (write style depth value)

/-- A member of an object, likewise. -/
def writtenMember (style : Style) (depth : Nat) (member : String × Json) : List Char :=
  bytes (writeText member.1) ++ (style.colon ++ written style depth member.2)

/-- The items behind the first, as the reader meets them. Induction on the items. -/
theorem bytes_writeItems (hstyle : style.Airy) (depth : Nat) (items : List Json) :
    bytes (writeItems style depth items)
      = followed (style.gap depth) (items.map (written style depth)) := by
  induction items with
  | nil => rfl
  | cons item items ih =>
    rw [writeItems, List.map_cons, followed, List.cons_append, List.cons_append, bytes_cons,
      bytes_append, bytes_append, bytes_blanks (hstyle.gap depth), ih]
    rfl

/-- **A list as the reader meets it**: entries between brackets. The first item has no comma, so the
writer has a case of its own for it. -/
theorem written_arr (hstyle : style.Airy) (depth : Nat) (items : List Json) :
    written style depth (.arr items)
      = '[' :: (entriesText (style.gap (depth + 1)) (style.gap depth)
          (items.map (written style (depth + 1))) ++ [']']) := by
  cases items with
  | nil => rfl
  | cons item items =>
    have hwrite : write style depth (.arr (item :: items))
        = ['['] ++ style.gap (depth + 1) ++ write style (depth + 1) item
          ++ writeItems style (depth + 1) items ++ style.gap depth ++ [']'] := by
      rw [write]; rfl
    unfold written
    rw [hwrite]
    simp only [bytes_append, bytes_blanks (hstyle.gap _), bytes_writeItems hstyle, List.map_cons,
      entriesText, List.append_assoc]
    rfl

theorem bytes_colon (hstyle : style.Airy) : bytes style.colon = style.colon := by
  obtain ⟨blanks, hcolon, hblanks⟩ := hstyle.colon
  rw [hcolon, bytes_cons, bytes_blanks hblanks]
  rfl

theorem bytes_writeMembers (hstyle : style.Airy) (depth : Nat) (members : List (String × Json)) :
    bytes (writeMembers style depth members)
      = followed (style.gap depth) (members.map (writtenMember style depth)) := by
  induction members with
  | nil => rfl
  | cons member members ih =>
    obtain ⟨name, value⟩ := member
    rw [writeMembers, List.map_cons, followed, List.cons_append, List.cons_append, List.cons_append,
      List.cons_append, bytes_cons, bytes_append, bytes_append, bytes_append, bytes_append,
      bytes_blanks (hstyle.gap depth), bytes_colon hstyle, ih]
    simp only [writtenMember, written, List.append_assoc]
    rfl

/-- **An object as the reader meets it.** -/
theorem written_obj (hstyle : style.Airy) (depth : Nat) (members : List (String × Json)) :
    written style depth (.obj members)
      = '{' :: (entriesText (style.gap (depth + 1)) (style.gap depth)
          (members.map (writtenMember style (depth + 1))) ++ ['}']) := by
  cases members with
  | nil => rfl
  | cons member members =>
    obtain ⟨name, value⟩ := member
    have hwrite : write style depth (.obj ((name, value) :: members))
        = ['{'] ++ style.gap (depth + 1) ++ writeText name ++ style.colon
          ++ write style (depth + 1) value ++ writeMembers style (depth + 1) members
          ++ style.gap depth ++ ['}'] := by
      rw [write]; rfl
    unfold written
    rw [hwrite]
    simp only [bytes_append, bytes_blanks (hstyle.gap _), bytes_writeMembers hstyle,
      bytes_colon hstyle, List.map_cons, entriesText, writtenMember, written, List.append_assoc]
    rfl

/-- What the first character of a value gives away. -/
inductive Head : Json → Char → Prop where
  | null : Head .null 'n'
  | up : Head (.bool true) 't'
  | down : Head (.bool false) 'f'
  | number {value : Json} {c : Char} (hc : c = '-' ∨ c.isDigit = true) : Head value c
  | str {text : String} : Head (.str text) '"'
  | arr {items : List Json} : Head (.arr items) '['
  | obj {members : List (String × Json)} : Head (.obj members) '{'

/-- Every value begins with a character that gives away its kind. -/
theorem head_written (hstyle : style.Airy) (depth : Nat) (value : Json) :
    ∃ c rest, written style depth value = c :: rest ∧ Head value c := by
  cases value with
  | null => exact ⟨'n', _, rfl, .null⟩
  | bool flag =>
    cases flag with
    | true => exact ⟨'t', _, rfl, .up⟩
    | false => exact ⟨'f', _, rfl, .down⟩
  | int n =>
    have hsigned := signed_writeInt n
    obtain ⟨c, rest, htext, hc⟩ := hsigned.head
    refine ⟨c, rest, ?_, .number hc⟩
    rw [written, write, hsigned.bytes_eq, htext]
  | float x =>
    have hsigned := signed_writeFloat x
    obtain ⟨c, rest, htext, hc⟩ := hsigned.head
    refine ⟨c, rest, ?_, .number hc⟩
    rw [written, write, hsigned.bytes_eq, htext]
  | str text => exact ⟨'"', _, by rw [written, write, bytes_writeText], .str⟩
  | arr items => exact ⟨'[', _, written_arr hstyle depth items, .arr⟩
  | obj members => exact ⟨'{', _, written_obj hstyle depth members, .obj⟩

/-- No mark but the sign and the digits begins a number. -/
theorem ne_of_number {c mark : Char} (hc : c = '-' ∨ c.isDigit = true)
    (hmark : ¬ (mark = '-' ∨ mark.isDigit = true)) : c ≠ mark := by
  rintro rfl
  exact hmark hc

/-- A number is told apart from a blank and from the end of a list or an object. -/
theorem not_blank_of_number {c : Char} (hc : c = '-' ∨ c.isDigit = true) :
    isBlank c = false ∧ c ≠ ']' ∧ c ≠ '}' := by
  refine ⟨?_, ne_of_number hc (by decide), ne_of_number hc (by decide)⟩
  unfold isBlank
  simp only [ne_of_number hc (show ¬ (' ' = '-' ∨ Char.isDigit ' ' = true) by decide),
    ne_of_number hc (show ¬ ('\n' = '-' ∨ Char.isDigit '\n' = true) by decide),
    ne_of_number hc (show ¬ ('\t' = '-' ∨ Char.isDigit '\t' = true) by decide),
    ne_of_number hc (show ¬ ('\r' = '-' ∨ Char.isDigit '\r' = true) by decide), decide_false,
    Bool.or_self]

/-- Every value is told apart from a blank and from the end, so a reader of entries does not take
one for the other. -/
theorem Head.not_blank {value : Json} {c : Char} (h : Head value c) :
    isBlank c = false ∧ c ≠ ']' ∧ c ≠ '}' := by
  cases h with
  | number hc => exact not_blank_of_number hc
  | null => decide
  | up => decide
  | down => decide
  | str => decide
  | arr => decide
  | obj => decide

/-- Only a text begins with a quote. -/
theorem Head.text_of_quote {value : Json} (h : Head value '"') : ∃ text, value = .str text := by
  cases h with
  | number hc => exact absurd hc (by decide)
  | str => exact ⟨_, rfl⟩

/-- What the reader takes of the text with any blanks before it. -/
def Spans {α : Type} (read : Reader α) (text : List Char) (post : α → Prop) : Prop :=
  ∀ blanks, (∀ c ∈ blanks, isBlank c = true) → Takes read (blanks ++ text) post

/-- A written value is found behind blanks. -/
theorem skipBlanks_written (hstyle : style.Airy) {blanks : List Char}
    (hblanks : ∀ c ∈ blanks, isBlank c = true) (depth : Nat) (value : Json) (rest : List Char) :
    skipBlanks (blanks ++ (written style depth value ++ rest))
      = written style depth value ++ rest := by
  obtain ⟨c, tail, htext, hhead⟩ := head_written hstyle depth value
  rw [skipBlanks_append hblanks, htext, List.cons_append, skipBlanks_cons hhead.not_blank.1]

/-- A list is taken up to its bracket, if each of its items is taken whole. -/
theorem rest_of_items {reader : Reader Json} (hstyle : style.Airy) {depth : Nat} {items : List Json}
    (hitems : ∀ item ∈ items, Spans reader (written style (depth + 1) item) fun _ => True)
    {found : List Json} {rest rest' : List Char}
    (hread : readItems reader (entriesText (style.gap (depth + 1)) (style.gap depth)
      (items.map (written style (depth + 1))) ++ ']' :: rest) = .ok (found, rest')) :
    rest' = rest := by
  unfold readItems at hread
  refine (takes_entries (fun _ _ _ => True) (.inl rfl) (hstyle.gap _) (hstyle.gap _)
    (fun item hitem found => ?_) (fun item hitem => ?_) hread).1
  · intro rest value rest' hends h
    -- the reader of one item puts it behind the items that it has
    simp only at h
    split at h
    · cases h
    · rename_i hfound
      cases h
      exact hitems item hitem [] nofun _ _ _ hends hfound
  · obtain ⟨c, tail, htext, hhead⟩ := head_written hstyle (depth + 1) item
    exact ⟨c, tail, htext, hhead.not_blank.1, hhead.not_blank.2.1⟩

/-- A name is read up to the colon, and the blanks behind it are left to the value. -/
theorem readName_written {blanks : List Char} (hcolon : style.colon = ':' :: blanks) (name : String)
    (rest : List Char) :
    readName (bytes (writeText name) ++ (style.colon ++ rest)) = .ok (name, blanks ++ rest) := by
  rw [bytes_writeText, hcolon]
  simp only [List.cons_append, List.append_assoc, List.nil_append, readName, readText_written]
  rfl

/-- A member begins with the quote of its name. -/
theorem head_writtenMember (depth : Nat) (member : String × Json) :
    ∃ c rest, writtenMember style depth member = c :: rest ∧ isBlank c = false ∧ c ≠ '}' := by
  refine ⟨'"', bytes (member.1.toList.flatMap escape) ++ ['"']
    ++ (style.colon ++ written style depth member.2), ?_, by decide, by decide⟩
  rw [writtenMember, bytes_writeText]
  rfl

/-- An object is taken up to its bracket, if the value of each member is taken whole. -/
theorem rest_of_members {reader : Reader Json} (hstyle : style.Airy) {depth : Nat}
    {members : List (String × Json)}
    (hmembers : ∀ member ∈ members,
      Spans reader (written style (depth + 1) member.2) fun _ => True)
    {found : List (String × Json)} {rest rest' : List Char}
    (hread : readMembers reader (entriesText (style.gap (depth + 1)) (style.gap depth)
      (members.map (writtenMember style (depth + 1))) ++ '}' :: rest) = .ok (found, rest')) :
    rest' = rest := by
  obtain ⟨blanks, hcolon, hblanks⟩ := hstyle.colon
  unfold readMembers at hread
  refine (takes_entries (fun _ _ _ => True) (.inr rfl) (hstyle.gap _) (hstyle.gap _)
    (fun member hmember found => ?_) (fun member _ => head_writtenMember (depth + 1) member)
    hread).1
  intro rest value rest' hends h
  refine ⟨?_, trivial⟩
  -- the name first, then the value behind its colon
  obtain ⟨⟨name, text⟩, hname, hafter⟩ := bind_eq_ok.1 h
  rw [writtenMember, List.append_assoc, List.append_assoc, readName_written hcolon] at hname
  cases hname
  obtain ⟨⟨value, text⟩, hvalue, hreturn⟩ := bind_eq_ok.1 hafter
  rw [← List.append_assoc] at hvalue
  cases hreturn
  exact (hmembers member hmember blanks hblanks rest value rest' hends hvalue).1

/-- An embedded text ends with the object around it. -/
theorem rest_of_embedded {whole : List Char → Except ReadError Json} (hstyle : style.Airy)
    {depth : Nat} {value found : Json} {members : List (String × Json)} {rest rest' : List Char}
    (hread : readEmbedded whole (style.colon ++ (written style (depth + 1) value
      ++ (followed (style.gap (depth + 1)) (members.map (writtenMember style (depth + 1)))
        ++ (style.gap depth ++ '}' :: rest)))) = .ok (found, rest')) :
    rest' = rest := by
  obtain ⟨blanks, hcolon, hblanks⟩ := hstyle.colon
  obtain ⟨c, tail, htext, hhead⟩ := head_written hstyle (depth + 1) value
  unfold readEmbedded at hread
  obtain ⟨text, hafter, hread⟩ := bind_eq_ok.1 hread
  rw [hcolon] at hafter
  obtain rfl : blanks ++ (written style (depth + 1) value ++ _) = text := Except.ok.inj hafter
  rw [skipBlanks_written hstyle hblanks, htext, List.cons_append] at hread
  -- what is embedded is a text, or the reader refuses
  split at hread
  · rename_i text hquote
    obtain ⟨rfl, rfl⟩ : c = '"' ∧ tail ++ _ = text := List.cons.inj hquote
    -- the quote says that it is a text, and so it is read up to its own quote
    obtain ⟨content, rfl⟩ := hhead.text_of_quote
    rw [written, write, bytes_writeText] at htext
    obtain rfl : bytes (content.toList.flatMap escape) ++ ['"'] = tail :=
      List.tail_eq_of_cons_eq htext
    rw [List.append_assoc, List.cons_append, List.nil_append, readText_written] at hread
    obtain ⟨⟨_, _⟩, hcontent, hread⟩ := bind_eq_ok.1 hread
    cases hcontent
    simp only at hread
    -- the text has to spell a value, and no member may follow
    split at hread
    · obtain ⟨text, hbracket, hreturn⟩ := bind_eq_ok.1 hread
      cases hreturn
      cases members with
      | nil =>
        -- the object is at its end, blanks apart
        rw [List.map_nil, followed, List.nil_append,
          skipBlanks_append (hstyle.gap depth)] at hbracket
        exact (Except.ok.inj hbracket).symm
      | cons member members => cases hbracket
    · cases hread
  · cases hread

/-- **An object is taken up to its closing bracket**, be it an object or a text in the guise of
one. -/
theorem rest_of_object {whole : List Char → Except ReadError Json} {reader : Reader Json}
    (hstyle : style.Airy) {depth : Nat} {members : List (String × Json)}
    (hmembers : ∀ member ∈ members,
      Spans reader (written style (depth + 1) member.2) fun _ => True)
    {found : Json} {rest rest' : List Char}
    (hread : readObject whole reader (entriesText (style.gap (depth + 1)) (style.gap depth)
      (members.map (writtenMember style (depth + 1))) ++ '}' :: rest) = .ok (found, rest')) :
    rest' = rest := by
  unfold readObject at hread
  split at hread
  · rename_i text hname
    unfold afterEmbeddingName? at hname
    -- without a member there is no name, so no reserved one
    cases members with
    | nil => cases hname
    | cons member members =>
      -- the first name, as the reader looks ahead for it
      have hskip : skipBlanks (entriesText (style.gap (depth + 1)) (style.gap depth)
            ((member :: members).map (writtenMember style (depth + 1))) ++ '}' :: rest)
          = '"' :: (bytes (member.1.toList.flatMap escape) ++ '"' :: (style.colon
            ++ (written style (depth + 1) member.2 ++ (followed (style.gap (depth + 1))
              (members.map (writtenMember style (depth + 1)))
                ++ (style.gap depth ++ '}' :: rest))))) := by
        rw [List.map_cons, entriesText, writtenMember, bytes_writeText]
        simp only [List.append_assoc, List.cons_append, List.nil_append]
        rw [skipBlanks_append (hstyle.gap _), skipBlanks_cons (by decide)]
      rw [hskip] at hname
      simp only [readText_written] at hname
      split at hname
      · cases hname
        exact rest_of_embedded hstyle hread
      · cases hname
  · obtain ⟨⟨_, text⟩, hmembersRead, hreturn⟩ := bind_eq_ok.1 hread
    cases hreturn
    exact rest_of_members hstyle hmembers hmembersRead

/-! ### Any value -/

variable {whole : List Char → Except ReadError Json}

/-- A reader of any value, from the first character on. -/
theorem spans_of_head (hstyle : style.Airy) {depth indent : Nat} {value : Json}
    (h : ∀ c tail rest found rest', written style indent value = c :: tail → Head value c →
      Ends rest →
      readValueWith (readObject whole) depth (c :: (tail ++ rest)) = .ok (found, rest') →
      rest' = rest) :
    Spans (readValueWith (readObject whole) depth) (written style indent value) fun _ => True := by
  intro blanks hblanks rest found rest' hends hread
  obtain ⟨c, tail, htext, hhead⟩ := head_written hstyle indent value
  refine ⟨h c tail rest found rest' htext hhead hends ?_, trivial⟩
  rw [List.append_assoc, htext] at hread
  unfold readValueWith at hread ⊢
  rwa [skipBlanks_append hblanks, List.cons_append] at hread

/-- A list is one level deep, and its items are read with a level less. -/
theorem readValueWith_arr (object : Reader Json → Reader Json) (depth : Nat) (rest : List Char) :
    readValueWith object (depth + 1) ('[' :: rest)
      = (readItems (readValueWith object depth) rest >>= fun found =>
          pure (.arr found.1, found.2)) := rfl

theorem readValueWith_obj (object : Reader Json → Reader Json) (depth : Nat) (rest : List Char) :
    readValueWith object (depth + 1) ('{' :: rest) = object (readValueWith object depth) rest := rfl

theorem readValueWith_str (object : Reader Json → Reader Json) (depth : Nat) (rest : List Char) :
    readValueWith object depth ('"' :: rest)
      = (readText rest >>= fun found => pure (.str found.1, found.2)) := by
  cases depth <;> rfl

/-- A sign or a digit is none of the marks that the reader looks for first. -/
theorem readValueWith_number (object : Reader Json → Reader Json) (depth : Nat) {c : Char}
    (hc : c = '-' ∨ c.isDigit = true) (rest : List Char) :
    readValueWith object depth (c :: rest) = readNumber (c :: rest) := by
  have hblank : isBlank c = false := (not_blank_of_number hc).1
  have hn : c ≠ 'n' := ne_of_number hc (by decide)
  have ht : c ≠ 't' := ne_of_number hc (by decide)
  have hf : c ≠ 'f' := ne_of_number hc (by decide)
  have hquote : c ≠ '"' := ne_of_number hc (by decide)
  unfold readValueWith
  rw [skipBlanks_cons hblank]
  simp only [hn, ht, hf, hquote, hc, if_false, if_true]

/-- At no depth is a list taken otherwise than whole: either there is no level left for it, and it
is refused, or its items are. -/
theorem spans_arr (hstyle : style.Airy) {items : List Json}
    (hitems : ∀ item ∈ items, ∀ depth indent,
      Spans (readValueWith (readObject whole) depth) (written style indent item) fun _ => True)
    (depth indent : Nat) :
    Spans (readValueWith (readObject whole) depth) (written style indent (.arr items))
      fun _ => True := by
  refine spans_of_head hstyle fun c tail rest found rest' htext _ _ hread => ?_
  rw [written_arr hstyle] at htext
  obtain ⟨rfl, rfl⟩ := List.cons.inj htext
  cases depth with
  | zero => cases hread
  | succ depth =>
    rw [List.append_assoc, readValueWith_arr] at hread
    obtain ⟨⟨found, text⟩, hfound, hreturn⟩ := bind_eq_ok.1 hread
    cases hreturn
    exact rest_of_items hstyle (fun item hitem => hitems item hitem depth (indent + 1)) hfound

/-- At no depth is an object taken otherwise than whole, for the reasons that a list is not. -/
theorem spans_obj (hstyle : style.Airy) {members : List (String × Json)}
    (hmembers : ∀ member ∈ members, ∀ depth indent,
      Spans (readValueWith (readObject whole) depth) (written style indent member.2) fun _ => True)
    (depth indent : Nat) :
    Spans (readValueWith (readObject whole) depth) (written style indent (.obj members))
      fun _ => True := by
  refine spans_of_head hstyle fun c tail rest found rest' htext _ _ hread => ?_
  rw [written_obj hstyle] at htext
  obtain ⟨rfl, rfl⟩ := List.cons.inj htext
  cases depth with
  | zero => cases hread
  | succ depth =>
    rw [List.append_assoc, readValueWith_obj] at hread
    exact rest_of_object hstyle (fun member hmember => hmembers member hmember depth (indent + 1))
      hread

/-- The text of a number is taken as a number, since its first character says so. -/
theorem spans_number (hstyle : style.Airy) {value : Json} {indent : Nat} {text : List Char}
    (htext : written style indent value = text) (hsigned : Signed text) (depth : Nat) :
    Spans (readValueWith (readObject whole) depth) (written style indent value) fun _ => True := by
  refine spans_of_head hstyle fun c tail rest found rest' hwritten _ hends hread => ?_
  obtain ⟨d, digits, hdigits, hd⟩ := hsigned.head
  obtain ⟨rfl, rfl⟩ := List.cons.inj (hwritten.symm.trans (htext.trans hdigits))
  -- the first character decides that it is read as a number
  rw [readValueWith_number _ _ hd, ← List.cons_append, ← hdigits] at hread
  exact (hsigned.takes rest found rest' hends hread).1

/-- A text is taken up to its closing quote; quotes inside are escaped. -/
theorem spans_str (hstyle : style.Airy) (text : String) (depth indent : Nat) :
    Spans (readValueWith (readObject whole) depth) (written style indent (.str text))
      fun _ => True := by
  refine spans_of_head hstyle fun c tail rest found rest' hwritten _ _ hread => ?_
  rw [written, write, bytes_writeText] at hwritten
  obtain ⟨rfl, rfl⟩ := List.cons.inj hwritten
  rw [List.append_assoc, List.cons_append, List.nil_append, readValueWith_str, readText_written]
    at hread
  cases hread
  rfl

/-- The words are as long as they are. -/
theorem spans_word (hstyle : style.Airy) {value : Json} {indent : Nat} {c : Char} {word : List Char}
    (hwritten : written style indent value = c :: word)
    (hread : ∀ depth rest, readValueWith (readObject whole) depth (c :: (word ++ rest))
      = .ok (value, rest)) (depth : Nat) :
    Spans (readValueWith (readObject whole) depth) (written style indent value) fun _ => True := by
  refine spans_of_head hstyle fun d tail rest found rest' htext _ _ h => ?_
  obtain ⟨rfl, rfl⟩ := List.cons.inj (hwritten.symm.trans htext)
  rw [hread] at h
  cases h
  rfl

theorem spans_null (hstyle : style.Airy) (depth indent : Nat) :
    Spans (readValueWith (readObject whole) depth) (written style indent .null) fun _ => True :=
  spans_word hstyle rfl (fun depth _ => by cases depth <;> rfl) depth

theorem spans_bool (hstyle : style.Airy) (flag : Bool) (depth indent : Nat) :
    Spans (readValueWith (readObject whole) depth) (written style indent (.bool flag))
      fun _ => True := by
  cases flag with
  | true => exact spans_word hstyle rfl (fun depth _ => by cases depth <;> rfl) depth
  | false => exact spans_word hstyle rfl (fun depth _ => by cases depth <;> rfl) depth

mutual

/-- **Reading a value stops where writing it has stopped.** -/
theorem spans_value (hstyle : style.Airy) (depth indent : Nat) : (value : Json) →
    Spans (readValueWith (readObject whole) depth) (written style indent value) fun _ => True
  | .null => spans_null hstyle depth indent
  | .bool flag => spans_bool hstyle flag depth indent
  | .int n => spans_number hstyle (by rw [written, write, (signed_writeInt n).bytes_eq])
      (signed_writeInt n) depth
  | .float x => spans_number hstyle (by rw [written, write, (signed_writeFloat x).bytes_eq])
      (signed_writeFloat x) depth
  | .str text => spans_str hstyle text depth indent
  | .arr items => spans_arr hstyle (spans_items hstyle items) depth indent
  | .obj members => spans_obj hstyle (spans_members hstyle members) depth indent

theorem spans_items (hstyle : style.Airy) : (items : List Json) → ∀ item ∈ items, ∀ depth indent,
    Spans (readValueWith (readObject whole) depth) (written style indent item) fun _ => True
  | [] => nofun
  | item :: items => List.forall_mem_cons.2
      ⟨fun depth indent => spans_value hstyle depth indent item, spans_items hstyle items⟩

theorem spans_members (hstyle : style.Airy) : (members : List (String × Json)) →
    ∀ member ∈ members, ∀ depth indent,
    Spans (readValueWith (readObject whole) depth) (written style indent member.2) fun _ => True
  | [] => nofun
  | (_, value) :: members => List.forall_mem_cons.2
      ⟨fun depth indent => spans_value hstyle depth indent value, spans_members hstyle members⟩

end

end Values

end TenantConsole.Json
