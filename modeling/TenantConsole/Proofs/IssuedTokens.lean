import TenantConsole.CommandLine.Tool
import TenantConsole.Proofs.Sessions

/-!
# Tokens that the tool issues

The tool takes the hours of a session from the environment, where every number of 64 bits is
accepted. If the session ends within the calendar, its token is good for just those hours. Otherwise
the tool breaks off, or the token that it prints has expired already.

* **`Claims.toInt_toInt64`**: the hours are taken as a word with sign, so from half of the words on
  they count back from the second of issue.
* **`Claims.issue_within`** and **`Claims.issue_beyond`**: a session is issued if there is a date
  for its end, before the issue or after it.
* **`Jwt.decode_token`**: whether a token is accepted is a matter of its claims and the time.

`issued_tokens_settled` draws the bounds.
-/

namespace TenantConsole

/-! ## Hours in the environment -/

namespace Variables

/-- Every number below the bound can be set: it is read from its digits. -/
theorem natBelow?_digits {bound n : Nat} (hn : n < bound) :
    natBelow? bound (String.ofList (Nat.toDigits 10 n)) = some n := by
  have hdigits : Text.decimal? (Nat.toDigits 10 n) = some n := by
    have hall : (Nat.toDigits 10 n).all Char.isDigit = true :=
      List.all_eq_true.2 (Json.digits_toDigits n)
    unfold Text.decimal?
    rw [if_pos ⟨Nat.toDigits_ne_nil, hall⟩, Json.decimal_toDigits]
  unfold natBelow?
  rw [String.toList_ofList]
  split
  · -- the first digit is no sign
    rename_i rest hsign
    have hplus : '+' ∈ Nat.toDigits 10 n := by simp [hsign]
    exact absurd (Json.digits_toDigits n '+' hplus) (by decide)
  · simp only [hdigits, if_pos hn]

end Variables

theorem Settings.hours_ofVariables {lookup : Variables} {text : String} {hours : Nat}
    (htext : lookup "SECURITY_JWT_EXPIRY_HOURS" = some text)
    (hhours : Variables.natBelow? UInt64.size text = some hours) (hbound : hours < UInt64.size) :
    (Settings.ofVariables lookup).security.hours.toNat = hours := by
  show (UInt64.ofNat (lookup.nat "SECURITY_JWT_EXPIRY_HOURS" UInt64.size _)).toNat = hours
  unfold Variables.nat
  rw [htext, Option.bind_some, hhours]
  exact UInt64.toNat_ofNat_of_lt hbound

/-! ## Sessions -/

namespace Claims

/-- The upper half of the words of 64 bits is read as negative numbers. -/
theorem toInt_toInt64 (word : UInt64) :
    word.toInt64.toInt
      = if word.toNat < UInt64.size / 2 then (word.toNat : Int) else word.toNat - UInt64.size := by
  show word.toBitVec.toInt = _
  rw [BitVec.toInt_eq_toNat_cond, UInt64.toNat_toBitVec]
  unfold UInt64.size
  split <;> split <;> omega

/-- How many seconds a session is to last. -/
def length (hours : UInt64) : Int := hours.toInt64.toInt * 3600

/-- Below half of the words, hours are as many as they say. -/
theorem length_of_lt {hours : UInt64} (h : hours.toNat < UInt64.size / 2) :
    length hours = 3600 * hours.toNat := by
  unfold length
  rw [toInt_toInt64, if_pos h]
  omega

/-- From half of the words on, hours count back from the end of the words. -/
theorem length_of_lost {hours : UInt64} {lost : Nat} (hlost : lost ≤ UInt64.size / 2)
    (h : hours.toNat + lost = UInt64.size) : length hours = -(3600 * lost) := by
  unfold length
  rw [toInt_toInt64, if_neg (by omega)]
  omega

/-- What is wrong with a session that would end beyond the calendar. -/
def fault (length : Int) : LifetimeError :=
  if length.natAbs ≤ longestDuration then .noDate else .noDuration

section

variable {hours : UInt64} {start : Int}

/-- **A session that ends within the calendar is issued for what has been asked for.** -/
theorem issue_within (principal : Principal) (hstart : 0 ≤ start) (hlast : start ≤ lastSecond)
    (hlow : firstSecond ≤ start + length hours) (hhigh : start + length hours ≤ lastSecond) :
    ∃ claims, issue principal hours start = .ok claims ∧ claims.principal = principal
      ∧ claims.issuedAt.toInt = start ∧ claims.expiresAt.toInt = start + length hours := by
  -- a second of the calendar fits a word
  have hword {second : Int} (hlow : firstSecond ≤ second) (hhigh : second ≤ lastSecond) :
      (Int64.ofInt second).toInt = second := by
    unfold firstSecond at hlow
    unfold lastSecond at hhigh
    exact Int64.toInt_ofInt_of_le (by omega) (by omega)
  have hfirst : firstSecond ≤ start := Int.le_trans (by decide) hstart
  -- and no duration within it is too long
  have hlength : lifetime hours = .ok (length hours) := by
    unfold firstSecond at hlow
    unfold lastSecond at hhigh hlast
    refine if_neg ?_
    show ¬ (length hours < -longestDuration ∨ longestDuration < length hours)
    unfold longestDuration
    omega
  have hdate : ¬ (start + length hours < firstSecond ∨ lastSecond < start + length hours) := by
    omega
  unfold issue
  rw [hlength]
  exact ⟨_, if_neg hdate, rfl, hword hfirst hlast, hword hlow hhigh⟩

/-- A session whose end has no date is not issued. -/
theorem issue_beyond (principal : Principal)
    (hbeyond : start + length hours < firstSecond ∨ lastSecond < start + length hours) :
    issue principal hours start = .error (fault (length hours)) := by
  unfold issue lifetime fault
  simp only []
  show (if length hours < _ ∨ _ < length hours then _ else _) >>= _ = _
  -- hours that are too many break off at the duration, others at the date
  by_cases hlength : (length hours).natAbs ≤ longestDuration
  · rw [if_neg (by omega), if_pos hlength]
    exact if_pos hbeyond
  · rw [if_pos (by omega), if_neg hlength]
    rfl

end

end Claims

/-! ## Tokens -/

namespace Jwt

/-- The token that stands for claims under a secret. -/
def token (claims : Claims) (secret : String) : String :=
  String.ofList (message claims ++ '.' :: sign secret (message claims))

theorem encode_eq (claims : Claims) {secret : String} (hsecret : secret ≠ "") :
    encode claims secret = .ok (token claims secret) :=
  if_neg hsecret

/-- **A token is good as long as its claims are.** -/
theorem decode_token (claims : Claims) {secret : String} (hsecret : secret ≠ "") (now : Int) :
    decode (token claims secret) secret now
      = ((checkClaims claims .null now).map fun _ => claims).mapError
          fun fault => .invalid fault.reason := by
  unfold decode token
  rw [if_neg hsecret, String.toList_ofList, check_message]

/-- Claims are good up to the second in which they expire. -/
theorem checkClaims_until {claims : Claims} {now : Nat}
    (huntil : (now : Int) ≤ claims.expiresAt.toInt) : checkClaims claims .null now = .ok () := by
  have hsince : ¬ claims.expiresAt.toInt < 0 := by omega
  have hgood : ¬ claims.expiresAt.toInt < now - leeway := by
    -- nothing but the end of the session can stand in the way
    unfold leeway
    omega
  unfold checkClaims
  simp only [if_neg hsince, if_neg hgood]
  rfl

/-- Claims that expired longer ago than is forgiven are refused. -/
theorem checkClaims_expired {claims : Claims} {now : Int}
    (hexpired : claims.expiresAt.toInt < now - leeway) :
    ∃ fault, checkClaims claims .null now = .error fault := by
  unfold checkClaims
  by_cases hsince : claims.expiresAt.toInt < 0
  · exact ⟨.noExpiry, if_pos hsince⟩
  · simp only [if_neg hsince, if_pos hexpired]
    exact ⟨.expired, rfl⟩

end Jwt

/-! ## What the tool answers -/

open CommandLine

/-- A session that lasts from the second of its issue for as many hours as are set, and a token that
carries it for all that time. -/
structure Usable (settings : Settings) (principal : Principal) (start : Nat) (token : String)
    (claims : Claims) : Prop where
  issued : claims.issuedAt.toInt = start
  lifetime : claims.expiresAt.toInt - claims.issuedAt.toInt = 3600 * settings.security.hours.toNat
  accepted : ∀ now : Nat, start ≤ now → now ≤ claims.expiresAt.toInt →
    Jwt.decode token settings.security.secret now = .ok claims
  principal : claims.principal = principal

/-- A session that had expired, by a number of hours, when it was issued, and a token that has never
been good. -/
structure Spent (settings : Settings) (lost start : Nat) (token : String) (claims : Claims) :
    Prop where
  lifetime : claims.expiresAt.toInt - claims.issuedAt.toInt = -(3600 * lost)
  refused : ∀ now : Nat, start ≤ now →
    ∃ reason, Jwt.decode token settings.security.secret now = .error (.invalid reason)

/-- A token is usable if its claims say so. -/
theorem Usable.of_claims {settings : Settings} {start : Nat} {claims : Claims}
    (hsecret : settings.security.secret ≠ "") (hissued : claims.issuedAt.toInt = start)
    (hexpires : claims.expiresAt.toInt = start + 3600 * settings.security.hours.toNat) :
    Usable settings claims.principal start (Jwt.token claims settings.security.secret) claims where
  issued := hissued
  lifetime := by omega
  accepted now _ huntil := by
    rw [Jwt.decode_token claims hsecret, Jwt.checkClaims_until huntil]
    rfl
  principal := rfl

/-- An hour is more than what is forgiven. -/
theorem Spent.of_claims {settings : Settings} {lost start : Nat} {claims : Claims}
    (hsecret : settings.security.secret ≠ "") (hlost : 0 < lost)
    (hissued : claims.issuedAt.toInt = start)
    (hexpires : claims.expiresAt.toInt = start - 3600 * lost) :
    Spent settings lost start (Jwt.token claims settings.security.secret) claims where
  lifetime := by omega
  refused now hnow := by
    have hexpired : claims.expiresAt.toInt < now - Jwt.leeway := by
      unfold Jwt.leeway
      omega
    obtain ⟨fault, hfault⟩ := Jwt.checkClaims_expired hexpired
    refine ⟨fault.reason, ?_⟩
    rw [Jwt.decode_token claims hsecret, hfault]
    rfl

/-- Claims that have been issued are printed. -/
theorem CommandLine.Invocation.run_token {settings : Settings}
    (hsecret : settings.security.secret ≠ "") (json : Bool) (principal : Principal) (now : Int) :
    (⟨json, .token principal⟩ : Invocation).run settings now
      = ((Claims.issue principal settings.security.hours now).mapError .lifetime).map fun claims =>
          shownToken json (Jwt.token claims settings.security.secret) claims := by
  unfold run
  simp only [Jwt.encode_eq _ hsecret]
  cases Claims.issue principal settings.security.hours now <;> rfl

/-- **A token is usable if its session ends within the calendar.** Hours that lead beyond it break
the tool off, in the duration or in the date. From half of the words on hours count back: they break
the tool off as well, or they make it print a token that is never accepted. -/
theorem issued_tokens_settled {lookup : Variables} (principal : Principal) (json : Bool)
    {start : Nat} (hsecret : (Settings.ofVariables lookup).security.secret ≠ "")
    (hstart : start ≤ Claims.lastSecond) :
    let settings := Settings.ofVariables lookup
    let hours := settings.security.hours.toNat
    let run := (⟨json, .token principal⟩ : Invocation).run settings start
    (start + 3600 * hours ≤ Claims.lastSecond → ∃ token claims,
        run = .ok (shownToken json token claims) ∧ Usable settings principal start token claims)
      ∧ (hours < UInt64.size / 2 → Claims.lastSecond < start + 3600 * hours →
        run = .error (.lifetime (Claims.fault (3600 * hours))))
      ∧ ∀ lost, lost ≤ UInt64.size / 2 → hours + lost = UInt64.size →
        if Claims.firstSecond ≤ start - 3600 * lost then ∃ token claims,
          run = .ok (shownToken json token claims) ∧ Spent settings lost start token claims
        else run = .error (.lifetime (Claims.fault (-(3600 * lost)))) := by
  generalize Settings.ofVariables lookup = settings at hsecret
  intro settings hours run
  have hrun : run = _ := Invocation.run_token hsecret json principal start
  have hzero : (0 : Int) ≤ start := Int.natCast_nonneg start
  refine ⟨fun hcalendar => ?_, fun hsigned hbeyond => ?_, fun lost hlost hsum => ?_⟩
  · have hsigned : hours < UInt64.size / 2 := by
      unfold Claims.lastSecond at hcalendar
      unfold UInt64.size
      omega
    have hlength : Claims.length settings.security.hours = 3600 * hours :=
      Claims.length_of_lt hsigned
    have hlow : Claims.firstSecond ≤ start + Claims.length settings.security.hours := by
      unfold Claims.firstSecond
      omega
    obtain ⟨claims, hissue, rfl, hissued, hexpires⟩ :=
      Claims.issue_within principal hzero hstart hlow (by omega)
    rw [hlength] at hexpires
    refine ⟨_, claims, ?_, .of_claims hsecret hissued hexpires⟩
    rw [hrun, hissue]
    rfl
  · have hlength : Claims.length settings.security.hours = 3600 * hours :=
      Claims.length_of_lt hsigned
    have hlate : Claims.lastSecond < start + Claims.length settings.security.hours := by omega
    rw [hrun, Claims.issue_beyond principal (.inr hlate), hlength]
    rfl
  · have hlength : Claims.length settings.security.hours = -(3600 * lost) :=
      Claims.length_of_lost hlost hsum
    -- counted back from the issue, the end may lie before the calendar too
    split
    · have hlow : Claims.firstSecond ≤ start + Claims.length settings.security.hours := by omega
      obtain ⟨claims, hissue, rfl, hissued, hexpires⟩ :=
        Claims.issue_within principal hzero hstart hlow (by omega)
      rw [hlength] at hexpires
      have hpositive : 0 < lost := by
        have hword : hours < UInt64.size := settings.security.hours.toNat_lt
        omega
      refine ⟨_, claims, ?_, .of_claims hsecret hpositive hissued (by omega)⟩
      rw [hrun, hissue]
      rfl
    · have hearly : start + Claims.length settings.security.hours < Claims.firstSecond := by omega
      rw [hrun, Claims.issue_beyond principal (.inl hearly), hlength]
      rfl

/-- A secret, and hours that are set by their digits. -/
def Variables.signing (hours : Nat) : Variables := fun name =>
  if name = "SECURITY_JWT_SECRET" then some "s3cret"
  else if name = "SECURITY_JWT_EXPIRY_HOURS" then some (String.ofList (Nat.toDigits 10 hours))
  else none

theorem Settings.hours_signing (hours : Nat) (hbound : hours < UInt64.size) :
    (Settings.ofVariables (.signing hours)).security.hours.toNat = hours :=
  hours_ofVariables rfl (Variables.natBelow?_digits hbound) hbound

theorem Settings.secret_signing (hours : Nat) :
    (Settings.ofVariables (.signing hours)).security.secret ≠ "" := by
  show ("s3cret" : String) ≠ ""
  decide

/-- A session of two hours, issued in the last of the seconds that it can be issued in. -/
theorem issued_tokens_settled_last :
    ∃ token claims, (⟨true, .token ⟨"ada", "github", "org-a", "eng"⟩⟩ : Invocation).run
        (Settings.ofVariables (.signing 2)) (8210266869599 : Nat)
          = .ok (shownToken true token claims)
      ∧ Usable (Settings.ofVariables (.signing 2)) ⟨"ada", "github", "org-a", "eng"⟩ 8210266869599
        token claims := by
  have hcalendar : (8210266869599 : Nat) ≤ Claims.lastSecond := by decide
  refine (issued_tokens_settled ⟨"ada", "github", "org-a", "eng"⟩ true
    (Settings.secret_signing 2) hcalendar).1 ?_
  rw [Settings.hours_signing 2 (by decide)]
  decide

/-- **Hours that are accepted break the tool off, or they are spent before they begin.** Three
thousand million hours lead beyond the calendar, and the largest number is taken for minus one. -/
theorem oversized_hours_fail :
    (⟨false, .token ⟨"ada", "github", "", ""⟩⟩ : Invocation).run
        (Settings.ofVariables (.signing 3000000000)) (1700000000 : Nat)
          = .error (.lifetime .noDate)
      ∧ ∃ token claims, (⟨false, .token ⟨"ada", "github", "", ""⟩⟩ : Invocation).run
          (Settings.ofVariables (.signing 18446744073709551615)) (1700000000 : Nat) = .ok token
        ∧ Spent (Settings.ofVariables (.signing 18446744073709551615)) 1 1700000000
          token claims := by
  constructor
  · have hhours := Settings.hours_signing 3000000000 (by decide)
    have hsecret := Settings.secret_signing 3000000000
    generalize Settings.ofVariables (.signing 3000000000) = settings at hhours hsecret ⊢
    have hlength : Claims.length settings.security.hours = 3600 * settings.security.hours.toNat :=
      Claims.length_of_lt (by rw [hhours]; decide)
    rw [hhours] at hlength
    have hlate : Claims.lastSecond
        < (1700000000 : Nat) + Claims.length settings.security.hours := by
      rw [hlength]
      decide
    rw [Invocation.run_token hsecret, Claims.issue_beyond _ (.inr hlate), hlength]
    rfl
  · have hhours := Settings.hours_signing 18446744073709551615 (by decide)
    have hsecret := Settings.secret_signing 18446744073709551615
    generalize Settings.ofVariables (.signing 18446744073709551615) = settings at hhours hsecret ⊢
    have hlength : Claims.length settings.security.hours = -(3600 * (1 : Nat)) :=
      Claims.length_of_lost (by decide) (by rw [hhours])
    have hlow : Claims.firstSecond
        ≤ (1700000000 : Nat) + Claims.length settings.security.hours := by
      rw [hlength]
      decide
    have hhigh : (1700000000 : Nat) + Claims.length settings.security.hours
        ≤ Claims.lastSecond := by
      rw [hlength]
      decide
    obtain ⟨claims, hissue, -, hissued, hexpires⟩ := Claims.issue_within
      ⟨"ada", "github", "", ""⟩ (by decide) (by decide) hlow hhigh
    refine ⟨_, claims, ?_, .of_claims hsecret (by decide) hissued (by omega)⟩
    rw [Invocation.run_token hsecret, hissue]
    rfl

end TenantConsole
