import TenantConsole.Access.Principal

/-!
# Session claims

What a session says: who its holder is, when it was issued and when it expires, in seconds since the
start of 1970. A session is issued for a number of hours that a calendar date can still follow.
-/

namespace TenantConsole

structure Claims where
  subject : String
  issuer : String
  organization : String := ""
  group : String := ""
  expiresAt : Int64
  issuedAt : Int64
  deriving DecidableEq

/-- Why no session can be issued for a number of hours. -/
inductive LifetimeError where
  /-- The hours are beyond every duration. -/
  | noDuration
  /-- The session would end beyond the calendar. -/
  | noDate
  deriving DecidableEq

def LifetimeError.message : LifetimeError → String
  | noDuration => "TimeDelta::hours out of bounds"
  | noDate => "`DateTime + TimeDelta` overflowed"

namespace Claims

def slots : List Format.Slot :=
  [.text "sub", .text "iss", .optionalText "org", .optionalText "grp",
   ⟨"exp", .int64, .refused⟩, ⟨"iat", .int64, .refused⟩]

def ofSlots (v : Json) : Claims :=
  { subject := (v.item 0).asText, issuer := (v.item 1).asText,
    organization := (v.item 2).asText, group := (v.item 3).asText,
    expiresAt := .ofInt (v.item 4).asInt, issuedAt := .ofInt (v.item 5).asInt }

def format : Format Claims := (Format.record "Claims" slots).map ofSlots

def toJson (claims : Claims) : Json :=
  .obj [("sub", .str claims.subject), ("iss", .str claims.issuer),
    ("org", .str claims.organization), ("grp", .str claims.group),
    ("exp", .int claims.expiresAt.toInt), ("iat", .int claims.issuedAt.toInt)]

def principal (claims : Claims) : Principal :=
  { subject := claims.subject, issuer := claims.issuer, organization := claims.organization,
    group := claims.group }

/-! ### Issuing -/

/-- The longest duration, in seconds. -/
def longestDuration : Int := 9223372036854775

/-- The last second of the last year of the calendar, 262142, and the first of the first, -262143.
-/
def lastSecond : Int := 8210266876799

def firstSecond : Int := -8334601228800

/-- The length of a session; the number of hours is taken as a word with sign. -/
def lifetime (hours : UInt64) : Except LifetimeError Int :=
  let seconds := hours.toInt64.toInt * 3600
  if seconds < -longestDuration ∨ longestDuration < seconds then .error .noDuration
  else .ok seconds

/-- The claims of a session that starts now. -/
def issue (principal : Principal) (hours : UInt64) (now : Int) : Except LifetimeError Claims := do
  let expiresAt := now + (← lifetime hours)
  if expiresAt < firstSecond ∨ lastSecond < expiresAt then throw .noDate
  else return {
    subject := principal.subject, issuer := principal.issuer,
    organization := principal.organization, group := principal.group,
    expiresAt := .ofInt expiresAt, issuedAt := .ofInt now }

end Claims

end TenantConsole
