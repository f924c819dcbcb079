import TenantConsole.Json.Attempt
import TenantConsole.Token.Base64Url
import TenantConsole.Token.Claims
import TenantConsole.Token.Sha256
import TenantConsole.Token.WebKey

/-!
# Session tokens

A token is three parts with points between them: a header, the claims of the session, and the keyed
hash of the two as they are written. A token is checked in this order: its parts, its header, its
signature, its claims, when it expires, and that it names no audience.
-/

namespace TenantConsole

inductive TokenError where
  | generation (reason : String)
  | invalid (reason : String)
  | noSecret
  deriving DecidableEq

def TokenError.message : TokenError → String
  | generation reason => s!"JWT generation error: {reason}"
  | invalid reason => s!"Invalid JWT token: {reason}"
  | noSecret => "JWT secret not configured"

namespace Jwt

/-- What may be wrong with a token. -/
inductive Fault where
  | parts
  | signature
  | algorithm
  | expired
  | audience
  | noExpiry
  | base64
  | json
  deriving DecidableEq

def Fault.reason : Fault → String
  | parts => "InvalidToken"
  | signature => "InvalidSignature"
  | algorithm => "InvalidAlgorithm"
  | expired => "ExpiredSignature"
  | audience => "InvalidAudience"
  | noExpiry => "Missing required claim: exp"
  | base64 => "Base64 error"
  | json => "JSON error"

/-- For how many seconds an expired token is still accepted. -/
def leeway : Int := 60

/-! ### Writing -/

def encodeText (text : String) : List Char := Base64Url.encode text.toUTF8.toList

def header : Json := .obj [("typ", .str "JWT"), ("alg", .str "HS256")]

/-- The signature of a text under a secret. -/
def sign (secret : String) (message : List Char) : List Char :=
  Base64Url.encode (Sha256.hmac secret.toUTF8.toList (String.ofList message).toUTF8.toList)

/-- The header and the claims, as they are signed. -/
def message (claims : Claims) : List Char :=
  encodeText header.compact ++ '.' :: encodeText claims.toJson.compact

def encode (claims : Claims) (secret : String) : Except TokenError String :=
  if secret = "" then .error .noSecret
  else .ok (String.ofList (message claims ++ '.' :: sign secret (message claims)))

/-! ### The header -/

/-- The algorithms that a header may name. -/
def algorithms : List String :=
  ["HS256", "HS384", "HS512", "ES256", "ES384", "RS256", "RS384", "RS512", "PS256", "PS384",
   "PS512", "EdDSA"]

def optional (name : String) (format : Format Json) : Format.Slot := ⟨name, .nullable format, .null⟩

def headerFormat : Format String :=
  (Format.record "Header"
    [optional "typ" .text, ⟨"alg", .oneOf algorithms, .refused⟩, optional "cty" .text,
     optional "jku" .text, optional "jwk" WebKey.format, optional "kid" .text, optional "x5u" .text,
     optional "x5c" (.list .text), optional "x5t" .text, optional "x5t#S256" .text]).map
    fun v => (v.item 1).asText

/-! ### What the claims are checked for -/

/-- A value that is left alone if it cannot be had. -/
def attempted : Format Json where
  ofJson value := .ok value
  read depth text :=
    let (value, rest) := Json.attemptValue depth text
    .ok (value.getD .null, rest)

/-- A value that is only looked at if it is a number or a text: a list or an object breaks off after
its opening bracket. -/
def attemptedWord : Format Json where
  ofJson value := .ok value
  read depth text :=
    match Json.skipBlanks text with
    | '[' :: rest => .ok (.null, Json.leaveList rest)
    | '{' :: rest => .ok (.null, Json.leaveObject rest)
    | rest => attempted.read depth rest

/-- The audience that the claims name, if any. -/
def audienceFormat : Format Json :=
  (Format.record "Claims"
    [⟨"exp", attemptedWord, .default .null⟩, ⟨"nbf", attemptedWord, .default .null⟩,
     ⟨"sub", attempted, .default .null⟩, ⟨"iss", attempted, .default .null⟩,
     ⟨"aud", attempted, .default .null⟩]).map
    fun v => v.item 4

/-- Whether a value names an audience: a text, or a list of nothing but texts. -/
def namesAudience : Json → Bool
  | .str _ => true
  | .arr items => items.all fun
    | .str _ => true
    | _ => false
  | _ => false

/-! ### Reading -/

/-- What stands before and after the last point. -/
def splitLast (text : List Char) : Except Fault (List Char × List Char) :=
  match text.reverse.dropWhile (· ≠ '.') with
  | [] => .error .parts
  | _ :: before => .ok (before.reverse, (text.reverse.takeWhile (· ≠ '.')).reverse)

/-- The bytes that a part of a token stands for, each as the character of its number. -/
def decodePart (part : List Char) : Except Fault (List Char) :=
  match Base64Url.decode? part with
  | none => .error .base64
  | some bytes => .ok (bytes.map fun byte => Char.ofNat byte.toNat)

/-- Reads a part of a token as a whole text of a format. -/
def readPart {α : Type} (format : Format α) (part : List Char) : Except Fault α := do
  match Json.finish (format.read Json.depthLimit (← decodePart part)) with
  | .ok value => return value
  | .error _ => throw .json

/-- Whether claims are still good at a time. -/
def checkClaims (claims : Claims) (audience : Json) (now : Int) : Except Fault Unit :=
  let expiresAt := claims.expiresAt.toInt
  if expiresAt < 0 then .error .noExpiry
  else if expiresAt < now - leeway then .error .expired
  else if namesAudience audience then .error .audience
  else .ok ()

def check (token : List Char) (secret : String) (now : Int) : Except Fault Claims := do
  let (message, signature) ← splitLast token
  let (headerPart, claimsPart) ← splitLast message
  let algorithm ← readPart headerFormat headerPart
  if algorithm ≠ "HS256" then throw .algorithm
  if signature ≠ sign secret message then throw .signature
  let claims ← readPart Claims.format claimsPart
  let audience ← readPart audienceFormat claimsPart
  checkClaims claims audience now
  return claims

/-- The claims of a token that is good at a time. -/
def decode (token : String) (secret : String) (now : Int) : Except TokenError Claims :=
  if secret = "" then .error .noSecret
  else (check token.toList secret now).mapError fun fault => .invalid fault.reason

end Jwt

end TenantConsole
