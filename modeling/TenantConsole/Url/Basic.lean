import TenantConsole.Url.Address
import TenantConsole.Url.Domain

/-!
# URLs

An absolute URL, read as far as the console needs it: whether it is one, and the host that it names.
Schemes of the web (`isSpecial`) have a host, in a normal form, whatever number of slashes stands
before it. Other schemes have one only after two slashes, and it stays as it is written.
-/

namespace TenantConsole

inductive UrlError where
  | noScheme
  | emptyHost
  | badPort
  | badIpv4
  | badIpv6
  | badDomain
  | badHostCharacter
  deriving DecidableEq

def UrlError.message : UrlError → String
  | noScheme => "relative URL without a base"
  | emptyHost => "empty host"
  | badPort => "invalid port number"
  | badIpv4 => "invalid IPv4 address"
  | badIpv6 => "invalid IPv6 address"
  | badDomain => "invalid international domain name"
  | badHostCharacter => "invalid domain character"

structure Url where
  scheme : String
  host : Option String
  /-- The user name and the password as they are written, with the colon between them. -/
  userInfo : List Char := []
  /-- What follows the question mark, as it is written. -/
  query : List Char := []
  deriving DecidableEq

namespace Url

/-! ### Cutting a URL up -/

def isEdge (c : Char) : Bool := c.toNat ≤ 32

/-- The text without blanks at its ends and without tabs and line ends. -/
def clean (text : String) : List Char :=
  let trimmed := ((text.toList.dropWhile isEdge).reverse.dropWhile isEdge).reverse
  trimmed.filter fun c => c ≠ '\t' ∧ c ≠ '\n' ∧ c ≠ '\r'

def isSchemeChar (c : Char) : Bool := c.isAlphanum || c = '+' || c = '-' || c = '.'

/-- The scheme, in small letters, and what follows its colon. -/
def scheme? (text : List Char) : Option (String × List Char) :=
  match text.span isSchemeChar with
  | (c :: scheme, ':' :: rest) =>
    if c.isAlpha then some (String.ofList ((c :: scheme).map Char.toLower), rest) else none
  | _ => none

def isSpecial (scheme : String) : Bool := ["http", "https", "ws", "wss", "ftp"].contains scheme

/-- Where the part of a URL that names a host ends. -/
def endsAuthority (special : Bool) (c : Char) : Bool :=
  c = '/' || c = '?' || c = '#' || (special && c = '\\')

/-- What follows the last at-sign, and what stands before it. -/
def splitLastAt (authority : List Char) : Option (List Char × List Char) :=
  let reversed := authority.reverse
  match reversed.dropWhile (· ≠ '@') with
  | [] => none
  | _ :: before => some (before.reverse, (reversed.takeWhile (· ≠ '@')).reverse)

/-- The host at the front of a text: it goes up to a colon that stands outside brackets. -/
def splitHost (special inside : Bool) : List Char → List Char × List Char
  | [] => ([], [])
  | c :: rest =>
    if endsAuthority special c || (c = ':' && !inside) then ([], c :: rest)
    else
      let inside := if c = '[' then true else if c = ']' then false else inside
      let (host, after) := splitHost special inside rest
      (c :: host, after)

/-! ### Hosts -/

/-- The host in brackets. -/
def bracketed (host : List Char) : Except UrlError (Option String) :=
  if host.getLast? = some ']' then
    match Address.ipv6? (host.drop 1).dropLast with
    | some pieces => .ok (some (String.ofList (Address.writeIpv6 pieces)))
    | none => .error .badIpv6
  else .error .badIpv6

/-- The normal form of a host on the web. -/
def webHost (host : List Char) : Except UrlError (Option String) :=
  if host.head? = some '[' then bracketed host
  else
    match Domain.ofText? (String.ofList host) with
    | none => .error .badDomain
    | some [] => .error .emptyHost
    | some domain =>
      if Address.endsInNumber domain then
        match Address.ipv4? domain with
        | some address => .ok (some (String.ofList (Address.writeIpv4 address)))
        | none => .error .badIpv4
      else .ok (some (String.ofList domain))

/-- A host of any other scheme; an empty one is none. -/
def opaqueHost (host : List Char) : Except UrlError (Option String) :=
  if host.head? = some '[' then bracketed host
  else if host.any fun c => c.toNat = 0 || c = ' ' || "#/:<>?@[\\]^|".toList.contains c then
    .error .badHostCharacter
  else if host = [] then .ok none
  else .ok (some (String.ofList (Percent.encodeControls host)))

/-- Whether the text after a host starts with a colon and no port number. -/
def badPort (rest : List Char) : Bool :=
  match rest with
  | ':' :: port =>
    let digits := port.takeWhile Char.isDigit
    65535 < (Text.numberIn? 10 digits).getD 0 ||
      match port.drop digits.length with
      | [] => false
      | c :: _ => !endsAuthority true c
  | _ => false

/-- What stands before the last at-sign of the part that names a host. -/
def userInfoOf (special : Bool) (text : List Char) : List Char :=
  match splitLastAt (text.takeWhile fun c => !endsAuthority special c) with
  | some (userInfo, _) => userInfo
  | none => []

/-- Whether a user name or a password stands before the at-sign. -/
def namesUser (userInfo : List Char) : Bool := userInfo ≠ [] && userInfo ≠ [':']

/-- The host after the slashes. -/
def authorityHost (special : Bool) (text : List Char) : Except UrlError (Option String) := do
  let authority := text.takeWhile fun c => !endsAuthority special c
  let remainder := text.drop authority.length
  let (userInfo, text) := match splitLastAt authority with
    | some (userInfo, host) => (userInfo, host ++ remainder)
    | none => ([], text)
  if authority.head? = some '@' ∧ userInfo = [] ∧ authority.length = 1 ∧ remainder ≠ [] then
    throw .emptyHost
  let (host, rest) := splitHost special false text
  if host = [] ∧ (special ∨ rest.head? = some ':') then throw .emptyHost
  let found ← if special then webHost host else opaqueHost host
  if badPort rest then throw .badPort
  if found.isNone ∧ namesUser userInfo then throw .emptyHost
  return found

/-! ### Files -/

def isDriveLetter (segment : List Char) : Bool :=
  match segment with
  | [letter, mark] => letter.isAlpha && (mark = ':' || mark = '|')
  | _ => false

/-- A segment with its coded points written out. -/
def withPoints : List Char → List Char
  | '%' :: '2' :: 'e' :: rest => '.' :: withPoints rest
  | '%' :: '2' :: 'E' :: rest => '.' :: withPoints rest
  | c :: rest => c :: withPoints rest
  | [] => []

/-- The segments of the path at the front of a text. -/
def segments (text : List Char) : List (List Char) :=
  let path := text.takeWhile fun c => c ≠ '?' ∧ c ≠ '#'
  ((path.map fun c => if c = '\\' then '/' else c).drop 1).splitOn '/'

/-- Whether a drive letter becomes the first segment of a path that has `depth` segments so far. One
point goes nowhere and two go up, but never above a drive letter. -/
def startsAtDrive (depth : Nat) : List (List Char) → Bool
  | [] => false
  | segment :: rest =>
    if withPoints segment = ['.'] then startsAtDrive depth rest
    else if withPoints segment = ['.', '.'] then startsAtDrive (depth - 1) rest
    else if isDriveLetter segment then depth = 0
    else startsAtDrive (depth + 1) rest

/-- The host of a file: only after two slashes, and neither a drive letter nor this machine. A path
that starts at a drive is a path of this machine, whatever host is named. -/
def fileHost (text : List Char) : Except UrlError (Option String) :=
  match text with
  | a :: b :: rest =>
    if (a = '/' ∨ a = '\\') ∧ (b = '/' ∨ b = '\\') then
      let host := rest.takeWhile fun c => !endsAuthority true c
      if host = [] ∨ isDriveLetter host then .ok none
      else
        (webHost host).map fun found =>
          if found = some "localhost" ∨ startsAtDrive 0 (segments (rest.drop host.length)) then none
          else found
    else .ok none
  | _ => .ok none

/-! ### URLs -/

/-- What follows the first question mark before the fragment. -/
def queryOf (text : List Char) : List Char :=
  ((text.takeWhile (· ≠ '#')).dropWhile (· ≠ '?')).drop 1

def parse (text : String) : Except UrlError Url := do
  match scheme? (clean text) with
  | none => throw .noScheme
  | some (scheme, rest) =>
    let query := queryOf rest
    if scheme = "file" then return { scheme, query, host := ← fileHost rest }
    else if isSpecial scheme then
      let text := rest.dropWhile fun c => c = '/' ∨ c = '\\'
      let host ← authorityHost true text
      return { scheme, query, host, userInfo := userInfoOf true text }
    else
      match rest with
      | '/' :: '/' :: text =>
        let host ← authorityHost false text
        return { scheme, query, host, userInfo := userInfoOf false text }
      | _ => return { scheme, query, host := none }

def username (url : Url) : List Char := url.userInfo.takeWhile (· ≠ ':')

def password (url : Url) : List Char := url.userInfo.drop (url.username.length + 1)

end Url

end TenantConsole
