import TenantConsole.Text.Digits
import TenantConsole.Text.Printable
import TenantConsole.Url.Basic
import TenantConsole.Url.Query

/-!
# Options of the database connection

The URL of the database server says more than where the server is: who signs in, and in its query
how the connection is made. Those options are checked before the server is called. The parts of the
URL come before the query, and the options of the query count in their order.
-/

namespace TenantConsole

inductive OptionFault where
  | notText (fault : Text.EncodingFault)
  | unknownMode (mode : String)
  | notNumber (fault : Text.NumberFault)
  | notAddress
  deriving DecidableEq

namespace OptionFault

def reason : OptionFault → String
  | notText fault => fault.message
  | unknownMode mode =>
    s!"error with configuration: unknown value {Text.quote mode} for `ssl_mode`"
  | notNumber fault => fault.message
  | notAddress => "invalid IP address syntax"

def message (fault : OptionFault) : String := "error with configuration: " ++ fault.reason

end OptionFault

namespace DatabaseOptions

/-- How far a connection is encrypted and the server checked. -/
def sslModes : List String := ["disable", "allow", "prefer", "require", "verify-ca", "verify-full"]

/-- A part of the URL, which has to stand for a text. -/
def checkText (part : List Char) : Except OptionFault Unit :=
  match Text.faultFrom? 0 (Percent.decodeBytes (String.ofList part).toUTF8.toList) with
  | some fault => .error (.notText fault)
  | none => .ok ()

/-- A host that is a path names a socket, and the path has to be a text. -/
def checkHost (host : String) : Except OptionFault Unit :=
  if (Percent.decodeBytes host.toUTF8.toList).head? = some 47 then checkText host.toList
  else .ok ()

def checkNumber (bound : Nat) (value : String) : Except OptionFault Unit :=
  match Text.readBelow bound value.toList with
  | .ok _ => .ok ()
  | .error fault => .error (.notNumber fault)

def isAddress (text : List Char) : Bool :=
  (Address.ipv6? text).isSome || (Address.embedded? text).isSome

/-- One option of the query; those that are not known are left alone. -/
def checkOption (name value : String) : Except OptionFault Unit :=
  if name = "sslmode" ∨ name = "ssl-mode" then
    if sslModes.contains value.toLower then .ok () else .error (.unknownMode value)
  else if name = "statement-cache-capacity" then checkNumber UInt64.size value
  else if name = "port" then checkNumber UInt16.size value
  else if name = "hostaddr" then
    if isAddress value.toList then .ok () else .error .notAddress
  else .ok ()

/-- The first fault among all that a URL says about the connection. -/
def check (url : Url) : Except OptionFault Unit := do
  checkHost (url.host.getD "")
  checkText url.username
  checkText url.password
  (Query.pairs url.query).forM fun (name, value) => checkOption name value

end DatabaseOptions

end TenantConsole
