import TenantConsole.CommandLine.Arguments
import TenantConsole.Settings.Overrides
import TenantConsole.Token.Jwt

/-!
# The administrator's tool

Two commands: one issues a session token for a principal, the other prints the settings that are in
force, with the secret hidden.
-/

namespace TenantConsole.CommandLine

inductive Command where
  | token (principal : Principal)
  | config
  deriving DecidableEq

structure Invocation where
  json : Bool
  command : Command
  deriving DecidableEq

namespace Invocation

def grammar : Grammar where
  flags := ["json"]
  commands := ["token", "config", "help"]
  versioned := true

def tokenGrammar : Grammar where
  flags := ["json"]
  options := [("subject", .text), ("issuer", .text), ("organization", .text), ("group", .text)]

def configGrammar : Grammar where
  flags := ["json"]

/-- Help on a command; there are no commands below the commands. -/
def help : List String → UsageError
  | [] => .helpAsked
  | [command] => if command ∈ grammar.commands then .helpAsked else .unknownCommand
  | _ => .unknownCommand

def required (found : Found) (name : String) : Except UsageError String :=
  match found.value? name with
  | some value => .ok value
  | none => .error .missingArgument

def parse (arguments : List String) : Except UsageError Invocation := do
  let (top, command) ← grammar.parse arguments
  match command with
  | none => throw (if top.isEmpty then .nothingAsked else .missingCommand)
  | some (name, rest) =>
    if name = "help" then throw (help rest)
    else if name = "token" then
      let (found, _) ← tokenGrammar.parse rest
      let principal : Principal :=
        { subject := ← required found "subject"
          issuer := ← required found "issuer"
          organization := (found.value? "organization").getD ""
          group := (found.value? "group").getD "" }
      return ⟨top.flag "json" || found.flag "json", .token principal⟩
    else
      let (found, _) ← configGrammar.parse rest
      return ⟨top.flag "json" || found.flag "json", .config⟩

end Invocation

/-! ### Carrying out -/

/-- Why a command fails. -/
inductive ToolError where
  | lifetime (error : LifetimeError)
  | token (error : TokenError)
  deriving DecidableEq

def ToolError.message : ToolError → String
  | lifetime error => error.message
  | token error => error.message

/-- What stands for a secret that is shown. -/
def mask : String := "********"

def masked (settings : Settings) : Settings :=
  if settings.security.secret = "" then settings
  else { settings with security := { settings.security with secret := mask } }

/-- What a new token is shown as. -/
def shownToken (json : Bool) (token : String) (claims : Claims) : String :=
  if json then
    Json.indented <|
      .obj
        [("data", .obj
          [("expires_at", .int claims.expiresAt.toInt), ("token", .str token)]),
         ("success", .bool true)]
  else token

/-- The line that a command prints. -/
def Invocation.run (invocation : Invocation) (settings : Settings) (now : Int) :
    Except ToolError String := do
  match invocation.command with
  | .token principal =>
    let claims ← (Claims.issue principal settings.security.hours now).mapError .lifetime
    let token ← (Jwt.encode claims settings.security.secret).mapError .token
    return shownToken invocation.json token claims
  | .config => return (masked settings).toJson.indented

end TenantConsole.CommandLine
