import Std.Time.DateTime.Timestamp
import TenantConsole.CommandLine.Tool

/-!
# The administrator's tool as a program

Reads the arguments, the variables and the clock, and prints what the tool answers.
-/

namespace TenantConsole

/-- The variables that settings may come from. -/
def variableNames : List String :=
  ["APP_ENV", "DATABASE_URL", "DATABASE_NAME", "DATABASE_MAX_CONNECTIONS",
   "DATABASE_CONNECTION_TIMEOUT", "API_PORT", "API_ENABLE_REQUEST_LOGGING", "SECURITY_JWT_SECRET",
   "SECURITY_JWT_EXPIRY_HOURS", "SECURITY_SUPER_ADMIN_GROUP", "RESOLVER_CANNED_PATH",
   "RESOLVER_RESOURCES_PATH", "RESOLVER_PROTOBOARDS_PATH", "RESOLVER_TEMPLATES_PATH",
   "INFLUXDB_URL", "INFLUXDB_USERNAME", "INFLUXDB_PASSWORD", "KAPACITOR_URL",
   "KAPACITOR_USERNAME", "KAPACITOR_PASSWORD"]

def readVariables : IO Variables := do
  let found ← variableNames.filterMapM fun name => do
    return (← IO.getEnv name).map (name, ·)
  return fun name => found.lookup name

/-- The seconds since the start of 1970. -/
def currentSecond : IO Int := do
  return (← Std.Time.Timestamp.now).toSecondsSinceUnixEpoch.val

/-- Carries out a line of arguments and answers with the exit code. -/
def runTool (arguments : List String) : IO UInt32 := do
  match CommandLine.Invocation.parse arguments with
  | .error error =>
    IO.eprintln s!"error: {error.message}"
    return 2
  | .ok invocation =>
    let settings := Settings.ofVariables (← readVariables)
    match invocation.run settings (← currentSecond) with
    | .ok line =>
      IO.println line
      return 0
    | .error error =>
      IO.eprintln s!"Error: {error.message}"
      return 1

end TenantConsole

def main (arguments : List String) : IO UInt32 := TenantConsole.runTool arguments
