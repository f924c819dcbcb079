import TenantConsole.CommandLine.Arguments
import TenantConsole.Settings.Basic

/-!
# Options of the server

What is given on the line replaces the setting of the same name.
-/

namespace TenantConsole.CommandLine

structure ServeOptions where
  /-- Keep all primary data in memory. -/
  memory : Bool
  port : Option UInt16
  cannedPath : Option String
  resourcesPath : Option String
  protoboardsPath : Option String
  templatesPath : Option String

namespace ServeOptions

def grammar : Grammar where
  flags := ["memory"]
  options := [("port", .port), ("canned-path", .path), ("resources-path", .path),
    ("protoboards-path", .path), ("templates-path", .path)]

def parse (arguments : List String) : Except UsageError ServeOptions := do
  let (found, _) ← grammar.parse arguments
  return {
    memory := found.flag "memory"
    port := (found.value? "port").bind port?
    cannedPath := found.value? "canned-path"
    resourcesPath := found.value? "resources-path"
    protoboardsPath := found.value? "protoboards-path"
    templatesPath := found.value? "templates-path" }

/-- The settings with what the line gives. -/
def apply (options : ServeOptions) (settings : Settings) : Settings :=
  { settings with
    api := { settings.api with port := options.port.getD settings.api.port }
    catalogs := { settings.catalogs with
      cannedPath := options.cannedPath.or settings.catalogs.cannedPath
      resourcesPath := options.resourcesPath.or settings.catalogs.resourcesPath
      protoboardsPath := options.protoboardsPath.or settings.catalogs.protoboardsPath
      templatesPath := options.templatesPath.or settings.catalogs.templatesPath } }

end ServeOptions

end TenantConsole.CommandLine
