import TenantConsole.Access.Collection
import TenantConsole.Access.Context
import TenantConsole.Access.Principal
import TenantConsole.Access.RoleGuard
import TenantConsole.Catalog.Assembly
import TenantConsole.Catalog.Compiled
import TenantConsole.CommandLine.Arguments
import TenantConsole.CommandLine.Serve
import TenantConsole.CommandLine.Tool
import TenantConsole.Http.ApiError
import TenantConsole.Http.Console
import TenantConsole.Http.Intake
import TenantConsole.Http.MediaType
import TenantConsole.Http.Message
import TenantConsole.Http.Route
import TenantConsole.Json.Attempt
import TenantConsole.Json.Basic
import TenantConsole.Json.Decimal
import TenantConsole.Json.Number
import TenantConsole.Json.Parser
import TenantConsole.Json.Printer
import TenantConsole.Json.Quoted
import TenantConsole.Json.Reader
import TenantConsole.Main
import TenantConsole.Record.Basic
import TenantConsole.Record.Config
import TenantConsole.Record.ConfigTemplate
import TenantConsole.Record.Dashboard
import TenantConsole.Record.Format
import TenantConsole.Record.Layout
import TenantConsole.Record.Mapping
import TenantConsole.Record.Organization
import TenantConsole.Record.Protoboard
import TenantConsole.Record.Role
import TenantConsole.Record.Server
import TenantConsole.Record.Source
import TenantConsole.Record.User
import TenantConsole.Service.Call
import TenantConsole.Service.Error
import TenantConsole.Service.Login
import TenantConsole.Service.Organizations
import TenantConsole.Service.Roles
import TenantConsole.Service.Script
import TenantConsole.Service.Users
import TenantConsole.Settings.Basic
import TenantConsole.Settings.Database
import TenantConsole.Settings.DatabaseOptions
import TenantConsole.Settings.Overrides
import TenantConsole.Store.Basic
import TenantConsole.Store.Disk
import TenantConsole.Store.Error
import TenantConsole.Store.Folder
import TenantConsole.Store.Part
import TenantConsole.Store.Readings
import TenantConsole.Store.Scoping
import TenantConsole.Store.Table
import TenantConsole.Store.World
import TenantConsole.Text.Blank
import TenantConsole.Text.Composition
import TenantConsole.Text.Digits
import TenantConsole.Text.Direction
import TenantConsole.Text.Encoding
import TenantConsole.Text.Joining
import TenantConsole.Text.Mark
import TenantConsole.Text.Printable
import TenantConsole.Text.Ranges
import TenantConsole.Text.Shapeless
import TenantConsole.Token.Base64Url
import TenantConsole.Token.Claims
import TenantConsole.Token.Jwt
import TenantConsole.Token.Sha256
import TenantConsole.Token.WebKey
import TenantConsole.Url.Address
import TenantConsole.Url.Basic
import TenantConsole.Url.Domain
import TenantConsole.Url.Folding
import TenantConsole.Url.Label
import TenantConsole.Url.Percent
import TenantConsole.Url.Punycode
import TenantConsole.Url.Query
import TenantConsole.Proofs.Calls
import TenantConsole.Proofs.Memberships
import TenantConsole.Proofs.Submissions
import TenantConsole.Proofs.UserServices
import TenantConsole.Proofs.Sweeps
import TenantConsole.Proofs.OrganizationServices
import TenantConsole.Proofs.Requests
import TenantConsole.Proofs.InMemory
import TenantConsole.Proofs.Authority
import TenantConsole.Proofs.LastSuperAdmin
import TenantConsole.Proofs.Chains
import TenantConsole.Proofs.Confinement
import TenantConsole.Proofs.Folders
import TenantConsole.Proofs.Catalogs
import TenantConsole.Proofs.Isolation
import TenantConsole.Proofs.WrittenText
import TenantConsole.Proofs.WrittenValues
import TenantConsole.Proofs.PlainValues
import TenantConsole.Proofs.PlainRecords
import TenantConsole.Proofs.RecordValues
import TenantConsole.Proofs.StoredForms
import TenantConsole.Proofs.Pages
import TenantConsole.Proofs.Noninterference
import TenantConsole.Proofs.Responses
import TenantConsole.Proofs.ReadConfinement
import TenantConsole.Proofs.Claimless
import TenantConsole.Proofs.RoleInvariants
import TenantConsole.Proofs.RoleServices
import TenantConsole.Proofs.OrganizationCatalog
import TenantConsole.Proofs.RoleRecords
import TenantConsole.Proofs.UserRecords
import TenantConsole.Proofs.References
import TenantConsole.Proofs.Lookups
import TenantConsole.Proofs.Sessions
import TenantConsole.Proofs.FiledRecords
import TenantConsole.Proofs.DirectoryEntries
import TenantConsole.Proofs.FileStores
import TenantConsole.Proofs.FileEffects
import TenantConsole.Proofs.StrayFiles
import TenantConsole.Proofs.LayerStacks
import TenantConsole.Proofs.ScriptPairs
import TenantConsole.Proofs.AkinStores
import TenantConsole.Proofs.AkinStates
import TenantConsole.Proofs.HiddenDetail
import TenantConsole.Proofs.Tenancies
import TenantConsole.Proofs.Interleavings
import TenantConsole.Proofs.RoleVerdicts
import TenantConsole.Proofs.MappedRoles
import TenantConsole.Proofs.FirstLogins
import TenantConsole.Proofs.RepeatedLogins
import TenantConsole.Proofs.FailingLayers
import TenantConsole.Proofs.UserUpdates
import TenantConsole.Proofs.OrganizationLifecycles
import TenantConsole.Proofs.UserCreations
import TenantConsole.Proofs.HomeOrganizations
import TenantConsole.Proofs.HiddenUsers
import TenantConsole.Proofs.FailedFoundings
import TenantConsole.Proofs.RefusedLogins
import TenantConsole.Proofs.ShownSettings
import TenantConsole.Proofs.IssuedTokens
import TenantConsole.Proofs.UnsteadyLayers
import TenantConsole.Proofs.ConcurrentLogins
