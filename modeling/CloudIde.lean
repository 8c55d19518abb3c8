import CloudIde.Account
import CloudIde.Caller
import CloudIde.Command.Basic
import CloudIde.Command.Descriptor
import CloudIde.Database.FileUri
import CloudIde.Database.Location
import CloudIde.Database.Migration
import CloudIde.Database.Open
import CloudIde.Database.Script
import CloudIde.Date.Civil
import CloudIde.Date.Instant
import CloudIde.Failure
import CloudIde.Files.Tree
import CloudIde.Http.Body
import CloudIde.Http.Form
import CloudIde.Http.MediaType
import CloudIde.Http.Message
import CloudIde.Http.Percent
import CloudIde.Http.Request
import CloudIde.Http.Resource
import CloudIde.Http.Response
import CloudIde.Http.Router
import CloudIde.Http.Url
import CloudIde.Identifier
import CloudIde.Json.Basic
import CloudIde.Json.Lexeme
import CloudIde.Json.Problem
import CloudIde.Json.Reader
import CloudIde.Json.Shape
import CloudIde.Json.Skip
import CloudIde.Json.Wire
import CloudIde.Link
import CloudIde.Machine.Client
import CloudIde.Machine.Descriptor
import CloudIde.Main
import CloudIde.Number.Digits
import CloudIde.Number.Shortest
import CloudIde.Plan
import CloudIde.Platform.Accounts
import CloudIde.Platform.Outcome
import CloudIde.Platform.Plans
import CloudIde.Platform.Reports
import CloudIde.Platform.Subscribing
import CloudIde.Platform.Workspaces
import CloudIde.Proofs.Acceptance
import CloudIde.Proofs.AccountOwners
import CloudIde.Proofs.Agreement
import CloudIde.Proofs.Alike
import CloudIde.Proofs.CallHistory
import CloudIde.Proofs.CommandChange
import CloudIde.Proofs.CommandOwners
import CloudIde.Proofs.Confinement
import CloudIde.Proofs.Effect
import CloudIde.Proofs.Entitlement
import CloudIde.Proofs.Failures
import CloudIde.Proofs.Fallible
import CloudIde.Proofs.Frame
import CloudIde.Proofs.History
import CloudIde.Proofs.InternalProperties
import CloudIde.Proofs.Isolation
import CloudIde.Proofs.JsonFields
import CloudIde.Proofs.JsonRoundTrip
import CloudIde.Proofs.JsonText
import CloudIde.Proofs.Lifecycle
import CloudIde.Proofs.Links
import CloudIde.Proofs.MoreRoles
import CloudIde.Proofs.OneActive
import CloudIde.Proofs.OneView
import CloudIde.Proofs.Operation
import CloudIde.Proofs.Order
import CloudIde.Proofs.Outsiders
import CloudIde.Proofs.Paths
import CloudIde.Proofs.PlansFollowed
import CloudIde.Proofs.PrivateCommands
import CloudIde.Proofs.PropertiesShown
import CloudIde.Proofs.Reached
import CloudIde.Proofs.ReadBack
import CloudIde.Proofs.Reading
import CloudIde.Proofs.Refusals
import CloudIde.Proofs.RowByRow
import CloudIde.Proofs.Run
import CloudIde.Proofs.SameAccount
import CloudIde.Proofs.ServiceCalls
import CloudIde.Proofs.Subscribing
import CloudIde.Proofs.SubscriptionChange
import CloudIde.Proofs.Table
import CloudIde.Proofs.Terms
import CloudIde.Proofs.Unseen
import CloudIde.Proofs.Variants
import CloudIde.Proofs.WiderRoles
import CloudIde.Proofs.WorkspaceRoles
import CloudIde.Proofs.Writes
import CloudIde.Proofs.Written
import CloudIde.Proofs.WrittenReads
import CloudIde.Role
import CloudIde.Server.Address
import CloudIde.Server.Start
import CloudIde.Settings
import CloudIde.Store.Accounts
import CloudIde.Store.Basic
import CloudIde.Store.Cell
import CloudIde.Store.Commands
import CloudIde.Store.Fault
import CloudIde.Store.Overwrite
import CloudIde.Store.Plans
import CloudIde.Store.Rows
import CloudIde.Store.Subscriptions
import CloudIde.Store.Table
import CloudIde.Store.Workspaces
import CloudIde.Subscription.Basic
import CloudIde.Subscription.Descriptor
import CloudIde.Subscription.Service
import CloudIde.Subscription.Usage
import CloudIde.Text.Blank
import CloudIde.Text.Bytes
import CloudIde.Text.Case
import CloudIde.Text.Charset
import CloudIde.Text.CodeTable
import CloudIde.Text.Codes.Big5
import CloudIde.Text.Codes.Gb18030
import CloudIde.Text.Codes.Hangul
import CloudIde.Text.Codes.JisX0208
import CloudIde.Text.Codes.JisX0212
import CloudIde.Text.Dict
import CloudIde.Text.Hex
import CloudIde.Text.MultiByte
import CloudIde.Text.Pieces
import CloudIde.Text.Quoted
import CloudIde.Text.SingleByte
import CloudIde.Text.Unshown
import CloudIde.Text.Utf8
import CloudIde.Proofs.WriteOutcomes
import CloudIde.Proofs.Constraints
import CloudIde.Proofs.StoredValues
import CloudIde.Proofs.CommandListing
import CloudIde.Proofs.UsageReport
import CloudIde.Proofs.Trials
import CloudIde.Proofs.CommandUpdates
import CloudIde.Proofs.CommandLinks
import CloudIde.Proofs.Memberships
import CloudIde.Proofs.MissingAccount
import CloudIde.Proofs.Identity
import CloudIde.Proofs.RoundTrips
import CloudIde.Proofs.OptionalBody
import CloudIde.Proofs.Independence
import CloudIde.Proofs.MachineAddresses
import CloudIde.Proofs.MachineAnswers
import CloudIde.Proofs.DatabaseDirectories
import CloudIde.Proofs.DateTexts
import CloudIde.Proofs.ScriptStatements
