import Groundplan.Account.Connection
import Groundplan.Account.Connections
import Groundplan.Account.Role
import Groundplan.Account.RoleTemplate
import Groundplan.Account.Session
import Groundplan.Breaker
import Groundplan.Calendar
import Groundplan.Cloud.Call
import Groundplan.Cloud.Discovery
import Groundplan.Cloud.Inquiry
import Groundplan.Cloud.Listing
import Groundplan.Cloud.Resource
import Groundplan.Cost.Breakdown
import Groundplan.Cost.Merging
import Groundplan.Cost.Ranking
import Groundplan.Data
import Groundplan.Deploy.Access
import Groundplan.Deploy.Library
import Groundplan.Deploy.Lifecycle
import Groundplan.Deploy.Override
import Groundplan.Deploy.PlanOutput
import Groundplan.Deploy.Records
import Groundplan.Deploy.Run
import Groundplan.Deploy.Status
import Groundplan.Deploy.Tool
import Groundplan.Deploy.Workspace
import Groundplan.Draft.Generation
import Groundplan.Draft.Prompt
import Groundplan.Draft.Template
import Groundplan.Failure
import Groundplan.Hcl.Block
import Groundplan.Hcl.Levels
import Groundplan.Hcl.Nesting
import Groundplan.Hcl.Reader
import Groundplan.Hcl.Scan
import Groundplan.Hcl.Statement
import Groundplan.Hcl.Value
import Groundplan.Http.Field
import Groundplan.Http.Limits
import Groundplan.Http.Message
import Groundplan.Http.Route
import Groundplan.Http.Server
import Groundplan.Http.Target
import Groundplan.Installation
import Groundplan.Json.Answer
import Groundplan.Json.Reader
import Groundplan.Json.Writer
import Groundplan.Metering.Credits
import Groundplan.Metering.Slots
import Groundplan.Metering.Window
import Groundplan.Number.Binary64
import Groundplan.Number.Decimal
import Groundplan.Number.Integer
import Groundplan.Patch.Matching
import Groundplan.Patch.Unified
import Groundplan.Policy.Account
import Groundplan.Policy.Actions
import Groundplan.Policy.Audit
import Groundplan.Policy.Catalog
import Groundplan.Policy.Comparison
import Groundplan.Policy.Storage
import Groundplan.Policy.Evaluator
import Groundplan.Policy.Network
import Groundplan.Policy.Finding
import Groundplan.Policy.Reading
import Groundplan.Policy.Reference
import Groundplan.Policy.Savings
import Groundplan.Policy.Secrets
import Groundplan.Pricing.Estimate
import Groundplan.Pricing.PriceList
import Groundplan.Pricing.Table
import Groundplan.Proofs.Breaker
import Groundplan.Proofs.Cloud.Inquiry
import Groundplan.Proofs.Deploy.Balances
import Groundplan.Proofs.Deploy.Changes
import Groundplan.Proofs.Deploy.KeptStates
import Groundplan.Proofs.Deploy.Literals
import Groundplan.Proofs.Deploy.Override
import Groundplan.Proofs.Deploy.Records
import Groundplan.Proofs.Deploy.Refusals
import Groundplan.Proofs.Draft.Transaction
import Groundplan.Proofs.Hcl.Calls
import Groundplan.Proofs.Hcl.Contained
import Groundplan.Proofs.Hcl.CutOut
import Groundplan.Proofs.Hcl.Ending
import Groundplan.Proofs.Hcl.Interspersed
import Groundplan.Proofs.Hcl.Positions
import Groundplan.Proofs.Hcl.RoundTrip
import Groundplan.Proofs.Hcl.Suffix
import Groundplan.Proofs.Hcl.Turns
import Groundplan.Proofs.Http.Limits
import Groundplan.Proofs.Identity
import Groundplan.Proofs.Metering.Window
import Groundplan.Proofs.Number.Rounding
import Groundplan.Proofs.Policy.Calls
import Groundplan.Proofs.Policy.Catalog
import Groundplan.Proofs.Policy.Evaluators
import Groundplan.Proofs.Policy.Reading
import Groundplan.Proofs.Policy.References
import Groundplan.Proofs.Policy.Reordering
import Groundplan.Proofs.Policy.Reports
import Groundplan.Proofs.Scan.Delivery
import Groundplan.Proofs.Secrecy.Runs
import Groundplan.Proofs.Tenancy.Connections
import Groundplan.Proofs.Tenancy.Isolation
import Groundplan.Proofs.Tenancy.Overlap
import Groundplan.Proofs.Tenancy.Permissions
import Groundplan.Proofs.Tenancy.References
import Groundplan.Proofs.Upstream
import Groundplan.Refusing
import Groundplan.Routine
import Groundplan.Scan.Category
import Groundplan.Scan.Resource
import Groundplan.Scan.Finding
import Groundplan.Scan.Permission
import Groundplan.Scan.Report
import Groundplan.Scan.Spending
import Groundplan.Scan.Workload
import Groundplan.Seal.Cipher
import Groundplan.Seal.Digest
import Groundplan.Seal.Scrypt
import Groundplan.Seal.Sealed
import Groundplan.Seal.Vault
import Groundplan.Settings
import Groundplan.Store
import Groundplan.Text.Bytes
import Groundplan.Text.Tables
import Groundplan.Text.CharClass
import Groundplan.Text.Lines
import Groundplan.Text.Quoted
import Groundplan.Text.Shown
import Groundplan.World
import Groundplan.Proofs.Deploy.PlanOutput
import Groundplan.Proofs.Tenancy.Inventory
import Groundplan.Proofs.Deploy.Summaries
import Groundplan.Proofs.Hcl.Layout
import Groundplan.Proofs.Hcl.Spelling
import Groundplan.Proofs.Policy.Ingress
import Groundplan.Proofs.Policy.Delta
import Groundplan.Proofs.Policy.Regressions
import Groundplan.Proofs.Cost.Estimates
import Groundplan.Proofs.Patch.Unified
import Groundplan.Proofs.Policy.Scores
import Groundplan.Proofs.Scan.Permission
import Groundplan.Proofs.Deploy.Counts
import Groundplan.Proofs.Number.Cents
import Groundplan.Proofs.Cost.Rows
import Groundplan.Proofs.Policy.Secrets
import Groundplan.Proofs.Pricing.KeptPrices
import Groundplan.Proofs.Seal.Vault
import Groundplan.Proofs.Policy.History
import Groundplan.Proofs.Hcl.Paths
import Groundplan.Proofs.Scan.Spending
import Groundplan.Proofs.Metering.Tallies
import Groundplan.Proofs.Deploy.Output
