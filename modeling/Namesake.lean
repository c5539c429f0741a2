import Namesake.Text
import Namesake.Unicode.Range
import Namesake.Unicode.Category
import Namesake.Unicode.Script
import Namesake.Unicode.Blank
import Namesake.Unicode.Decomposition
import Namesake.Unicode.Composition
import Namesake.Unicode.AsciiForm
import Namesake.Unicode.Case
import Namesake.Unicode.BreakClass
import Namesake.Unicode.Cluster
import Namesake.Number.Binary64
import Namesake.Number.Arithmetic
import Namesake.Number.Quantity
import Namesake.Json.Value
import Namesake.Json.Printer
import Namesake.Json.Parser
import Namesake.Json.Key
import Namesake.Json.Display
import Namesake.Name.Cut
import Namesake.Name.Limit
import Namesake.Policy.Character
import Namesake.Name.Sanitize
import Namesake.Policy.Pattern
import Namesake.Name.Kind
import Namesake.Fault
import Namesake.Log.Entry
import Namesake.Cache.Recency
import Namesake.Cache.Memo
import Namesake.Cache.Suffixes
import Namesake.Cache.Values
import Namesake.Reserved.Glob
import Namesake.Reserved.Rules
import Namesake.Registry.Store
import Namesake.Registry.Triage
import Namesake.Registry.Session
import Namesake.Registry.Claim
import Namesake.Registry.Keyed
import Namesake.Resolver.Request
import Namesake.Resolver.Basic
import Namesake.Resolver.Search
import Namesake.Resolver.Doubling
import Namesake.Resolver.Rounded
import Namesake.Resolver.Resolve
import Namesake.Json.Equal
import Namesake.Log.Event
import Namesake.Config.Variables
import Namesake.Config.Dotenv
import Namesake.Config.Region
import Namesake.Config.Parameters
import Namesake.Config.Assignment
import Namesake.Config.Conversion
import Namesake.Config.Setting
import Namesake.Config.ParameterService
import Namesake.Batch.Validation
import Namesake.Batch.Response
import Namesake.Service.Program
import Namesake.Batch.Guard
import Namesake.Batch.Handler
import Namesake.Catalogue
import Namesake.Proofs.Outcome
import Namesake.Proofs.Likeness
import Namesake.Proofs.Resolver.Likeness
import Namesake.Proofs.Registry.Growth
import Namesake.Proofs.Registry.Claim
import Namesake.Proofs.Registry.Calm
import Namesake.Proofs.Registry.Mirror
import Namesake.Proofs.Resolver.Probe
import Namesake.Proofs.Unicode.Segments
import Namesake.Proofs.Name.Cut
import Namesake.Proofs.Name.Steps
import Namesake.Proofs.Unicode.Decomposition
import Namesake.Proofs.Unicode.Order
import Namesake.Proofs.Unicode.Composition
import Namesake.Proofs.Name.Composed
import Namesake.Proofs.Name.Shape
import Namesake.Proofs.Name.Ascii
import Namesake.Proofs.Name.Clean
import Namesake.Proofs.Name.Vetted
import Namesake.Proofs.Name.Whole
import Namesake.Proofs.Policy.Pattern
import Namesake.Proofs.Reserved.Expression
import Namesake.Proofs.Reserved.Rules
import Namesake.Proofs.Reserved.Endless
import Namesake.Proofs.Resolver.Search
import Namesake.Proofs.Resolver.Resolve
import Namesake.Proofs.Resolver.Team
import Namesake.Proofs.Resolver.Mirror
import Namesake.Proofs.Resolver.Calm
import Namesake.Proofs.Resolver.Exhaustion
import Namesake.Proofs.Unicode.Lowercase
import Namesake.Proofs.Reserved.Spelling
import Namesake.Proofs.Resolver.Numeral
import Namesake.Proofs.Resolver.Course
import Namesake.Proofs.Resolver.Hints
import Namesake.Proofs.Resolver.Settled
import Namesake.Proofs.Resolver.Caches
import Namesake.Proofs.Resolver.Keys
import Namesake.Proofs.Resolver.Build
import Namesake.Proofs.Resolver.Names
import Namesake.Proofs.Resolver.Fresh
import Namesake.Proofs.Resolver.Faults
import Namesake.Proofs.Registry.Failure
import Namesake.Proofs.Resolver.Log
import Namesake.Proofs.Batch.Entries
import Namesake.Proofs.Json.Fields
import Namesake.Proofs.Batch.Handler
import Namesake.Proofs.Batch.Acceptance
import Namesake.Proofs.Batch.Report
import Namesake.Proofs.Resolver.Unwritable
import Namesake.Proofs.Batch.Faults
import Namesake.Proofs.Resolver.Verbosity
import Namesake.Proofs.Resolver.Opening
import Namesake.Proofs.Batch.Discretion
import Namesake.Proofs.Registry.Honest
import Namesake.Proofs.Registry.Triage
import Namesake.Proofs.Resolver.Trail
import Namesake.Proofs.Resolver.Recall
import Namesake.Proofs.Resolver.Doubling
import Namesake.Proofs.Resolver.Series
import Namesake.Proofs.Resolver.Losses
import Namesake.Proofs.Resolver.Rounds
import Namesake.Proofs.Resolver.Attempts
import Namesake.Proofs.Resolver.Escape
import Namesake.Proofs.Cache.Recall
import Namesake.Proofs.Resolver.Room
import Namesake.Proofs.Resolver.Refusal
import Namesake.Proofs.Batch.Start
