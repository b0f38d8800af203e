import AdFilter.Command.Basic
import AdFilter.Command.Report
import AdFilter.Engine.Basic
import AdFilter.Engine.Counters
import AdFilter.Engine.Scheduler
import AdFilter.Engine.System
import AdFilter.Engine.Toggle
import AdFilter.Engine.Verdict
import AdFilter.Fetch.Cache
import AdFilter.Fetch.Pass
import AdFilter.Fetch.Web
import AdFilter.Files.Basic
import AdFilter.Log.Entry
import AdFilter.Log.Event
import AdFilter.Log.Logger
import AdFilter.Main
import AdFilter.Pattern.Basic
import AdFilter.Pattern.Bracket
import AdFilter.Pattern.CharSet
import AdFilter.Pattern.Primitive
import AdFilter.Pattern.Property
import AdFilter.Pattern.Reader
import AdFilter.Pattern.Wildcard
import AdFilter.Proofs.Command.Address
import AdFilter.Proofs.Command.Interval
import AdFilter.Proofs.Engine.Bookkeeping
import AdFilter.Proofs.Engine.Change
import AdFilter.Proofs.Engine.Concurrency
import AdFilter.Proofs.Engine.Course
import AdFilter.Proofs.Engine.Decision
import AdFilter.Proofs.Engine.Exception
import AdFilter.Proofs.Engine.FastPath
import AdFilter.Proofs.Engine.Frame
import AdFilter.Proofs.Engine.Fresh
import AdFilter.Proofs.Engine.Hydration
import AdFilter.Proofs.Engine.Loop
import AdFilter.Proofs.Engine.Navigation
import AdFilter.Proofs.Engine.Operation
import AdFilter.Proofs.Engine.Pace
import AdFilter.Proofs.Engine.Pause
import AdFilter.Proofs.Engine.Persistence
import AdFilter.Proofs.Engine.Policy
import AdFilter.Proofs.Engine.Refresh
import AdFilter.Proofs.Engine.Removal
import AdFilter.Proofs.Engine.Renewal
import AdFilter.Proofs.Engine.Repeat
import AdFilter.Proofs.Engine.Report
import AdFilter.Proofs.Engine.Requests
import AdFilter.Proofs.Engine.Retention
import AdFilter.Proofs.Engine.Schedule
import AdFilter.Proofs.Engine.SeenHost
import AdFilter.Proofs.Engine.Slots
import AdFilter.Proofs.Engine.Spelling
import AdFilter.Proofs.Engine.Task
import AdFilter.Proofs.Engine.Timetable
import AdFilter.Proofs.Engine.UserDomain
import AdFilter.Proofs.Fetch.Account
import AdFilter.Proofs.Fetch.Alone
import AdFilter.Proofs.Fetch.Answers
import AdFilter.Proofs.Fetch.Cache
import AdFilter.Proofs.Fetch.Contribution
import AdFilter.Proofs.Fetch.Interleaving
import AdFilter.Proofs.Fetch.Isolation
import AdFilter.Proofs.Fetch.Leaving
import AdFilter.Proofs.Fetch.Location
import AdFilter.Proofs.Fetch.Progress
import AdFilter.Proofs.Fetch.Replacement
import AdFilter.Proofs.Fetch.Run
import AdFilter.Proofs.Fetch.Stint
import AdFilter.Proofs.Fetch.Texts
import AdFilter.Proofs.Files.Folder
import AdFilter.Proofs.Files.Name
import AdFilter.Proofs.Files.Path
import AdFilter.Proofs.Files.Tree
import AdFilter.Proofs.Log.Delivery
import AdFilter.Proofs.Log.Fanout
import AdFilter.Proofs.Pattern.Fitting
import AdFilter.Proofs.Pattern.Search
import AdFilter.Proofs.Pattern.Translation
import AdFilter.Proofs.Pattern.Wildcard
import AdFilter.Proofs.Rule.Arrival
import AdFilter.Proofs.Rule.Cascade
import AdFilter.Proofs.Rule.Comment
import AdFilter.Proofs.Rule.Finding
import AdFilter.Proofs.Rule.Grammar
import AdFilter.Proofs.Rule.Growth
import AdFilter.Proofs.Rule.History
import AdFilter.Proofs.Rule.Layout
import AdFilter.Proofs.Rule.Loading
import AdFilter.Proofs.Rule.NormalForm
import AdFilter.Proofs.Rule.Parents
import AdFilter.Proofs.Rule.Representation
import AdFilter.Proofs.Rule.Subtree
import AdFilter.Proofs.Rule.Union
import AdFilter.Proofs.Rule.Wildcard
import AdFilter.Proofs.Rule.Writers
import AdFilter.Proofs.Text.Ascii
import AdFilter.Proofs.Text.Fold
import AdFilter.Proofs.Text.Layout
import AdFilter.Proofs.Text.Lines
import AdFilter.Proofs.Text.Lower
import AdFilter.Proofs.Text.Order
import AdFilter.Proofs.Text.Replacement
import AdFilter.Proofs.Text.Spelling
import AdFilter.Proofs.Url.DomainName
import AdFilter.Proofs.Url.Host
import AdFilter.Proofs.Url.Reading
import AdFilter.Proofs.Url.Site
import AdFilter.Proofs.Url.Spelling
import AdFilter.Rule.BuiltIn
import AdFilter.Rule.Entry
import AdFilter.Rule.Priority
import AdFilter.Rule.Reason
import AdFilter.Rule.Request
import AdFilter.Rule.Set
import AdFilter.Settings
import AdFilter.Text.AgeTable
import AdFilter.Text.Case
import AdFilter.Text.CaseTable
import AdFilter.Text.Category
import AdFilter.Text.CategoryTable
import AdFilter.Text.Direction
import AdFilter.Text.DirectionTable
import AdFilter.Text.Json
import AdFilter.Text.Layout
import AdFilter.Text.Normal
import AdFilter.Text.NormalTable
import AdFilter.Text.Number
import AdFilter.Text.Order
import AdFilter.Text.Property
import AdFilter.Text.PropertyTable
import AdFilter.Text.Quoted
import AdFilter.Text.Rounding
import AdFilter.Text.Run
import AdFilter.Text.ScriptTable
import AdFilter.Text.Utf8
import AdFilter.Toml.Quoted
import AdFilter.Toml.Reader
import AdFilter.Toml.Scalar
import AdFilter.Toml.Value
import AdFilter.Url.Basic
import AdFilter.Url.DomainName
import AdFilter.Url.Host
import AdFilter.Url.Ipv4
import AdFilter.Url.Ipv6
import AdFilter.Url.MappingTable
import AdFilter.Url.Punycode
