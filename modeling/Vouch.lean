import Vouch.Analysis
import Vouch.Command.Analyse
import Vouch.Command.Given
import Vouch.Command.Invocation
import Vouch.Command.Keyserver
import Vouch.Command.Parameter
import Vouch.Command.Program
import Vouch.Command.Usage
import Vouch.Decimal
import Vouch.Decimal.Binary64
import Vouch.Engine.Code
import Vouch.Engine.Result
import Vouch.File
import Vouch.Folder
import Vouch.Json.Flaw
import Vouch.Json.Node
import Vouch.Json.Part
import Vouch.Json.Refusal
import Vouch.Json.Scan
import Vouch.Json.Shape
import Vouch.Json.Union
import Vouch.Json.Value
import Vouch.Key.Name
import Vouch.Key.Snapshot
import Vouch.Key.State
import Vouch.Key.Trust
import Vouch.Keyserver.Batch
import Vouch.Keyserver.Candidate
import Vouch.Keyserver.Client
import Vouch.Keyserver.Config
import Vouch.Keyserver.Import
import Vouch.Keyserver.Job
import Vouch.Keyserver.Network
import Vouch.Keyserver.Probe
import Vouch.Keyserver.Problem
import Vouch.Keyserver.Query
import Vouch.Keyserver.Reachability
import Vouch.Keyserver.SearchResult
import Vouch.Keyserver.Store
import Vouch.Keyserver.Text
import Vouch.Log
import Vouch.Main
import Vouch.Proofs.Command.Analyse
import Vouch.Proofs.Command.Capacity
import Vouch.Proofs.Command.Course
import Vouch.Proofs.Command.Fetch
import Vouch.Proofs.Command.Finding
import Vouch.Proofs.Command.Layers
import Vouch.Proofs.Command.Probe
import Vouch.Proofs.Command.Unanswered
import Vouch.Proofs.Decimal
import Vouch.Proofs.Engine.Code
import Vouch.Proofs.Engine.Document
import Vouch.Proofs.Except
import Vouch.Proofs.Folder
import Vouch.Proofs.Json.Breadth
import Vouch.Proofs.Json.Carries
import Vouch.Proofs.Json.Conform
import Vouch.Proofs.Json.Document
import Vouch.Proofs.Json.Grammar
import Vouch.Proofs.Json.Reading
import Vouch.Proofs.Json.Union
import Vouch.Proofs.Key.Answer
import Vouch.Proofs.Key.Found
import Vouch.Proofs.Key.Index
import Vouch.Proofs.Key.Name
import Vouch.Proofs.Key.Reassigned
import Vouch.Proofs.Key.Renormal
import Vouch.Proofs.Key.Snapshot
import Vouch.Proofs.Keyserver.Batch
import Vouch.Proofs.Keyserver.Batch.Ending
import Vouch.Proofs.Keyserver.Batch.Place
import Vouch.Proofs.Keyserver.Batch.Progress
import Vouch.Proofs.Keyserver.Batch.Sound
import Vouch.Proofs.Keyserver.Batch.Storage
import Vouch.Proofs.Keyserver.Batch.Work
import Vouch.Proofs.Keyserver.Client
import Vouch.Proofs.Keyserver.Document
import Vouch.Proofs.Keyserver.Endpoint
import Vouch.Proofs.Keyserver.Isolation
import Vouch.Proofs.Keyserver.Job
import Vouch.Proofs.Keyserver.Job.Course
import Vouch.Proofs.Keyserver.Listing.Named
import Vouch.Proofs.Keyserver.Listing.Written
import Vouch.Proofs.Keyserver.Outcome
import Vouch.Proofs.Keyserver.Probe
import Vouch.Proofs.Keyserver.Retry
import Vouch.Proofs.Keyserver.Search
import Vouch.Proofs.Keyserver.Store
import Vouch.Proofs.Keyserver.Term
import Vouch.Proofs.Keyserver.Transport
import Vouch.Proofs.Report.Creation
import Vouch.Proofs.Report.Document
import Vouch.Proofs.Report.Evidence
import Vouch.Proofs.Report.Normal
import Vouch.Proofs.Report.Regular
import Vouch.Proofs.Report.Status
import Vouch.Proofs.Signature.Record
import Vouch.Proofs.Signature.Status
import Vouch.Proofs.Text.Percent
import Vouch.Proofs.Text.Search
import Vouch.Proofs.Text.Unescape
import Vouch.Proofs.Text.Utf8
import Vouch.Proofs.Time.Calendar
import Vouch.Proofs.Time.Date
import Vouch.Proofs.Time.LocalTime
import Vouch.Proofs.Time.Stamp
import Vouch.Proofs.Url.Form
import Vouch.Proofs.Url.Host
import Vouch.Proofs.Url.Margin
import Vouch.Proofs.Url.Parts
import Vouch.Proofs.Url.Path
import Vouch.Proofs.Verdict.Account
import Vouch.Proofs.Verdict.Document
import Vouch.Proofs.Verdict.FullyValid
import Vouch.Proofs.Verdict.Remedy
import Vouch.Proofs.Verdict.Severity
import Vouch.Proofs.Verdict.Signer
import Vouch.Proofs.Verdict.Tally
import Vouch.Proofs.Verdict.Unknown
import Vouch.Proofs.Verdict.Unrelated
import Vouch.Rehearsal.Schedule
import Vouch.Rehearsal.Script
import Vouch.Rehearsal.Stage
import Vouch.Rehearsal.World
import Vouch.Report
import Vouch.Report.Normal
import Vouch.Report.Text
import Vouch.Signature.Record
import Vouch.Signature.Status
import Vouch.Text.Ascii
import Vouch.Text.Blank
import Vouch.Text.Fold
import Vouch.Text.Percent
import Vouch.Text.Plain
import Vouch.Text.Quoted
import Vouch.Text.Search
import Vouch.Time.Date
import Vouch.Time.Instant
import Vouch.Time.Stamp
import Vouch.Time.Written
import Vouch.Time.Zone
import Vouch.Url.Basic
import Vouch.Url.Domain
import Vouch.Url.Flaw
import Vouch.Url.Form
import Vouch.Url.Host
import Vouch.Url.Ipv4
import Vouch.Url.Ipv6
import Vouch.Url.Punycode
import Vouch.Verdict
import Vouch.Version
import Vouch.Yaml.Conform
import Vouch.Yaml.Cursor
import Vouch.Yaml.Node
import Vouch.Yaml.Scalar
import Vouch.Yaml.Token
