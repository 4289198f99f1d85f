import RuleScan.Cache.Block
import RuleScan.Cache.Store
import RuleScan.Channel
import RuleScan.CommandLine.Arguments
import RuleScan.CachedScanner
import RuleScan.CommandLine.Run
import RuleScan.Config
import RuleScan.ConfigFile
import RuleScan.Decimal.Binary
import RuleScan.Decimal.Layout
import RuleScan.Decimal.Shortest
import RuleScan.Dictionary
import RuleScan.Digest.Block
import RuleScan.Digest.Checksum
import RuleScan.Digest.Md5
import RuleScan.Digest.Sha
import RuleScan.Duration
import RuleScan.Engine
import RuleScan.ExternalValue
import RuleScan.Failure
import RuleScan.Files.Basic
import RuleScan.Files.Walk
import RuleScan.Findings.Basic
import RuleScan.Findings.Document
import RuleScan.Findings.Listing
import RuleScan.Json.Decoder
import RuleScan.Json.Fault
import RuleScan.Json.Schema
import RuleScan.Json.Token
import RuleScan.Json.Value
import RuleScan.Main
import RuleScan.Pacing
import RuleScan.Plugin.Basic
import RuleScan.Plugin.Patterns
import RuleScan.Plugin.Registry
import RuleScan.Proofs.Action
import RuleScan.Proofs.Cache.Block
import RuleScan.Proofs.Cache.Latest
import RuleScan.Proofs.Cache.Store
import RuleScan.Proofs.Files.Tree
import RuleScan.Proofs.Files.Paths
import RuleScan.Proofs.Files.Directories
import RuleScan.Proofs.Files.Plain
import RuleScan.Proofs.Scan.Bracket
import RuleScan.Proofs.Scan.Plugins
import RuleScan.Proofs.Scan.Reference
import RuleScan.Proofs.Scan.Visits
import RuleScan.Proofs.Session.Lifecycle
import RuleScan.Proofs.Session.Operation
import RuleScan.Proofs.Session.SourceCount
import RuleScan.Regex.Anchored
import RuleScan.Regex.Ast
import RuleScan.Regex.Expr
import RuleScan.Regex.Fault
import RuleScan.Regex.Program
import RuleScan.Regex.Reader
import RuleScan.Regex.Search
import RuleScan.Rules.Compiler
import RuleScan.Rules.ConditionReader
import RuleScan.Rules.Draft
import RuleScan.Rules.Engine
import RuleScan.Rules.Evaluation
import RuleScan.Rules.Fault
import RuleScan.Rules.Included
import RuleScan.Rules.Module
import RuleScan.Rules.Packed
import RuleScan.Rules.Pattern
import RuleScan.Rules.PatternReader
import RuleScan.Rules.RuleSet
import RuleScan.Rules.Script
import RuleScan.Rules.SourceReader
import RuleScan.Rules.Syntax
import RuleScan.Rules.Token
import RuleScan.Rules.Toolchain
import RuleScan.Rules.Typing
import RuleScan.Rules.Value
import RuleScan.Scanner
import RuleScan.Scripted
import RuleScan.Session
import RuleScan.Shared
import RuleScan.Text.Blank
import RuleScan.Text.Bytes
import RuleScan.Text.Numeral
import RuleScan.Text.Quoted
import RuleScan.Text.RangeSet
import RuleScan.Text.Utf8
import RuleScan.Trace
import RuleScan.Unicode.Age
import RuleScan.Unicode.CaseFold
import RuleScan.Unicode.Category
import RuleScan.Unicode.Property
import RuleScan.Unicode.Query
import RuleScan.Unicode.Script
import RuleScan.Unicode.ScriptExtension
import RuleScan.Proofs.Rules.Namespace
import RuleScan.Proofs.Scan.Emptiness
import RuleScan.Proofs.Session.Misuse
import RuleScan.Proofs.Session.Namespace
import RuleScan.Proofs.Turns
import RuleScan.Proofs.Carries
import RuleScan.Proofs.Scan.Steps
import RuleScan.Proofs.Scan.Threads
import RuleScan.Proofs.Scan.Interleaving
import RuleScan.Proofs.Scan.Policies
import RuleScan.Proofs.Scan.Batch
import RuleScan.Guarded
import RuleScan.Proofs.Scan.Poison
import RuleScan.Rules.Worker
import RuleScan.Proofs.Rules.Sequential
import RuleScan.Proofs.Rules.Worker
import RuleScan.Proofs.Rules.Schedule
import RuleScan.Proofs.Session.Timeout
import RuleScan.Proofs.Cache.Restored
import RuleScan.Proofs.CommandLine.Job
import RuleScan.Proofs.CommandLine.Cached
import RuleScan.Proofs.Json.Tree
import RuleScan.Proofs.Json.Written
import RuleScan.Proofs.Json.Printed
import RuleScan.Proofs.Findings.Documents
import RuleScan.Proofs.Json.Members
import RuleScan.Proofs.Config.Pace
import RuleScan.Proofs.Config.Arrangement
import RuleScan.Proofs.Shared.Once
import RuleScan.Proofs.Pacing.Interruption
import RuleScan.Proofs.Plugin.Registration
import RuleScan.Proofs.Scan.BatchSteps
import RuleScan.Proofs.Pacing.Notices
import RuleScan.Proofs.Pacing.Tokens
import RuleScan.Proofs.Plugin.Isolation
import RuleScan.Proofs.Regex.Matches
import RuleScan.Proofs.Plugin.Patterns
import RuleScan.Proofs.Files.RuleFiles
import RuleScan.Proofs.Files.Walk
import RuleScan.Proofs.Rules.Submission
import RuleScan.Proofs.Session.Mirroring
import RuleScan.Proofs.Rules.Hand
import RuleScan.Proofs.Session.Erasure
import RuleScan.Proofs.Cache.Format
import RuleScan.Proofs.Config.Durations
import RuleScan.Proofs.Pacing.Delays
import RuleScan.Proofs.Text.Splitting
import RuleScan.Proofs.Session.PathLists
import RuleScan.Proofs.Findings.Merging
import RuleScan.Proofs.Plugin.Replacement
import RuleScan.Proofs.Text.Numerals
import RuleScan.Proofs.ExternalValue
import RuleScan.Proofs.CommandLine.Course
