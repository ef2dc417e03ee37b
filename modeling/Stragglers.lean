import Stragglers.Backoff
import Stragglers.Benign
import Stragglers.Detection
import Stragglers.Duration
import Stragglers.Failure
import Stragglers.Json.Reading
import Stragglers.Json.Value
import Stragglers.Notice
import Stragglers.Policy.Basic
import Stragglers.Policy.Description
import Stragglers.Proc.FileTree
import Stragglers.Proc.Path
import Stragglers.Proc.Stat
import Stragglers.Proc.Threads
import Stragglers.Proofs.Agreement
import Stragglers.Proofs.Attempts
import Stragglers.Proofs.Benign
import Stragglers.Proofs.EntryPoints
import Stragglers.Proofs.Excuses
import Stragglers.Proofs.FirstMatch
import Stragglers.Proofs.FurtherRules
import Stragglers.Proofs.Json.Extent
import Stragglers.Proofs.Json.Grammar
import Stragglers.Proofs.Json.Reading
import Stragglers.Proofs.Json.Scalars
import Stragglers.Proofs.Json.Writing
import Stragglers.Proofs.LargerBudget
import Stragglers.Proofs.Log
import Stragglers.Proofs.Nested
import Stragglers.Proofs.Notices
import Stragglers.Proofs.Pauses
import Stragglers.Proofs.Proc.Baseline
import Stragglers.Proofs.Proc.Benign
import Stragglers.Proofs.Proc.Reading
import Stragglers.Proofs.Proc.Snapshot
import Stragglers.Proofs.Proc.StateLetter
import Stragglers.Proofs.Proc.ThreadName
import Stragglers.Proofs.Proc.Threads
import Stragglers.Proofs.Registry
import Stragglers.Proofs.Report.Export
import Stragglers.Proofs.Report.Lines
import Stragglers.Proofs.Report.Truncation
import Stragglers.Proofs.Retries
import Stragglers.Proofs.Scenario.Runs
import Stragglers.Proofs.Settings
import Stragglers.Proofs.Task.Json
import Stragglers.Proofs.Task.Parts
import Stragglers.Proofs.Task.Spellings
import Stragglers.Proofs.Text.Pattern
import Stragglers.Proofs.TopFunction
import Stragglers.Proofs.Tracking.Annotation
import Stragglers.Proofs.Tracking.Baseline
import Stragglers.Proofs.Tracking.Benign
import Stragglers.Proofs.Tracking.Current
import Stragglers.Proofs.Tracking.HeldOnce
import Stragglers.Proofs.Tracking.Holding
import Stragglers.Proofs.Tracking.Interference
import Stragglers.Proofs.Tracking.Invariant
import Stragglers.Proofs.Tracking.Isolation
import Stragglers.Proofs.Tracking.Kinds
import Stragglers.Proofs.Tracking.Lifetime
import Stragglers.Proofs.Tracking.Once
import Stragglers.Proofs.Tracking.Polling
import Stragglers.Proofs.Tracking.Restored
import Stragglers.Proofs.Tracking.Scoped
import Stragglers.Proofs.Tracking.Slots
import Stragglers.Proofs.Tracking.SpawnFrames
import Stragglers.Proofs.Tracking.States
import Stragglers.Proofs.Tracking.Step
import Stragglers.Proofs.Verdict
import Stragglers.Proofs.Widening
import Stragglers.Report.Basic
import Stragglers.Report.Export
import Stragglers.Rule
import Stragglers.Rule.Named
import Stragglers.Scenario.Basic
import Stragglers.Scenario.Perform
import Stragglers.Scenario.Polls
import Stragglers.Setting
import Stragglers.Source
import Stragglers.Task.Basic
import Stragglers.Task.Json
import Stragglers.Task.Names
import Stragglers.Text.Blank
import Stragglers.Text.Decimal
import Stragglers.Text.Extending
import Stragglers.Text.Pattern
import Stragglers.Text.Quoted
import Stragglers.Text.Search
import Stragglers.Text.Unprintable
import Stragglers.Trace
import Stragglers.Tracking.Basic
import Stragglers.Tracking.Registry
import Stragglers.Tracking.SpawnFrames
