import ClauseAudit.Main
import ClauseAudit.Table.Write
import ClauseAudit.Time.Reader
import ClauseAudit.Time.ZoneName
import ClauseAudit.Proofs.Aligned
import ClauseAudit.Proofs.Outcome
import ClauseAudit.Proofs.Text.Blank
import ClauseAudit.Proofs.Text.Lines
import ClauseAudit.Proofs.Text.Case
import ClauseAudit.Proofs.Rule.Literal
import ClauseAudit.Proofs.Rule.Flags
import ClauseAudit.Proofs.Rule.Severity
import ClauseAudit.Proofs.Rule.Wire
import ClauseAudit.Proofs.Language.Grammar
import ClauseAudit.Proofs.Language.Step
import ClauseAudit.Proofs.Language.Acceptance
import ClauseAudit.Proofs.Language.Writing
import ClauseAudit.Proofs.Language.RoundTrip
import ClauseAudit.Proofs.Language.Entry
import ClauseAudit.Proofs.Assessment.Simulation
import ClauseAudit.Proofs.Report.Record
import ClauseAudit.Proofs.Rule.Refusal
import ClauseAudit.Proofs.Language.Fault
import ClauseAudit.Proofs.Language.Refusal
import ClauseAudit.Proofs.Language.Completion
import ClauseAudit.Proofs.Assessment.Findings
import ClauseAudit.Proofs.Number.Shortest
import ClauseAudit.Proofs.Json.Scalar
import ClauseAudit.Proofs.Json.RoundTrip
import ClauseAudit.Proofs.Json.Canonical
import ClauseAudit.Proofs.Api.TwoStep
import ClauseAudit.Proofs.Rule.Fingerprint
import ClauseAudit.Proofs.Text.LineEnds
import ClauseAudit.Proofs.Text.Utf8
import ClauseAudit.Proofs.Batch.Artifact
import ClauseAudit.Proofs.Batch.OutputName
import ClauseAudit.Proofs.Files.Path
import ClauseAudit.Proofs.Files.Tree
import ClauseAudit.Proofs.Files.Glob
import ClauseAudit.Proofs.Batch.Turns
import ClauseAudit.Proofs.Batch.Course
import ClauseAudit.Proofs.Batch.Outputs
import ClauseAudit.Proofs.Batch.PolicyRun
import ClauseAudit.Proofs.Rule.WellFormed
import ClauseAudit.Proofs.Text.Paragraphs
import ClauseAudit.Proofs.Contract.Segmentation
import ClauseAudit.Proofs.Assessment.Evaluation
import ClauseAudit.Proofs.Assessment.Composition
import ClauseAudit.Proofs.Report.Counts
import ClauseAudit.Proofs.Assessment.Order
import ClauseAudit.Proofs.Assessment.Addition
import ClauseAudit.Proofs.Assessment.Splitting
import ClauseAudit.Proofs.Report.Totals
import ClauseAudit.Proofs.Language.Layout
import ClauseAudit.Proofs.Language.Concatenation
import ClauseAudit.Proofs.Text.LowerCase
import ClauseAudit.Proofs.Regex.Attempt
import ClauseAudit.Proofs.Rule.LiteralPattern
import ClauseAudit.Proofs.Assessment.Citation
import ClauseAudit.Proofs.Regex.Words
import ClauseAudit.Proofs.Contract.Typing
import ClauseAudit.Proofs.Contract.LineEnds
import ClauseAudit.Proofs.Table.Csv
import ClauseAudit.Proofs.Table.Exact
import ClauseAudit.Proofs.Json.Lines
import ClauseAudit.Proofs.Report.Exports
import ClauseAudit.Proofs.Language.OneLine
import ClauseAudit.Proofs.Report.Narrative
import ClauseAudit.Proofs.Naming.Spelling
import ClauseAudit.Proofs.Naming.Slug
import ClauseAudit.Proofs.Command.Reports
import ClauseAudit.Proofs.Time.Order
import ClauseAudit.Proofs.Settings.Directories
import ClauseAudit.Proofs.Settings.Mark
import ClauseAudit.Proofs.Logging.Names
import ClauseAudit.Proofs.Logging.Links
import ClauseAudit.Proofs.Logging.Setups
import ClauseAudit.Proofs.Logging.Course
import ClauseAudit.Proofs.Logging.Record
import ClauseAudit.Proofs.Logging.Writing
