import Census.Main
import Census.NameSet
import Census.Issue.Json
import Census.Check.Script
import Census.Rule.Description
import Census.Proofs.Keyed
import Census.Proofs.Run.Interleaving
import Census.Proofs.Distinct
import Census.Proofs.Ledger
import Census.Proofs.Registry
import Census.Proofs.Run.Ledger
import Census.Proofs.Report
import Census.Proofs.Compilation
import Census.Proofs.Run.Exact
import Census.Proofs.Run.Isolation
import Census.Proofs.Amendment
import Census.Proofs.Publications
import Census.Proofs.Publications.Independence
import Census.Proofs.Changes
import Census.Proofs.Table
import Census.Proofs.Check.Standard
import Census.Proofs.Catalog
import Census.Proofs.Csv.RoundTrip
import Census.Proofs.Json.RoundTrip
import Census.Proofs.Text.Utf8
import Census.Proofs.Text.Fold
import Census.Proofs.Files.Path
import Census.Proofs.Files.Tree
import Census.Proofs.Files.Walk
import Census.Proofs.Submission
import Census.Proofs.Submission.Calls
import Census.Proofs.Host
import Census.Proofs.Findings
import Census.Proofs.Loading
import Census.Proofs.Writing
import Census.Proofs.Report.Document
import Census.Proofs.Validation
import Census.Proofs.CommandLine.Status
import Census.Proofs.Number.Integer
import Census.Proofs.Number.Positional
import Census.Proofs.Calendar.DayNumber
import Census.Proofs.Calendar.IsoDate
import Census.Proofs.Calendar.Text
import Census.Proofs.Check.Flags
import Census.Proofs.Check.Repetitions
import Census.Proofs.Check.References
import Census.Proofs.Cell
import Census.Proofs.Check.Refusals
import Census.Proofs.Report.Fields
import Census.Proofs.Draft
import Census.Proofs.Registry.Discovery
import Census.Proofs.Registry.Workshop
import Census.Proofs.Json.Grammar
import Census.Proofs.Json.Literal
import Census.Proofs.Issue.Json
import Census.Proofs.Table
import Census.Proofs.Submission.Calls
