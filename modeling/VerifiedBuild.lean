import VerifiedBuild.Application
import VerifiedBuild.Rehearsal
import VerifiedBuild.Main
import VerifiedBuild.Proofs.Run
import VerifiedBuild.Proofs.Succession
import VerifiedBuild.Proofs.Verification.Course
import VerifiedBuild.Proofs.Verification.Units
import VerifiedBuild.Proofs.Make.Program
import VerifiedBuild.Proofs.Make.Flat
import VerifiedBuild.Proofs.Make.Gate
import VerifiedBuild.Proofs.Interruption
import VerifiedBuild.Proofs.Make.Coverage
import VerifiedBuild.Proofs.Requests
import VerifiedBuild.Proofs.Make.Generation
import VerifiedBuild.Proofs.Make.Keys
import VerifiedBuild.Proofs.Make.Places
import VerifiedBuild.Proofs.Make.Composition
import VerifiedBuild.Proofs.Parallel
import VerifiedBuild.Proofs.Make.Tally
import VerifiedBuild.Proofs.Make.Reporting
import VerifiedBuild.Proofs.Make.Endings
import VerifiedBuild.Proofs.Starting
import VerifiedBuild.Proofs.Reporting
import VerifiedBuild.Proofs.Metrics
import VerifiedBuild.Proofs.Make.Phases
import VerifiedBuild.Proofs.Make.Stages
import VerifiedBuild.Proofs.Make.Counters
import VerifiedBuild.Proofs.Make.Completion
import VerifiedBuild.Proofs.Make.Metrics
import VerifiedBuild.Proofs.Json.Report
import VerifiedBuild.Proofs.Options.Order
import VerifiedBuild.Proofs.Options.Range
import VerifiedBuild.Proofs.Aggregate.Order
import VerifiedBuild.Proofs.Make.Fate
import VerifiedBuild.Proofs.ErrorLog
import VerifiedBuild.Proofs.Aggregate.Verdict
import VerifiedBuild.Proofs.Snapshot.Search
import VerifiedBuild.Proofs.Console
import VerifiedBuild.Proofs.Diagnostic
import VerifiedBuild.Proofs.Trailer
import VerifiedBuild.Proofs.Inputs.Partition
import VerifiedBuild.Proofs.Make.Orders
import VerifiedBuild.Proofs.Make.Build
import VerifiedBuild.Proofs.Store.Buffering
import VerifiedBuild.Proofs.Make.Refusal
import VerifiedBuild.Proofs.Text.Assignment
import VerifiedBuild.Proofs.Text.Lines
import VerifiedBuild.Proofs.Store.Resolution
import VerifiedBuild.Proofs.Make.Names
import VerifiedBuild.Proofs.Verification.Files
import VerifiedBuild.Proofs.Elapsed
