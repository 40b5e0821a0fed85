import PushBench.Adapter.Counting
import PushBench.Adapter.Faulty
import PushBench.Adapter.Session
import PushBench.Main
import PushBench.Proofs.Adapter.Released
import PushBench.Proofs.Sampling.Accounting
import PushBench.Proofs.Suite.Isolation
import PushBench.Proofs.Workload.Discipline
import PushBench.Sampling.Steps
import PushBench.Suite.Json
import PushBench.Suite.Rehearsal
import PushBench.Proofs.Suite.Trace
import PushBench.Proofs.Suite.Order
import PushBench.Proofs.Adapter.Counting
import PushBench.Proofs.Json.Number
import PushBench.Proofs.Json.Grammar
import PushBench.Proofs.Number.Magnitude
import PushBench.Proofs.Json.Field
import PushBench.Proofs.Suite.Json
import PushBench.Proofs.Report.Json
import PushBench.Proofs.Suite.Surroundings
import PushBench.Proofs.Report.Console
import PushBench.Proofs.Workload.LeakFreedom
import PushBench.Proofs.CommandLine.Listing
import PushBench.Proofs.CommandLine.Reporting
import PushBench.Proofs.Filter.Plan
import PushBench.Proofs.Registry.Names
import PushBench.Proofs.Suite.Check
import PushBench.Proofs.Workload.Regularity
import PushBench.Proofs.Suite.Agreement
import PushBench.Proofs.Workload.Standard
import PushBench.Proofs.Suite.Alike
import PushBench.Proofs.Suite.Precheck
import PushBench.Proofs.Number.Exact
import PushBench.Proofs.Statistics.Constant
import PushBench.Proofs.Sampling.Progress
import PushBench.Proofs.Sampling.Steady
import PushBench.Proofs.Suite.Fastest
import PushBench.Proofs.Suite.Cheapest
import PushBench.Proofs.Workload.FirstError
import PushBench.Proofs.Sampling.Row
import PushBench.Proofs.Sampling.Interleaving
import PushBench.Proofs.Suite.FirstFailure
import PushBench.Proofs.Adapter.Nested
import PushBench.Proofs.Suite.Equivalence
import PushBench.Proofs.Sampling.Uniform
import PushBench.Proofs.CommandLine.Overriding
import PushBench.Proofs.Workload.Limits
import PushBench.Proofs.Number.Value
import PushBench.Proofs.Number.Nearest
import PushBench.Proofs.Number.Rounding
import PushBench.Proofs.Number.Literal
import PushBench.Proofs.Text.Blank
import PushBench.Proofs.Settings.Duration
import PushBench.Proofs.Settings.Nanoseconds
import PushBench.Proofs.Number.Order
import PushBench.Proofs.Suite.Choice
import PushBench.Proofs.Suite.Measured
import PushBench.Proofs.Suite.Ranking
import PushBench.Proofs.Report.Totals
import PushBench.Proofs.Settings.Defaults
import PushBench.Proofs.CommandLine.Layering
import PushBench.Proofs.Settings.Discovery
import PushBench.Proofs.Statistics.Percentile
import PushBench.Proofs.Statistics.Critical
import PushBench.Proofs.Statistics.Moments
import PushBench.Proofs.Statistics.Ranks
import PushBench.Proofs.Statistics.Summary
import PushBench.Proofs.Statistics.Settling
import PushBench.Proofs.Number.Places
import PushBench.Proofs.Report.Thousands
