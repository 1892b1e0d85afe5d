import LinkRouting.Main
import LinkRouting.Proofs.Config.Reach
import LinkRouting.Proofs.Dispatch.Calls
import LinkRouting.Proofs.Dispatch.Course
import LinkRouting.Proofs.Dispatch.Query
import LinkRouting.Proofs.Gauge
import LinkRouting.Proofs.Matching.Building
import LinkRouting.Proofs.Pattern.Choice
import LinkRouting.Proofs.Scenario
import LinkRouting.Proofs.Matching.Slashes
import LinkRouting.Proofs.Query
import LinkRouting.Proofs.Dispatch.PathOnly
import LinkRouting.Proofs.Noting
import LinkRouting.Proofs.Pairing
import LinkRouting.Proofs.Recasing
import LinkRouting.Proofs.Resuming
import LinkRouting.Proofs.Counting
import LinkRouting.Proofs.Tally
import LinkRouting.Proofs.Matching.Fitting
import LinkRouting.Proofs.Pattern.Grammar
import LinkRouting.Proofs.Pattern.Recompiling
import LinkRouting.Proofs.Dispatch.Offer
import LinkRouting.Proofs.Cli.Agreement
import LinkRouting.Proofs.Pattern.Regrouping
import LinkRouting.Proofs.Query.Values
import LinkRouting.Proofs.Request.Fragment
import LinkRouting.Proofs.Url.Host
import LinkRouting.Proofs.Request.Host
import LinkRouting.Proofs.Registration
import LinkRouting.Proofs.Withdrawal
import LinkRouting.Proofs.Config.Reporting
import LinkRouting.Proofs.Config.Flaws
import LinkRouting.Proofs.Spelling
import LinkRouting.Proofs.Params
import LinkRouting.Proofs.Dispatch.Absence
import LinkRouting.Proofs.Pattern.Enumeration
