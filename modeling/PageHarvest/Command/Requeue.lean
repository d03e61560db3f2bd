import PageHarvest.Command.Console
import PageHarvest.Command.Options
import PageHarvest.Config.Reader
import PageHarvest.Json.Value
import PageHarvest.Queue.Leasing

/-!
# Taking back stale leases

A worker that is gone leaves its job as it is.  This program counts the jobs whose leases are older
than an age and, unless it is to change nothing, puts them back into the queue.
-/

namespace PageHarvest.Command

open Json

/-- What has been done. -/
structure RequeueReport where
  olderThan : Nat
  stale : Nat
  requeued : Nat
  dryRun : Bool
  deriving DecidableEq, Repr

/-- The report as text. -/
def RequeueReport.toText (r : RequeueReport) : String :=
  String.ofList (Value.write (.record
    [("older_than_secs", .int r.olderThan), ("stale", .int r.stale),
     ("requeued", .int r.requeued), ("dry_run", .bool r.dryRun)]))

/-- The age from which on a lease is stale, if nothing else is said, in seconds. -/
def defaultAge : Nat := 3600

/-- Stale leases counted and taken back, and what is said about that. -/
def requeueStale {σ : Type} (upkeep : Upkeep σ) (now : Time.Instant) (olderThan : Nat)
    (dryRun : Bool) (jobs : σ) : Except Failure RequeueReport × σ × List Log.Entry :=
  let age := Time.Span.ofSeconds olderThan
  match upkeep.countStale now age jobs with
  | (.error e, jobs) => (.error e, jobs, [])
  | (.ok stale, jobs) =>
    if dryRun then (.ok ⟨olderThan, stale, 0, true⟩, jobs, [])
    else
      match upkeep.requeueStale now age jobs with
      | (.error e, jobs, said) => (.error e, jobs, said)
      | (.ok requeued, jobs, said) => (.ok ⟨olderThan, stale, requeued, false⟩, jobs, said)

/-- What is shown of the log if nothing else is wanted. -/
def requeueFilter : String := "warn"

/-- The program, from its variables and arguments, and the jobs after it. -/
def requeue {σ : Type} (connect : String → Except Failure σ) (upkeep : Upkeep σ)
    (now : Time.Instant) (env : Config.Variables) (arguments : List String) :
    Outcome × Option σ :=
  match Options.ofArguments arguments with
  | .error .help => ({ exitCode := 0, stdout := help (env "DATABASE_URL") }, none)
  | .error e => ({ exitCode := 2, stderr := ["error: " ++ e.message] }, none)
  | .ok o =>
    match o.databaseUrl.or (env "DATABASE_URL") with
    | none => ({ exitCode := 2, stderr := ["error: " ++ UsageError.incomplete.message] }, none)
    | some address =>
      match connect address with
      | .error e => (.ofFailure (e.during "Failed to connect to Postgres"), none)
      | .ok jobs =>
        let filter := Console.filterOf (env "RUST_LOG") requeueFilter
        match requeueStale upkeep now (o.olderThan.getD defaultAge) o.dryRun jobs with
        | (.error e, jobs, said) => ({ Outcome.ofFailure e with log := filter.lines said }, some jobs)
        | (.ok report, jobs, said) =>
          ({ exitCode := 0, stdout := [report.toText], log := filter.lines said }, some jobs)

end PageHarvest.Command
