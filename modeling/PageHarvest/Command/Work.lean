import PageHarvest.Command.Console
import PageHarvest.Config.Reader
import PageHarvest.Service

/-!
# Working until told to stop

The program that does the jobs: it reads its configuration, opens the console, connects to the place
that the jobs come from, and works until it is told to stop.
-/

namespace PageHarvest.Command

open Log

/-- An event of the program. -/
def workEvent (message : String) (fields : Fields) : Entry :=
  .event ⟨.info, "scraper_worker", message, fields⟩ []

/-- What the program works with. -/
structure Workplace (τ : Type) where
  connect : String → Except Failure τ
  /-- What is done before the first job if it is wanted. -/
  migrate : τ → Except Failure Unit × τ
  leasing : Leasing τ
  /-- A bound for the number of jobs that are pending. -/
  pending : τ → Nat
  web : Web
  now : Time.Instant
  /-- When the program is told to stop. -/
  stop : Time.Span

/-- The site after the jobs done until the program is told to stop. -/
def Workplace.run {τ : Type} (p : Workplace τ) (c : Config) (name : String) (jobs : τ) :
    Worker.Site τ Service.World :=
  let site := (Service.worker c name).run p.leasing (Service.handler p.web c) p.now p.stop
    (p.pending jobs) { queue := jobs, world := {}, log := Service.readyEntries c }
  site.say [workEvent "Received shutdown signal, finishing current job" [],
    workEvent "Scraper worker exited" []]

/-- The place prepared as far as that is wanted, and what is said about it. -/
def Workplace.prepare {τ : Type} (p : Workplace τ) (c : Config) (jobs : τ) :
    Except Failure (List Entry) × τ :=
  if c.runMigrations then
    match p.migrate jobs with
    | (.error e, jobs) => (.error (e.during "Failed to run migrations"), jobs)
    | (.ok (), jobs) => (.ok [workEvent "Migrations applied" []], jobs)
  else (.ok [], jobs)

/-- The program, from its variables, and the site after it; `generated` is the name of a worker that
is not given one. -/
def work {τ : Type} (p : Workplace τ) (generated : String) (env : Config.Variables) :
    Outcome × Option (Worker.Site τ Service.World) :=
  match Config.ofVariables env with
  | .error e => (.ofFailure e.failure, none)
  | .ok c =>
    let name := c.workerId.getD generated
    let (console, said) := Console.start c.observability (env "RUST_LOG")
    let said := said ++ [workEvent "Starting scraper worker" [("worker_id", .shown name)]]
    let failed (e : Failure) : Outcome :=
      { Outcome.ofFailure e with log := console.lines said, format := console.format }
    match p.connect c.databaseUrl with
    | .error e => (failed (e.during "Failed to connect to Postgres"), none)
    | .ok jobs =>
      match p.prepare c jobs with
      | (.error e, jobs) => (failed e, some { queue := jobs, world := {} })
      | (.ok prepared, jobs) =>
        let site := p.run c name jobs
        ({ exitCode := 0
           log := console.lines (said ++ prepared ++ site.log)
           format := console.format }, some site)

end PageHarvest.Command
