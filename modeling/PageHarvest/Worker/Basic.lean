import PageHarvest.Worker.Handler
import PageHarvest.Queue.Leasing

/-!
# Workers

A worker leases a job, has it done and reports how it ended, and then asks for the next one.  When
there is none, or the queue does not answer, it pauses.  It can be told to stop: it then leases no
more jobs, but brings the one it has to its end.
-/

namespace PageHarvest

open Log

/-- A worker. -/
structure Worker where
  name : String
  /-- The pause when there is no job. -/
  pollInterval : Time.Span := .ofSeconds 1
  /-- The pause when the queue does not answer. -/
  errorBackoff : Time.Span := .ofSeconds 5

namespace Worker

/-- What came of asking for a job. -/
inductive Polled
  | processed (id : Uuid)
  | idle
  | queueError
  deriving DecidableEq, Repr

/-- The state of what a worker works with: where its jobs come from and the world in which they are
done, the time that has passed, and the log. -/
structure Site (τ σ : Type) where
  queue : τ
  world : σ
  elapsed : Time.Span := ⟨0⟩
  log : List Entry := []

namespace Site

variable {τ σ : Type}

/-- The site with more entries in its log. -/
def say (s : Site τ σ) (entries : List Entry) : Site τ σ := { s with log := s.log ++ entries }

/-- The site some time later. -/
def wait (s : Site τ σ) (pause : Time.Span) : Site τ σ :=
  { s with elapsed := ⟨s.elapsed.nanos + pause.nanos⟩ }

end Site

/-- The part of the program that workers are, as it is called in the log. -/
def target : String := "scraper_core::kernel::jobs::worker"

/-- An event of a worker. -/
def event (level : Level) (message : String) (fields : Fields) : Entry :=
  .event ⟨level, target, message, fields⟩ []

/-- An identifier as it is shown. -/
def shown (id : Uuid) : Value := .shown (String.ofList id.toText)

/-- The span that a job is done in.  It continues the trace that the job comes from, unless what the
job says about that is not the position in any. -/
def span (job : Job) : Span where
  target := target
  name := "scrape_job"
  fields :=
    [("otel.kind", .quoted "consumer"), ("job.id", shown job.id), ("job.url", .shown job.url),
     ("job.owner_id", shown job.owner), ("job.attempt", .number job.attempts)]
  parent := job.traceContext.bind fun t => TraceParent.ofText? t.toList

variable {τ σ : Type}

/-- The report on a job, and what is said about it. -/
def report (leasing : Leasing τ) (now : Time.Instant) (job : Job)
    (outcome : Except Failure String) (queue : τ) : τ × List Entry :=
  match outcome with
  | .ok key =>
    let said := event .info "job completed" [("job_id", shown job.id), ("result_key", .shown key)]
    match leasing.complete now job.id key queue with
    | (.ok (), queue, entries) => (queue, said :: entries)
    | (.error e, queue, entries) =>
      (queue, said :: entries ++ [event .error "failed to mark job as completed"
        [("job_id", shown job.id), ("error", .shown e.what)]])
  | .error failure =>
    let said := event .warn "job failed"
      [("job_id", shown job.id), ("error", .shown failure.text)]
    match leasing.fail now job.id failure.text queue with
    | (.ok (), queue, entries) => (queue, said :: entries)
    | (.error e, queue, entries) =>
      (queue, said :: entries ++ [event .error "failed to mark job as failed"
        [("job_id", shown job.id), ("error", .shown e.what)]])

/-- A leased job done and reported on. -/
def process (leasing : Leasing τ) (handler : Handler σ) (now : Time.Instant) (job : Job)
    (s : Site τ σ) : Site τ σ :=
  let handled := handler job s.world
  let (queue, said) := report leasing now job handled.outcome s.queue
  { queue
    world := handled.world
    elapsed := ⟨s.elapsed.nanos + handled.took.nanos⟩
    log := s.log ++ spanning (span job)
      (event .info "processing job" [("job_id", shown job.id), ("url", .shown job.url),
        ("attempt", .number job.attempts)] :: handled.log ++ said) }

/-- A job asked for, and done if there is one. -/
def poll (w : Worker) (leasing : Leasing τ) (handler : Handler σ) (now : Time.Instant)
    (s : Site τ σ) : Polled × Site τ σ :=
  match leasing.acquire now s.queue with
  | (.ok (some job), queue) => (.processed job.id, process leasing handler now job { s with queue })
  | (.ok none, queue) => (.idle, { s with queue })
  | (.error e, queue) =>
    (.queueError, { s with queue }.say [event .error "failed to acquire job"
      [("worker_id", .shown w.name), ("error", .shown e.what)]])

/-- Jobs asked for until there is none, at most `n` times. -/
def drain (w : Worker) (leasing : Leasing τ) (handler : Handler σ) (now : Time.Instant) :
    Nat → Site τ σ → List Polled × Site τ σ
  | 0, s => ([], s)
  | n + 1, s =>
    match w.poll leasing handler now s with
    | (.idle, s) => ([.idle], s)
    | (polled, s) =>
      let (later, s) := drain w leasing handler now n s
      (polled :: later, s)

/-- The pause after asking for a job; there is none after a job. -/
def pause (w : Worker) : Polled → Option Time.Span
  | .processed _ => none
  | .idle => some w.pollInterval
  | .queueError => some w.errorBackoff

/-- One round: a job asked for, and the pause.  A pause ends when the worker is told to stop. -/
def round (w : Worker) (leasing : Leasing τ) (handler : Handler σ) (now : Time.Instant)
    (stop : Time.Span) (s : Site τ σ) : Site τ σ :=
  match w.poll leasing handler now s with
  | (polled, s) =>
    match w.pause polled with
    | none => s
    | some pause =>
      let s := s.say [event .debug "waiting before next poll"
        [("pause_ms", .number (pause.millis % Number.beyondBits 64))]]
      s.wait ⟨min pause.nanos (stop.nanos - s.elapsed.nanos)⟩

/-- At most `n` rounds, up to the time at which the worker is told to stop. -/
def rounds (w : Worker) (leasing : Leasing τ) (handler : Handler σ) (now : Time.Instant)
    (stop : Time.Span) : Nat → Site τ σ → Site τ σ
  | 0, s => s
  | n + 1, s =>
    if stop.nanos ≤ s.elapsed.nanos then s
    else rounds w leasing handler now stop n (w.round leasing handler now stop s)

/-- The site with the word that the worker starts. -/
def start (w : Worker) (s : Site τ σ) : Site τ σ :=
  s.say [event .info "job worker starting" [("worker_id", .shown w.name),
    ("poll_interval_ms", .number (w.pollInterval.millis % Number.beyondBits 64))]]

/-- The worker runs until it is told to stop.  A round takes time unless it does one of the jobs that
are pending, so the nanoseconds and the jobs bound the number of rounds. -/
def run (w : Worker) (leasing : Leasing τ) (handler : Handler σ) (now : Time.Instant)
    (stop : Time.Span) (pending : Nat) (s : Site τ σ) : Site τ σ :=
  let s := w.start s
  let s := w.rounds leasing handler now ⟨s.elapsed.nanos + stop.nanos⟩ (stop.nanos + pending) s
  s.say [event .info "job worker stopped" [("worker_id", .shown w.name)]]

end Worker

end PageHarvest
