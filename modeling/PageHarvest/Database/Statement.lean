import PageHarvest.Job.Basic
import PageHarvest.Text.Blank
import PageHarvest.Time.Span

/-!
# Statements

What a database is told about its table of jobs.  A `Statement` is a text with numbered gaps, and the
values for the gaps.
-/

namespace PageHarvest.Database

/-- A value for a gap. -/
inductive Parameter
  | null
  | uuid (id : Uuid)
  | text (s : String)
  | time (t : Time.Instant)
  deriving DecidableEq, Repr

/-- A text that may be missing. -/
def Parameter.ofText? (s : Option String) : Parameter := s.elim null text

/-- The instant in whole microseconds, the others cut off towards the beginning of 2000. -/
def wholeMicros (t : Time.Instant) : Time.Instant :=
  let origin : Int := 946684800 * Time.nanosPerSecond
  (Time.Instant.ofNanos? (origin + (t.nanos - origin).tdiv 1000 * 1000)).getD t

/-- Something that a database is told. -/
structure Statement where
  text : String
  parameters : List Parameter := []
  deriving DecidableEq, Repr

namespace Statement

/-- The text on one line. -/
def line (s : Statement) : String := String.ofList (Text.squeeze s.text.toList)

/-- The columns of a job, in order. -/
def columns : String :=
  "id, url, owner_id, position_id, trace_context, status, attempt_count, " ++
  "result_key, error_message, created_at, started_at, updated_at"

/-- Which leases are older than an age, given in milliseconds. -/
def isStale : String :=
  "status = 'PROCESSING' AND started_at < NOW() - ($1 || ' milliseconds')::INTERVAL"

/-- A new job. -/
def enqueue (job : Job) : Statement where
  text :=
    "INSERT INTO scraper_queue (id, url, owner_id, position_id, trace_context, status, " ++
    "created_at, updated_at)\nVALUES ($1, $2, $3, $4, $5, 'PENDING', $6, $6)\nRETURNING " ++ columns
  parameters := [.uuid job.id, .text job.url, .uuid job.owner, .uuid job.position,
    .ofText? job.traceContext, .time (wholeMicros job.createdAt)]

/-- The job with this identifier. -/
def find (id : Uuid) : Statement :=
  ⟨"SELECT " ++ columns ++ " FROM scraper_queue WHERE id = $1", [.uuid id]⟩

/-- A lease on the oldest pending job that nobody else is about to lease. -/
def acquire : Statement where
  text :=
    "WITH next_job AS (\n" ++
    "  SELECT id FROM scraper_queue WHERE status = 'PENDING'\n" ++
    "  ORDER BY created_at LIMIT 1 FOR UPDATE SKIP LOCKED )\n" ++
    "UPDATE scraper_queue\n" ++
    "SET status = 'PROCESSING', started_at = NOW(), attempt_count = attempt_count + 1,\n" ++
    "  updated_at = NOW()\n" ++
    "WHERE id IN (SELECT id FROM next_job)\n" ++
    "RETURNING " ++ columns

/-- A report of success on a job that is being processed. -/
def complete (id : Uuid) (key : String) : Statement where
  text :=
    "UPDATE scraper_queue\n" ++
    "SET status = 'COMPLETED', result_key = $2, error_message = NULL, updated_at = NOW()\n" ++
    "WHERE id = $1 AND status = 'PROCESSING'"
  parameters := [.uuid id, .text key]

/-- A report of failure on a job that is being processed. -/
def fail (id : Uuid) (message : String) : Statement where
  text :=
    "UPDATE scraper_queue\n" ++
    "SET status = 'FAILED', error_message = $2, updated_at = NOW()\n" ++
    "WHERE id = $1 AND status = 'PROCESSING'"
  parameters := [.uuid id, .text message]

/-- An age in milliseconds. -/
def age (s : Time.Span) : Parameter := .text (String.ofList (Nat.toDigits 10 s.millis))

/-- How many leases are older than an age. -/
def countStale (s : Time.Span) : Statement :=
  ⟨"SELECT COUNT(*) FROM scraper_queue WHERE " ++ isStale, [age s]⟩

/-- Leases older than an age taken back. -/
def requeueStale (s : Time.Span) : Statement :=
  ⟨"UPDATE scraper_queue SET status = 'PENDING', updated_at = NOW() WHERE " ++ isStale, [age s]⟩

/-- The table of jobs made. -/
def create : Statement where
  text :=
    "-- Shared work queue for scraper workers.\n" ++
    "-- Rows are inserted by upstream services in PENDING and leased by workers.\n\n" ++
    "CREATE TYPE scrape_job_status AS ENUM ('PENDING', 'PROCESSING', 'COMPLETED', 'FAILED');\n\n" ++
    "CREATE TABLE scraper_queue (\n" ++
    "    id UUID PRIMARY KEY DEFAULT gen_random_uuid(),\n" ++
    "    url TEXT NOT NULL,\n" ++
    "    owner_id UUID NOT NULL,\n" ++
    "    position_id UUID NOT NULL,\n" ++
    "    trace_context TEXT,\n" ++
    "    status scrape_job_status NOT NULL DEFAULT 'PENDING',\n" ++
    "    attempt_count INTEGER NOT NULL DEFAULT 0,\n" ++
    "    result_key TEXT,\n" ++
    "    error_message TEXT,\n" ++
    "    created_at TIMESTAMPTZ NOT NULL DEFAULT NOW(),\n" ++
    "    started_at TIMESTAMPTZ,\n" ++
    "    updated_at TIMESTAMPTZ NOT NULL DEFAULT NOW()\n" ++
    ");\n\n" ++
    "-- Lease acquisition scans pending rows oldest first.\n" ++
    "CREATE INDEX idx_scraper_queue_pending\n" ++
    "    ON scraper_queue (created_at)\n" ++
    "    WHERE status = 'PENDING';\n\n" ++
    "-- Stale lease sweeps look at processing rows by lease time.\n" ++
    "CREATE INDEX idx_scraper_queue_processing\n" ++
    "    ON scraper_queue (started_at)\n" ++
    "    WHERE status = 'PROCESSING';\n"

end Statement

end PageHarvest.Database
