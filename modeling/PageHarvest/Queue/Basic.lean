import PageHarvest.Failure
import PageHarvest.Job.Basic
import PageHarvest.Number.Bits
import PageHarvest.Time.Span

/-!
# Queues of jobs

A `Queue` holds jobs in the order in which they came.  A worker leases the first one that is pending
and later reports how it ended; a report on a job that is not being processed changes nothing.
Leases that are too old can be taken back.  For trials, a queue can be told to refuse to lease or to
take reports; it counts what it is asked.
-/

namespace PageHarvest

/-- Jobs in order, and what is known of the calls made. -/
structure Queue where
  rows : List Job
  /-- How many of the next requests for a lease fail. -/
  outages : Nat := 0
  /-- Reports on jobs fail. -/
  refusesReports : Bool := false
  /-- The number of requests for a lease. -/
  acquireCalls : Nat := 0
  /-- The reports of success, latest last. -/
  completedCalls : List (Uuid × String) := []
  /-- The reports of failure, latest last. -/
  failedCalls : List (Uuid × String) := []
  deriving DecidableEq, Repr

namespace Job

/-- The job leased now. -/
def leasedAt (now : Time.Instant) (j : Job) : Job :=
  { j with
    status := .processing
    startedAt := some now
    attempts := Number.wrap32 (j.attempts + 1)
    updatedAt := now }

/-- The job ended in success. -/
def completedAt (now : Time.Instant) (key : String) (j : Job) : Job :=
  { j with status := .completed, resultKey := some key, errorMessage := none, updatedAt := now }

/-- The job ended in failure. -/
def failedAt (now : Time.Instant) (message : String) (j : Job) : Job :=
  { j with status := .failed, errorMessage := some message, updatedAt := now }

/-- The job given back. -/
def requeuedAt (now : Time.Instant) (j : Job) : Job :=
  { j with status := .pending, updatedAt := now }

/-- The job is being processed, and was leased longer ago than `age`. -/
def isStale (now : Time.Instant) (age : Time.Span) (j : Job) : Bool :=
  j.status == .processing && match j.startedAt, now.earlier? age with
    | some started, some cutoff => started.before cutoff
    | _, _ => false

/-- The job with its lease moved back in time.  A lease that this leads out of the calendar is gone. -/
def backdate (age : Time.Span) (j : Job) : Job :=
  { j with startedAt := j.startedAt.bind (·.earlier? age) }

end Job

namespace Queue

/-- What a queue says that does not answer. -/
def unavailable : Failure := ⟨"queue unavailable", []⟩

/-- The list with its first element that satisfies `p` changed. -/
def changeFirst {α : Type} (p : α → Bool) (f : α → α) : List α → List α
  | [] => []
  | a :: as => if p a then f a :: as else a :: changeFirst p f as

/-- A lease on the first pending job, if there is one. -/
def acquire (now : Time.Instant) (q : Queue) : Except Failure (Option Job) × Queue :=
  let q := { q with acquireCalls := q.acquireCalls + 1 }
  if 0 < q.outages then (.error unavailable, { q with outages := q.outages - 1 })
  else
    let isPending (j : Job) : Bool := j.status == .pending
    (.ok ((q.rows.find? isPending).map (Job.leasedAt now)),
      { q with rows := changeFirst isPending (Job.leasedAt now) q.rows })

/-- A job that is being processed changed by `f`. -/
def finish (id : Uuid) (f : Job → Job) (q : Queue) : Queue :=
  { q with rows := changeFirst (fun j => j.id == id && j.status == .processing) f q.rows }

/-- A report of success. -/
def complete (now : Time.Instant) (id : Uuid) (key : String) (q : Queue) :
    Except Failure Unit × Queue :=
  let q := { q with completedCalls := q.completedCalls ++ [(id, key)] }
  if q.refusesReports then (.error unavailable, q)
  else (.ok (), q.finish id (Job.completedAt now key))

/-- A report of failure. -/
def fail (now : Time.Instant) (id : Uuid) (message : String) (q : Queue) :
    Except Failure Unit × Queue :=
  let q := { q with failedCalls := q.failedCalls ++ [(id, message)] }
  if q.refusesReports then (.error unavailable, q)
  else (.ok (), q.finish id (Job.failedAt now message))

/-- How many leases are older than `age`. -/
def countStale (now : Time.Instant) (age : Time.Span) (q : Queue) : Nat :=
  (q.rows.filter (Job.isStale now age)).length

/-- The jobs with leases older than `age` given back, and how many there were. -/
def takeBack (now : Time.Instant) (age : Time.Span) : List Job → Nat × List Job
  | [] => (0, [])
  | j :: js =>
    let rest := takeBack now age js
    if j.isStale now age then (rest.1 + 1, j.requeuedAt now :: rest.2) else (rest.1, j :: rest.2)

/-- Leases older than `age` taken back, and how many there were. -/
def requeueStale (now : Time.Instant) (age : Time.Span) (q : Queue) : Nat × Queue :=
  let taken := takeBack now age q.rows
  (taken.1, { q with rows := taken.2 })

/-- The lease on a job moved back in time. -/
def backdateLease (id : Uuid) (age : Time.Span) (q : Queue) : Queue :=
  { q with rows := changeFirst (·.id == id) (Job.backdate age) q.rows }

/-- The next requests for a lease fail, so many of them. -/
def failNextAcquires (count : Nat) (q : Queue) : Queue := { q with outages := count }

/-- Reports fail, or do not. -/
def failReports (on : Bool) (q : Queue) : Queue := { q with refusesReports := on }

/-- The job with this identifier. -/
def job? (id : Uuid) (q : Queue) : Option Job := q.rows.find? (·.id == id)

end Queue

end PageHarvest
