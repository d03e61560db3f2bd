import PageHarvest.Database.Reply
import PageHarvest.Database.Statement
import PageHarvest.Queue.Leasing

/-!
# Sessions

The queue that workers share is kept in a database.  A `Session` is one's connection to it: it makes
statements and hears replies.  Each operation says what it was about when there is none.
-/

namespace PageHarvest.Database

/-- A change of the tables that has been made before. -/
structure Migration where
  version : Nat
  /-- It has been brought to its end. -/
  finished : Bool
  /-- It was the same as the one of this version is now. -/
  unchanged : Bool
  deriving DecidableEq, Repr

/-- A connection to a database. -/
inductive Session
  /-- The connection was closed on this side. -/
  | closed
  /-- There is no way to the database. -/
  | unreachable
  /-- The database lets nobody in. -/
  | refusing (message : String)
  /-- The database gives these replies, one after the other; what it has been told, and the changes
  of its tables. -/
  | answering (replies : List Reply) (told : List Statement) (migrations : List Migration)
  deriving DecidableEq, Repr

namespace Session

/-- Why nothing can be asked in a session. -/
def fault? : Session → Option Failure
  | closed => some ⟨"attempted to acquire a connection on a closed pool", []⟩
  | unreachable => some (silence "Network is unreachable (os error 101)")
  | refusing message => some (refusal message)
  | answering .. => none

/-- The statements that have been made. -/
def told : Session → List Statement
  | answering _ told _ => told
  | _ => []

/-- The number of replies to come. -/
def pending : Session → Nat
  | answering replies _ _ => replies.length
  | _ => 0

/-- The reply to a statement. -/
def ask (statement : Statement) (s : Session) : Except Failure Reply × Session :=
  match s with
  | answering replies told migrations =>
    ((replies.head?.getD (.rows [])).heard,
      answering replies.tail (told ++ [statement]) migrations)
  | s => (.error (s.fault?.getD default), s)

/-- What is read from the reply to a statement. -/
def read {α : Type} (statement : Statement) (f : Reply → Except Failure α) (s : Session) :
    Except Failure α × Session :=
  let (reply, s) := s.ask statement
  (reply.bind f, s)

/-- A failure in the course of something. -/
def during {α : Type} (what : String) (r : Except Failure α × Session) :
    Except Failure α × Session :=
  (r.1.mapError (·.during what), r.2)

/-- An event of a session. -/
def event (level : Log.Level) (message : String) (fields : Log.Fields) : Log.Entry :=
  .event ⟨level, "scraper_core::kernel::jobs::store", message, fields⟩ []

/-- What is said about a report on a job that changed so many rows. -/
def reported (what : String) (id : Uuid) (r : Except Failure Nat × Session) :
    Except Failure Unit × Session × List Log.Entry :=
  let ignored := event .warn (what ++ " ignored, job is not processing")
    [("job_id", .shown (String.ofList id.toText))]
  (r.1.map fun _ => (), r.2, if r.1.toOption = some 0 then [ignored] else [])

variable (s : Session)

/-- A new job put into the queue. -/
def enqueue (job : Job) : Except Failure Job × Session :=
  during "failed to enqueue scrape job" (s.read (.enqueue job) Reply.firstJob)

/-- The job with this identifier. -/
def find (id : Uuid) : Except Failure (Option Job) × Session := s.read (.find id) Reply.firstJob?

/-- A lease on the oldest pending job. -/
def acquire : Except Failure (Option Job) × Session :=
  during "failed to acquire scrape job" (s.read .acquire Reply.firstJob?)

/-- A report of success. -/
def complete (id : Uuid) (key : String) : Except Failure Unit × Session × List Log.Entry :=
  reported "completion" id
    (during "failed to mark scrape job completed" (s.read (.complete id key) (.ok ·.changed)))

/-- A report of failure. -/
def fail (id : Uuid) (message : String) : Except Failure Unit × Session × List Log.Entry :=
  reported "failure" id
    (during "failed to mark scrape job failed" (s.read (.fail id message) (.ok ·.changed)))

/-- How many leases are older than an age. -/
def countStale (age : Time.Span) : Except Failure Nat × Session :=
  s.read (.countStale age) (.ok ·.total)

/-- Leases older than an age taken back. -/
def requeueStale (age : Time.Span) : Except Failure Nat × Session × List Log.Entry :=
  let (n, s) :=
    during "failed to requeue stale scrape jobs" (s.read (.requeueStale age) (.ok ·.changed))
  (n, s, n.toOption.toList.map fun (n : Nat) =>
    event .debug "requeued stale scrape jobs" [("count", .number n)])

end Session

/-- Jobs from a database. -/
def leasing : Leasing Session where
  acquire _ s := s.acquire
  complete _ id key s := s.complete id key
  fail _ id message s := s.fail id message

/-- Leases of jobs from a database. -/
def upkeep : Upkeep Session where
  countStale _ age s := s.countStale age
  requeueStale _ age s := s.requeueStale age

end PageHarvest.Database
