import PageHarvest.Failure
import PageHarvest.Job.Basic
import PageHarvest.Log.Line

/-!
# Replies

What a database replies to a statement.  A reply of another kind than the statement calls for says
that there are no rows.  In a row every column may be null, and a `Job` is read from it column by
column.
-/

namespace PageHarvest.Database

/-- A row of the table of jobs, as it is sent. -/
structure Row where
  id : Option Uuid := none
  url : Option String := none
  owner : Option Uuid := none
  position : Option Uuid := none
  traceContext : Option String := none
  status : Option String := none
  attempts : Option Int := none
  resultKey : Option String := none
  errorMessage : Option String := none
  createdAt : Option Time.Instant := none
  startedAt : Option Time.Instant := none
  updatedAt : Option Time.Instant := none
  deriving DecidableEq, Repr

namespace Row

/-- A column that cannot be read. -/
def unreadable (column cause : String) : Failure :=
  ⟨"error occurred while decoding column \"" ++ column ++ "\": " ++ cause, [cause]⟩

/-- A column that may not be null. -/
def needed {α : Type} (column : String) (v : Option α) : Except Failure α :=
  v.elim (.error (unreadable column "unexpected null; try decoding as an `Option`")) .ok

/-- The column that says how far the job has got. -/
def readStatus (v : Option String) : Except Failure Job.Status := do
  let name ← needed "status" v
  (Job.Status.ofName? name.toList).elim
    (.error (unreadable "status"
      ("invalid value " ++ (Log.Value.quoted name).toText ++ " for enum ScrapeJobStatus")))
    .ok

/-- The job in a row; the first column that cannot be read is the one that counts. -/
def job (r : Row) : Except Failure Job := do
  let id ← needed "id" r.id
  let url ← needed "url" r.url
  let owner ← needed "owner_id" r.owner
  let position ← needed "position_id" r.position
  let status ← readStatus r.status
  let attempts ← needed "attempt_count" r.attempts
  let createdAt ← needed "created_at" r.createdAt
  let updatedAt ← needed "updated_at" r.updatedAt
  pure ⟨id, url, owner, position, r.traceContext, status, attempts, r.resultKey, r.errorMessage,
    createdAt, r.startedAt, updatedAt⟩

end Row

/-- What a database replies. -/
inductive Reply
  | rows (rows : List Row)
  | count (n : Int)
  /-- So many rows have been changed. -/
  | affected (n : Nat)
  | refused (message : String)
  /-- The connection is closed without a reply. -/
  | dropped
  deriving DecidableEq, Repr

/-- What is said of a database that refuses. -/
def refusal (message : String) : Failure := ⟨"error returned from database: " ++ message, [message]⟩

/-- What is said of a database that cannot be heard. -/
def silence (cause : String) : Failure :=
  ⟨"error communicating with database: " ++ cause, [cause]⟩

namespace Reply

/-- The reply, unless it is none. -/
def heard : Reply → Except Failure Reply
  | refused message => .error (refusal message)
  | dropped => .error (silence "expected to read 5 bytes, got 0 bytes at EOF")
  | reply => .ok reply

/-- The first of the rows. -/
def firstRow? : Reply → Option Row
  | rows rs => rs.head?
  | _ => none

/-- The job in the first of the rows, if there is one. -/
def firstJob? (r : Reply) : Except Failure (Option Job) :=
  match r.firstRow? with
  | none => .ok none
  | some row => row.job.map some

/-- The job in the first of the rows, of which there must be one. -/
def firstJob (r : Reply) : Except Failure Job := do
  match ← r.firstJob? with
  | some job => pure job
  | none =>
    .error ⟨"no rows returned by a query that expected to return at least one row", []⟩

/-- A number of rows. -/
def total : Reply → Nat
  | count n => n.toNat
  | _ => 0

/-- The number of rows that have been changed. -/
def changed : Reply → Nat
  | affected n => n
  | _ => 0

end Reply

end PageHarvest.Database
