import PageHarvest.Uuid
import PageHarvest.Time.Instant

/-!
# Jobs

A job asks for one page to be harvested for a position of an owner.  Its status and what goes with
the status change as it is leased and brought to an end; the rest never does.
-/

namespace PageHarvest

/-- How far a job has got. -/
inductive Job.Status
  | pending | processing | completed | failed
  deriving DecidableEq, Repr, Inhabited

namespace Job.Status

/-- The written form. -/
def name : Status → String
  | pending => "PENDING"
  | processing => "PROCESSING"
  | completed => "COMPLETED"
  | failed => "FAILED"

/-- All of them. -/
def all : List Status := [pending, processing, completed, failed]

/-- The status that is written like this. -/
def ofName? (s : List Char) : Option Status := all.find? (·.name.toList == s)

theorem ofName?_name (s : Status) : ofName? s.name.toList = some s := by
  cases s <;> decide +kernel

end Job.Status

/-- A job. -/
structure Job where
  id : Uuid
  url : String
  owner : Uuid
  position : Uuid
  /-- Where the job comes from in a trace, as it was given. -/
  traceContext : Option String
  status : Job.Status
  /-- How often the job has been leased. -/
  attempts : Int
  resultKey : Option String
  errorMessage : Option String
  createdAt : Time.Instant
  /-- When the job was leased last. -/
  startedAt : Option Time.Instant
  updatedAt : Time.Instant
  deriving DecidableEq, Repr, Inhabited

end PageHarvest
