/-!
# Stages of an attempt

What an attempt at a job is doing, from the outside.
-/

namespace PageHarvest.Attempt

/-- A stage of an attempt. -/
inductive Stage
  | leased | fetching | normalizing | analyzing | storing | done | errored
  deriving DecidableEq, Repr

namespace Stage

/-- The name in messages. -/
def name : Stage → String
  | leased => "leased"
  | fetching => "fetching"
  | normalizing => "normalizing"
  | analyzing => "analyzing"
  | storing => "storing"
  | done => "done"
  | errored => "errored"

/-- The name in logs. -/
def title : Stage → String
  | leased => "Leased"
  | fetching => "Fetching"
  | normalizing => "Normalizing"
  | analyzing => "Analyzing"
  | storing => "Storing"
  | done => "Done"
  | errored => "Errored"

/-- All stages. -/
def all : List Stage := [leased, fetching, normalizing, analyzing, storing, done, errored]

/-- The stage with this name. -/
def ofName? (name : String) : Option Stage := all.find? (·.name == name)

/-- The stage that an attempt is in after the given ones. -/
def current (visited : List Stage) : Stage := visited.getLast?.getD leased

end Stage

end PageHarvest.Attempt
