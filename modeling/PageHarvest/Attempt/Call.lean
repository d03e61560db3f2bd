import PageHarvest.Attempt.Stage
import PageHarvest.Log.Entry
import PageHarvest.Posting
import PageHarvest.Artifact
import PageHarvest.Failure
import PageHarvest.Time.Span

/-!
# Calls of collaborators

An attempt at a job calls on others: for the page, for a record of the posting, and to keep
artifacts.  A call takes some time and then has its effect on the world.  One that would take longer
than the limit is given up when the limit is reached, and has no effect.
-/

namespace PageHarvest.Attempt

/-- A call: how long it takes, and then its outcome, what becomes of the world, and what is said
about it in the log. -/
structure Call (σ α : Type) where
  delay : Time.Span
  run : σ → α × σ × List Log.Entry

/-- Those that an attempt calls on. -/
structure Collaborators (σ : Type) where
  /-- The markup at an address. -/
  fetch : String → Call σ (Except Failure String)
  /-- The record of the posting in a text.  This never fails. -/
  analyze : Option (String → Call σ Posting)
  /-- A text kept under a key as an artifact of some kind. -/
  put : Artifact → String → String → Call σ (Except Failure Unit)

/-- A text that was kept as an artifact. -/
structure Stored where
  key : String
  kind : Artifact
  body : String
  deriving DecidableEq, Repr

/-- Why an attempt ended without a result. -/
inductive Error
  | fetch (cause : Failure)
  | store (key : String) (cause : Failure)
  | timeout (stage : Stage) (limit : Time.Span)
  deriving DecidableEq, Repr

/-- The wording. -/
def Error.message : Error → String
  | fetch cause => cause.text
  | store key cause => "failed to store " ++ key ++ ": " ++ cause.text
  | timeout stage limit =>
    stage.name ++ " step timed out after " ++ String.ofList limit.toBinary.toText ++ "s"

/-- The outcome of a call, which is none if the call took too long, the time it took, the world after
it and its log.  The clock is exact to the nanosecond, where a timer that ticks in milliseconds ends
a call at the first tick that is not before the limit. -/
def Call.within {σ α : Type} (call : Call σ α) (limit : Option Time.Span) (world : σ) :
    Except Time.Span α × Time.Span × σ × List Log.Entry :=
  match limit with
  | some l =>
    if l.nanos < call.delay.nanos then (.error l, l, world, [])
    else
      let (a, world, log) := call.run world
      (.ok a, call.delay, world, log)
  | none =>
    let (a, world, log) := call.run world
    (.ok a, call.delay, world, log)

end PageHarvest.Attempt
