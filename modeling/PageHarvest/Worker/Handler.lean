import PageHarvest.Attempt.Pipeline

/-!
# Handlers of jobs

A `Handler` does the work of a job: it gives the key of the result or a failure, and takes some time.
-/

namespace PageHarvest

/-- What came of a job. -/
structure Handled (σ : Type) where
  outcome : Except Failure String
  took : Time.Span
  world : σ
  log : List Log.Entry

/-- Doing the work of a job in the world `σ`. -/
abbrev Handler (σ : Type) := Job → σ → Handled σ

namespace Handler

open Attempt

/-- An attempt that has not ended has failed without a word. -/
def failureOf : Option (Except Error String) → Except Failure String
  | some (.ok key) => .ok key
  | some (.error e) => .error ⟨e.message, []⟩
  | none => .error ⟨"", []⟩

/-- Stages as they are listed in a log. -/
def listStages (stages : List Stage) : String :=
  "[" ++ ", ".intercalate (stages.map Stage.title) ++ "]"

/-- Jobs are done by attempts. -/
def ofPipeline {σ : Type} (c : Collaborators σ) (s : Attempt.Settings) : Handler σ :=
  fun job world =>
    let p := Progress.run c s job world
    { outcome := failureOf p.outcome?
      took := p.elapsed
      world := p.world
      log := p.log ++ [Progress.event .debug "pipeline finished"
        [("job_id", .shown (String.ofList job.id.toText)),
          ("transitions", .shown (listStages p.visited))]] }

/-! ### Outcomes given in advance -/

/-- The outcomes that are left, and the jobs done, latest last. -/
structure Outcomes where
  outcomes : List (Except String String)
  executed : List Uuid := []

/-- Each job takes as long as the others and has the next outcome; after the last of them, jobs have
results. -/
def ofOutcomes (delay : Time.Span) : Handler Outcomes :=
  fun job s =>
    { outcome := match s.outcomes.head? with
        | some (.ok key) => .ok key
        | some (.error message) => .error ⟨message, []⟩
        | none => .ok ("results/" ++ String.ofList job.id.toText)
      took := delay
      world := ⟨s.outcomes.drop 1, s.executed ++ [job.id]⟩
      log := [] }

end Handler

end PageHarvest
