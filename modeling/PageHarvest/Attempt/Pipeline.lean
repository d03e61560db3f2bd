import PageHarvest.Attempt.Call
import PageHarvest.Job.Basic
import PageHarvest.Page.Text

/-!
# Attempts at jobs

An attempt fetches the page, makes text of it, has the posting made out if there is someone to do
so, and keeps the artifacts: first the record of the posting, then the text.  It goes on one step at
a time (`Progress.advance`) and ends with the key of the text or with an error.  Making text cannot
fail, and whatever goes wrong with the record of the posting does not matter.
-/

namespace PageHarvest.Attempt

open Log

/-- What an attempt is about to do, with what it needs for that. -/
inductive Step
  | fetch
  | normalize (markup : String)
  | analyze (text : String)
  /-- Keep the record of the posting, if there is one still to be kept, or else the text. -/
  | store (text : String) (posting : Option Posting)
  | done (key : String)
  | error (e : Error)
  deriving DecidableEq, Repr

/-- The stage that a step belongs to. -/
def Step.stage : Step → Stage
  | fetch => .fetching
  | normalize _ => .normalizing
  | analyze _ => .analyzing
  | store _ _ => .storing
  | done _ => .done
  | error _ => .errored

/-- What an attempt goes by. -/
structure Settings where
  page : Page.Settings := {}
  /-- The longest that a call may take. -/
  stepTimeout : Option Time.Span := none

/-- How far an attempt has got. -/
structure Progress (σ : Type) where
  step : Step
  /-- The stages so far. -/
  visited : List Stage
  /-- The time since the beginning. -/
  elapsed : Time.Span
  world : σ
  log : List Entry

namespace Progress

variable {σ : Type}

/-- The beginning of an attempt. -/
def start (world : σ) : Progress σ where
  step := .fetch
  visited := [.leased, .fetching]
  elapsed := ⟨0⟩
  world
  log := []

/-- The attempt with another step to do.  A stage counts once, however many steps it takes. -/
def goTo (p : Progress σ) (step : Step) : Progress σ :=
  { p with
    step
    visited := if step.stage = p.step.stage then p.visited else p.visited ++ [step.stage] }

/-- The attempt with more entries in its log. -/
def say (p : Progress σ) (entries : List Entry) : Progress σ := { p with log := p.log ++ entries }

/-- The part of the program that attempts are, as it is called in the log. -/
def target : String := "scraper_core::domains::scraping::pipeline"

/-- A span of an attempt. -/
def span (name : String) (fields : Fields) : Span := { target, name, fields }

/-- An event of an attempt. -/
def event (level : Level) (message : String) (fields : Fields) : Entry :=
  .event ⟨level, target, message, fields⟩ []

/-- A call made in a span of the log, and its outcome. -/
def call {α : Type} (p : Progress σ) (limit : Option Time.Span) (s : Span) (c : Call σ α) :
    Except Time.Span α × Progress σ :=
  let (outcome, took, world, log) := c.within limit p.world
  (outcome, { p with elapsed := ⟨p.elapsed.nanos + took.nanos⟩, world }.say (spanning s log))

/-- The number of bytes of a text. -/
def size (s : String) : Value := .number s.utf8ByteSize

/-- The page fetched. -/
def fetch (c : Collaborators σ) (s : Settings) (job : Job) (p : Progress σ) : Progress σ :=
  match p.call s.stepTimeout (span "fetch_page" [("url", .shown job.url)]) (c.fetch job.url) with
  | (.ok (.ok markup), p) => p.goTo (.normalize markup)
  | (.ok (.error cause), p) => p.goTo (.error (.fetch cause))
  | (.error limit, p) => p.goTo (.error (.timeout .fetching limit))

/-- Text made of the page. -/
def normalize (c : Collaborators σ) (s : Settings) (job : Job) (markup : String)
    (p : Progress σ) : Progress σ :=
  let text := String.ofList (Page.normalize s.page markup.toList)
  let p := p.say [.span (span "normalize" [("bytes", size markup)]),
    event .debug "normalized page" [("job_id", .shown (String.ofList job.id.toText)),
      ("raw_bytes", size markup), ("text_bytes", size text)]]
  p.goTo (if c.analyze.isSome then .analyze text else .store text none)

/-- The posting made out. -/
def analyze (c : Collaborators σ) (s : Settings) (job : Job) (text : String)
    (p : Progress σ) : Progress σ :=
  match c.analyze with
  | none => p.goTo (.store text (some .empty))
  | some analyze =>
    match p.call s.stepTimeout (span "analyze" [("text_bytes", size text)]) (analyze text) with
    | (.ok posting, p) => p.goTo (.store text (some posting))
    | (.error limit, p) =>
      let e := Error.timeout .analyzing limit
      (p.say [event .warn "analysis abandoned, using empty record"
        [("job_id", .shown (String.ofList job.id.toText)), ("error", .shown e.message)]]).goTo
          (.store text (some .empty))

/-- An artifact kept, and then the step `next`. -/
def put (c : Collaborators σ) (s : Settings) (kind : Artifact) (key body : String) (next : Step)
    (p : Progress σ) : Progress σ :=
  match p.call s.stepTimeout (span "store_artifact" [("key", .shown key)]) (c.put kind key body) with
  | (.ok (.ok ()), p) => p.goTo next
  | (.ok (.error cause), p) => p.goTo (.error (.store key cause))
  | (.error limit, p) => p.goTo (.error (.timeout .storing limit))

/-- The key of an artifact of a job. -/
def key (job : Job) (kind : Artifact) : String :=
  String.ofList (kind.key job.owner job.position)

/-- One step of an attempt.  One that has ended stays as it is. -/
def advance (c : Collaborators σ) (s : Settings) (job : Job) (p : Progress σ) : Progress σ :=
  match p.step with
  | .fetch => p.fetch c s job
  | .normalize markup => p.normalize c s job markup
  | .analyze text => p.analyze c s job text
  | .store text (some posting) =>
    p.put c s .analysis (key job .analysis) (String.ofList posting.toText) (.store text none)
  | .store text none =>
    let key := key job .content
    p.put c s .content key text (.done key)
  | .done _ => p
  | .error _ => p

/-- How an attempt ended; one that has not ended has no key and no error. -/
def outcome? (p : Progress σ) : Option (Except Error String) :=
  match p.step with
  | .done key => some (.ok key)
  | .error e => some (.error e)
  | _ => none

/-- An attempt has at most five steps. -/
def run (c : Collaborators σ) (s : Settings) (job : Job) (world : σ) : Progress σ :=
  let next := advance c s job
  next (next (next (next (next (start world)))))

end Progress

end PageHarvest.Attempt
