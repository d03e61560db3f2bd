import PageHarvest.Blob.Bucket
import PageHarvest.Blob.Store
import PageHarvest.Chat.Analyzer
import PageHarvest.Config.Basic
import PageHarvest.Web.Page
import PageHarvest.Worker.Basic

/-!
# A configured worker

From a configuration follow the collaborators of attempts: pages come from the web, postings are made
out by a chat or by nobody, and artifacts are kept in memory or in a bucket.
-/

namespace PageHarvest.Service

open Log Attempt

/-- What the collaborators have done so far. -/
structure World where
  objects : Blob.Store := .empty
  /-- The artifacts that were stored. -/
  puts : List Stored := []
  requests : List Web.Request := []

/-- The world after more requests. -/
def World.asking (w : World) (requests : List Web.Request) : World :=
  { w with requests := w.requests ++ requests }

/-- A page from the web. -/
def fetch (web : Web) (address : String) : Call World (Except Failure String) where
  delay := ⟨0⟩
  run w :=
    let (outcome, asked) := web.page address
    (outcome, w.asking asked, [.event (Web.fetchingEvent address) []])

/-- What makes out the postings. -/
def analyze (web : Web) : Config.Analyzer → Option (String → Call World Posting)
  | .disabled => none
  | .fake => some fun _ => ⟨⟨0⟩, fun w => (.fixed, w, [])⟩
  | .openai apiKey baseUrl model => some fun text => {
      delay := ⟨0⟩
      run := fun w =>
        let (posting, asked, log) := (Chat.Analyzer.ofAddress apiKey baseUrl model).analyze web text
        (posting, w.asking asked, log) }

/-- What a store is called. -/
def backend : Config.Storage → String
  | .memory => "memory"
  | .s3 .. => "s3"

/-- An object put to where artifacts are kept. -/
def putObject (web : Web) (storage : Config.Storage) (contentType key : String)
    (body : List UInt8) (w : World) : Except Failure Unit × World :=
  match storage with
  | .memory =>
    match w.objects.put key body with
    | .ok objects => (.ok (), { w with objects })
    | .error e => (.error ⟨e.message, []⟩, w)
  | .s3 bucket region endpoint .. =>
    match Blob.Path.ofKey? key.toList with
    | none => (.error ⟨Blob.Error.emptyKey.message, []⟩, w)
    | some path =>
      let (outcome, asked) :=
        (Blob.Bucket.ofSettings bucket region endpoint).put web path contentType body
      (outcome.mapError (·.during ("failed to write " ++ key ++ " to s3 storage")), w.asking asked)

/-- An artifact put to where artifacts are kept. -/
def put (web : Web) (storage : Config.Storage) (kind : Artifact) (key body : String) :
    Call World (Except Failure Unit) where
  delay := ⟨0⟩
  run w :=
    let bytes := Text.Utf8.encode body.toList
    match putObject web storage kind.contentType key bytes w with
    | (.ok (), w) => (.ok (), { w with puts := w.puts ++ [⟨key, kind, body⟩] },
        [.event (Blob.Store.storedEvent key bytes.length kind.contentType) []])
    | (.error e, w) => (.error e, w, [])

/-- The collaborators that follow from a configuration. -/
def collaborators (web : Web) (c : Config) : Collaborators World where
  fetch := fetch web
  analyze := analyze web c.analyzer
  put := put web c.storage

/-- What an attempt goes by. -/
def settings (c : Config) : Attempt.Settings where
  page := { maxPhrase := c.maxPhrase }
  stepTimeout := c.stepTimeout

/-- The handler of jobs that follows from a configuration. -/
def handler (web : Web) (c : Config) : Handler World :=
  .ofPipeline (collaborators web c) (settings c)

/-- The worker that follows from a configuration; `name` is for one that is not given a name. -/
def worker (c : Config) (name : String) : Worker where
  name := c.workerId.getD name
  pollInterval := c.pollInterval
  errorBackoff := c.errorBackoff

/-- What makes out the postings, as it is called. -/
def analyzerName : Config.Analyzer → String
  | .disabled => "disabled"
  | .fake => "fake"
  | .openai .. => "openai"

/-- What is said when the collaborators are there. -/
def readyEntries (c : Config) : List Entry :=
  let ready (message : String) (field : String × Value) : Entry :=
    .event ⟨.info, "scraper_core::kernel::deps", message, [field]⟩ []
  [ready "blob store ready" ("backend", .quoted (backend c.storage)),
   ready "analyzer ready" ("analyzer", .quoted (analyzerName c.analyzer))]

/-- A worker brings all pending jobs of a queue to their end. -/
def drain (web : Web) (c : Config) (name : String) (now : Time.Instant) (q : Queue) :
    List Worker.Polled × Worker.Site Queue World :=
  (worker c name).drain Queue.leasing (handler web c) now (q.rows.length + 1)
    { queue := q, world := {}, log := readyEntries c }

end PageHarvest.Service
