import PageHarvest.Time.Span

/-!
# Configuration

What a worker has to know before it starts.
-/

namespace PageHarvest

namespace Config

/-- Where artifacts are kept. -/
inductive Storage
  | memory
  | s3 (bucket region : String) (endpoint accessKeyId secretAccessKey : Option String)
      (allowHttp : Bool)
  deriving DecidableEq, Repr

/-- What makes out the postings. -/
inductive Analyzer
  | disabled
  | fake
  | openai (apiKey baseUrl model : String)
  deriving DecidableEq, Repr

/-- Where traces of the work go. -/
structure Observability where
  enabled : Bool
  serviceName : String
  endpoint : String
  deriving DecidableEq, Repr

end Config

/-- The configuration of a worker. -/
structure Config where
  databaseUrl : String
  maxConnections : Nat
  runMigrations : Bool
  /-- The name of the worker; without one it gets a random one. -/
  workerId : Option String
  pollInterval : Time.Span
  errorBackoff : Time.Span
  /-- The longest that a step of an attempt may take. -/
  stepTimeout : Option Time.Span
  /-- The number of words of the longest phrase that is collapsed. -/
  maxPhrase : Nat
  /-- The longest that a server may take to answer.  Nothing depends on it, since a `Web` answers at
  once. -/
  fetchTimeout : Time.Span
  storage : Config.Storage
  analyzer : Config.Analyzer
  observability : Config.Observability
  deriving DecidableEq, Repr

end PageHarvest
