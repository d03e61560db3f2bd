import PageHarvest.Config.Basic
import PageHarvest.Failure
import PageHarvest.Number.Unsigned
import PageHarvest.Text.Blank

/-!
# Reading the configuration

The configuration is read from named variables.  A blank variable counts as one that is not there.
The variables are looked at in a fixed order, and the first that is wrong is reported.
-/

namespace PageHarvest.Config

open Text

/-- Why variables make no configuration. -/
inductive Error
  | databaseUrlMissing
  | apiKeyMissing
  | notUnsigned (name : String) (cause : Number.UnsignedError)
  | notDecimal (name : String)
  | notSpan (name : String) (cause : Time.SpanError)
  | notFlag (name value : String)
  | unknownStorage (value : String)
  | unknownAnalyzer (value : String)
  deriving DecidableEq, Repr

/-- The wording. -/
def Error.failure : Error → Failure
  | databaseUrlMissing => ⟨"DATABASE_URL must be set", []⟩
  | apiKeyMissing => ⟨"ANALYZER_API_KEY must be set when ANALYZER_BACKEND=openai", []⟩
  | notUnsigned name cause => ⟨name ++ " must be a valid number", [cause.message]⟩
  | notDecimal name => ⟨name ++ " must be a valid number", ["invalid float literal"]⟩
  | notSpan name cause => ⟨name ++ " must be a non-negative number of seconds", [cause.message]⟩
  | notFlag name value => ⟨name ++ " must be true or false, got '" ++ value ++ "'", []⟩
  | unknownStorage value =>
    ⟨"STORAGE_BACKEND must be 's3' or 'memory', got '" ++ value ++ "'", []⟩
  | unknownAnalyzer value =>
    ⟨"ANALYZER_BACKEND must be 'none', 'openai' or 'fake', got '" ++ value ++ "'", []⟩

/-- The values of variables. -/
abbrev Variables := String → Option String

/-- The names of the variables that are looked at. -/
def variableNames : List String :=
  ["STEP_TIMEOUT_SECS", "DATABASE_URL", "DATABASE_MAX_CONNECTIONS", "DATABASE_RUN_MIGRATIONS",
   "WORKER_ID", "POLL_INTERVAL", "ERROR_BACKOFF", "NGRAM_MAX", "FETCH_TIMEOUT_SECS",
   "STORAGE_BACKEND", "S3_BUCKET_NAME", "AWS_REGION", "AWS_ENDPOINT_URL", "AWS_ACCESS_KEY_ID",
   "AWS_SECRET_ACCESS_KEY", "S3_ALLOW_HTTP", "ANALYZER_BACKEND", "ANALYZER_API_KEY",
   "GROQ_API_TOKEN", "ANALYZER_BASE_URL", "ANALYZER_MODEL", "GROQ_MODEL", "OBS_ENABLED",
   "SERVICE_NAME", "OTEL_EXPORTER_OTLP_ENDPOINT"]

/-- The text is blank. -/
def isBlankText (s : String) : Bool := s.toList.all isBlank

/-- The value of a variable that is not blank. -/
def Variables.get? (vars : Variables) (name : String) : Option String :=
  (vars name).filter (!isBlankText ·)

/-- The text in lower case, as far as ASCII letters go. -/
def lower (s : List Char) : String := String.ofList (s.map Char.toLower)

/-- An unsigned number below `bound`. -/
def readUnsigned (vars : Variables) (name : String) (bound default : Nat) : Except Error Nat :=
  match vars.get? name with
  | none => .ok default
  | some raw =>
    (Number.readUnsigned bound (trim raw.toList)).mapError (.notUnsigned name)

/-- A number of seconds. -/
def readSpan (vars : Variables) (name : String) (default : Time.Span) : Except Error Time.Span :=
  match vars.get? name with
  | none => .ok default
  | some raw =>
    match Number.Binary.ofText? (trim raw.toList) with
    | none => .error (.notDecimal name)
    | some (minus, x) => (Time.Span.ofBinary minus x).mapError (.notSpan name)

/-- A flag. -/
def readFlag (vars : Variables) (name : String) (default : Bool) : Except Error Bool :=
  match vars.get? name with
  | none => .ok default
  | some raw =>
    let value := lower (trim raw.toList)
    if ["true", "1", "yes", "on"].contains value then .ok true
    else if ["false", "0", "no", "off"].contains value then .ok false
    else .error (.notFlag name value)

/-- Where artifacts are kept. -/
def readStorage (vars : Variables) : Except Error Storage :=
  let backend := lower ((vars.get? "STORAGE_BACKEND").getD "s3").toList
  if backend = "s3" then do
    let endpoint := vars.get? "AWS_ENDPOINT_URL"
    let isHttp := endpoint.any fun url => "http://".toList.isPrefixOf url.toList
    let allowHttp ← readFlag vars "S3_ALLOW_HTTP" isHttp
    .ok (.s3 ((vars.get? "S3_BUCKET_NAME").getD "scraper")
      ((vars.get? "AWS_REGION").getD "us-east-1") endpoint (vars.get? "AWS_ACCESS_KEY_ID")
      (vars.get? "AWS_SECRET_ACCESS_KEY") allowHttp)
  else if backend = "memory" then .ok .memory
  else .error (.unknownStorage backend)

/-- What makes out the postings. -/
def readAnalyzer (vars : Variables) : Except Error Analyzer :=
  let backend := lower ((vars.get? "ANALYZER_BACKEND").getD "none").toList
  if backend = "none" ∨ backend = "disabled" then .ok .disabled
  else if backend = "fake" then .ok .fake
  else if backend = "openai" ∨ backend = "groq" then
    match (vars.get? "ANALYZER_API_KEY").or (vars.get? "GROQ_API_TOKEN") with
    | none => .error .apiKeyMissing
    | some key => .ok (.openai key
        ((vars.get? "ANALYZER_BASE_URL").getD "https://api.groq.com/openai/v1")
        (((vars.get? "ANALYZER_MODEL").or (vars.get? "GROQ_MODEL")).getD
          "llama-3.3-70b-versatile"))
  else .error (.unknownAnalyzer backend)

/-- The configuration that the variables make. -/
def ofVariables (vars : Variables) : Except Error Config := do
  let stepTimeout ← readUnsigned vars "STEP_TIMEOUT_SECS" (Number.beyondBits 64) 120
  let databaseUrl ← match vars.get? "DATABASE_URL" with
    | some url => .ok url
    | none => .error .databaseUrlMissing
  let maxConnections ← readUnsigned vars "DATABASE_MAX_CONNECTIONS" (Number.beyondBits 32) 5
  let runMigrations ← readFlag vars "DATABASE_RUN_MIGRATIONS" false
  let pollInterval ← readSpan vars "POLL_INTERVAL" (.ofSeconds 1)
  let errorBackoff ← readSpan vars "ERROR_BACKOFF" (.ofSeconds 5)
  let maxPhrase ← readUnsigned vars "NGRAM_MAX" (Number.beyondBits 64) 20
  let fetchTimeout ← readUnsigned vars "FETCH_TIMEOUT_SECS" (Number.beyondBits 64) 30
  let storage ← readStorage vars
  let analyzer ← readAnalyzer vars
  let enabled ← readFlag vars "OBS_ENABLED" false
  .ok {
    databaseUrl, maxConnections, runMigrations, pollInterval, errorBackoff, maxPhrase, storage,
    analyzer
    workerId := vars.get? "WORKER_ID"
    stepTimeout := if stepTimeout = 0 then none else some (.ofSeconds stepTimeout)
    fetchTimeout := .ofSeconds fetchTimeout
    observability := {
      enabled
      serviceName := (vars.get? "SERVICE_NAME").getD "scraper-worker"
      endpoint := (vars.get? "OTEL_EXPORTER_OTLP_ENDPOINT").getD "http://localhost:4317" } }

end PageHarvest.Config
