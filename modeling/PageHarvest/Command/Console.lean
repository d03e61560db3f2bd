import PageHarvest.Config.Basic
import PageHarvest.Failure
import PageHarvest.Log.Line

/-!
# The console

A program shows its log on the console, as text or, while traces are exported, in JSON.  There is no
server for traces to go to, so what is exported gets lost at the end, and that is said.
-/

namespace PageHarvest.Command

open Log

/-- How a log is shown. -/
structure Console where
  filter : Filter
  format : Format
  /-- Spans go to a server. -/
  exports : Bool
  deriving DecidableEq, Repr

namespace Console

/-- The filter that a text spells, or else the one of the given text. -/
def filterOf (wanted : Option String) (default : String) : Filter :=
  ((wanted.bind fun t => Filter.ofText? t.toList).or (Filter.ofText? default.toList)).getD []

/-- What is shown by a worker if nothing else is wanted. -/
def defaultFilter : String := "info,scraper_core=debug,scraper_worker=debug"

/-- The character may be in the name of a server. -/
def isServerChar (c : Char) : Bool :=
  c.isAlphanum || ['!', '$', '&', '\'', '(', ')', '*', '+', ',', '-', '.', ':', ';', '=', '@', '[',
    ']', '_', '~'].contains c

/-- The text may be the address of a server for traces: a server, with or without a scheme. -/
def isEndpoint (s : List Char) : Bool :=
  let isEnd (c : Char) : Bool := c == '/' || c == '?' || c == '#'
  let scheme := s.takeWhile fun c => c.isAlphanum || c == '+' || c == '-' || c == '.'
  match s.drop scheme.length with
  | ':' :: '/' :: '/' :: rest =>
    let server := rest.takeWhile (!isEnd ·)
    !server.isEmpty && server.all isServerChar
  | _ => s.head? == some '/' || s.all isServerChar

/-- An event of the console. -/
def event (level : Level) (message : String) (fields : Fields) : Entry :=
  .event ⟨level, "scraper_core::kernel::observability", message, fields⟩ []

/-- The console that is wanted, and what is said about it first. -/
def start (o : Config.Observability) (wanted : Option String) : Console × List Entry :=
  let filter := filterOf wanted defaultFilter
  if !o.enabled then
    (⟨filter, .text, false⟩, [event .info "observability disabled, console logging only" []])
  else if isEndpoint o.endpoint.toList then
    (⟨filter, .json, true⟩, [event .info "trace export enabled"
      [("service_name", .shown o.serviceName), ("endpoint", .shown o.endpoint)]])
  else
    (⟨filter, .text, false⟩,
      [event .error "failed to initialize OTLP exporter, continuing without export"
        [("error", .shown "OTLP trace exporter error")]])

/-- The entry is the beginning of a span that is shown, and so exported. -/
def isExported (c : Console) : Entry → Bool
  | .span s => c.filter.showsSpan [] s
  | .event _ _ => false

/-- What is said at the end of a log. -/
def finish (c : Console) (log : List Entry) : List Entry :=
  if c.exports && log.any c.isExported then
    [event .warn "failed to flush trace exporter" [("error", .shown "the server is unreachable")]]
  else []

/-- The lines shown of a log. -/
def lines (c : Console) (log : List Entry) : List Line := c.filter.lines (log ++ c.finish log)

end Console

/-- What a program leaves behind. -/
structure Outcome where
  exitCode : Nat
  stdout : List String := []
  stderr : List String := []
  /-- What is shown of the log, and its form. -/
  log : List Line := []
  format : Format := .text
  deriving DecidableEq, Repr

/-- A program that ends with a failure. -/
def Outcome.ofFailure (f : Failure) : Outcome := { exitCode := 1, stderr := f.report }

end PageHarvest.Command
