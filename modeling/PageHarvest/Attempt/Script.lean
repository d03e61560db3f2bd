import PageHarvest.Attempt.Pipeline

/-!
# Scripted collaborators

For trials: pages, the record of the posting, refusals to store and delays are all given in advance,
and what was asked is kept.
-/

namespace PageHarvest.Attempt

/-- What the collaborators will do. -/
structure Script where
  /-- What is given for a page, one after the other; after the last one, empty pages. -/
  pages : List (Except String String) := []
  /-- The record that is made of any text. -/
  posting : Option Posting := none
  /-- Nothing is stored if this is empty, and nothing of this media type otherwise. -/
  refuses : Option String := none
  fetchDelay : Time.Span := ⟨0⟩
  analyzeDelay : Time.Span := ⟨0⟩
  storeDelay : Time.Span := ⟨0⟩

namespace Script

/-- What is left of the pages, and what was asked. -/
structure State where
  pages : List (Except String String)
  fetched : List String := []
  analyzed : List String := []
  puts : List Stored := []

/-- Nothing was asked. -/
def start (script : Script) : State := { pages := script.pages }

/-- What a store says that takes nothing. -/
def unavailable : Failure := ⟨"storage unavailable", []⟩

/-- Artifacts of this kind are refused. -/
def isRefused (script : Script) (kind : Artifact) : Bool :=
  script.refuses.any fun type => type.isEmpty || type == kind.contentType

/-- The next page. -/
def fetch (url : String) (s : State) : Except Failure String × State × List Log.Entry :=
  let page : Except Failure String := match s.pages.head? with
    | some (.ok markup) => .ok markup
    | some (.error message) => .error ⟨message, []⟩
    | none => .ok ""
  (page, { s with pages := s.pages.drop 1, fetched := s.fetched ++ [url] }, [])

/-- A text stored, unless it is refused. -/
def put (script : Script) (kind : Artifact) (key body : String) (s : State) :
    Except Failure Unit × State × List Log.Entry :=
  if script.isRefused kind then (.error unavailable, s, [])
  else (.ok (), { s with puts := s.puts ++ [⟨key, kind, body⟩] }, [])

/-- Those that act by the script. -/
def collaborators (script : Script) : Collaborators State where
  fetch url := ⟨script.fetchDelay, fetch url⟩
  analyze := script.posting.map fun posting text =>
    ⟨script.analyzeDelay, fun s => (posting, { s with analyzed := s.analyzed ++ [text] }, [])⟩
  put kind key body := ⟨script.storeDelay, put script kind key body⟩

end Script

end PageHarvest.Attempt
