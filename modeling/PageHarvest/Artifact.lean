import PageHarvest.Uuid

/-!
# Artifacts

What is kept of a page: its text, and what was made out about the posting on it.  Where an artifact
is kept follows from its owner, its position and its kind alone.
-/

namespace PageHarvest

/-- A kind of artifact. -/
inductive Artifact
  /-- The text of the page. -/
  | content
  /-- The record of the posting. -/
  | analysis
  deriving DecidableEq, Repr

namespace Artifact

/-- The last part of the key. -/
def extension : Artifact → String
  | content => "html"
  | analysis => "json"

/-- The media type. -/
def contentType : Artifact → String
  | content => "text/html"
  | analysis => "application/json"

/-- The first part of every key. -/
def keyStem : String := "scraper"

/-- The key under which the artifact of a position is kept. -/
def key (owner position : Uuid) (kind : Artifact) : List Char :=
  keyStem.toList ++ '/' :: owner.toText ++ '/' :: position.toText ++ '.' :: kind.extension.toList

end Artifact

end PageHarvest
