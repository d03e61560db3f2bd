import PageHarvest.Json.Record

/-!
# Records of postings

What was made out about the posting on a page.  Anything that was not made out is empty, and in a
record it may be null or missing as well.
-/

namespace PageHarvest

open Json Text

/-- What was made out about a posting. -/
structure Posting where
  title : String := ""
  publishedAt : String := ""
  requirements : List String := []
  summary : String := ""
  stack : List String := []
  salary : String := ""
  deriving DecidableEq, Repr

namespace Posting

/-- Nothing was made out. -/
def empty : Posting := {}

/-- A record for trials. -/
def fixed : Posting where
  title := "Software Engineer (Fake)"
  publishedAt := "2026-02-11"
  requirements := ["Python", "Rust", "Unit Testing"]
  summary := "A high-impact role in a fake environment."
  stack := ["FastAPI", "Postgres", "Docker"]
  salary := "€100K - €120K"

/-- The names of the fields in their order. -/
def fieldNames : List String :=
  ["title", "published_at", "requirements", "summary", "stack", "salary"]

/-- A text in a record. -/
def readText? (v : Value) : Option String := v.asText?.map String.ofList

/-- A field that is empty when it is missing or null. -/
def lenient? {α : Type} (read : Value → Option α) (nothing : α) (field : Option Value) :
    Option α :=
  (optional? read field).map (·.getD nothing)

/-- A text field. -/
def textField? : Option Value → Option String := lenient? readText? ""

/-- A field with a list of texts. -/
def listField? : Option Value → Option (List String) := lenient? (Value.asList? readText?) []

/-- The record that a JSON value denotes. -/
def ofJson? (v : Value) : Option Posting :=
  match v.fields? fieldNames 0 with
  | some [title, publishedAt, requirements, summary, stack, salary] => do
    some {
      title := ← textField? title
      publishedAt := ← textField? publishedAt
      requirements := ← listField? requirements
      summary := ← textField? summary
      stack := ← listField? stack
      salary := ← textField? salary }
  | _ => none

/-- The record as a JSON value. -/
def toJson (p : Posting) : Value :=
  let text (s : String) : Value := .text s.toList
  .record
    [("title", text p.title),
     ("published_at", text p.publishedAt),
     ("requirements", .array (p.requirements.map text)),
     ("summary", text p.summary),
     ("stack", .array (p.stack.map text)),
     ("salary", text p.salary)]

/-- The record that a text denotes. -/
def ofText? (s : List Char) : Option Posting := (Value.ofText? s).bind ofJson?

/-- The record as text. -/
def toText (p : Posting) : List Char := p.toJson.write

end Posting

end PageHarvest
