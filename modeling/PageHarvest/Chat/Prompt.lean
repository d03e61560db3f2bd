import PageHarvest.Text.Blank

/-!
# Prompts

A prompt is made from a template by putting a text in the place of each placeholder.  The template is
cut at its placeholders once, so what the text itself holds does not count (`fill`).
-/

namespace PageHarvest.Chat

open Text

/-- What a template has where the text goes. -/
def placeholder : List Char := "\x7btext\x7d".toList

/-- The parts of a template before, between and after the places where `mark` stands, found from the
left.  The first argument is the number of characters of a mark still to be passed over. -/
def partsAfter (mark : List Char) : Nat → List Char → List (List Char)
  | _, [] => [[]]
  | n + 1, _ :: s => partsAfter mark n s
  | 0, c :: s =>
    if mark.isPrefixOf (c :: s) then [] :: partsAfter mark (mark.length - 1) s
    else attach c (partsAfter mark 0 s)

/-- The parts of a template between its placeholders. -/
def parts (template : List Char) : List (List Char) := partsAfter placeholder 0 template

/-- The template with the text in its placeholders. -/
def fill (template text : List Char) : List Char := List.intercalate text (parts template)

/-- What is asked about a posting if nothing else is said. -/
def defaultTemplate : String :=
  "Extract the following fields from the job posting below and return them as a JSON object:\n" ++
  "- \"title\": the job title\n" ++
  "- \"published_at\": the publication date as written on the page\n" ++
  "- \"requirements\": a list of required skills or qualifications\n" ++
  "- \"summary\": a two-sentence summary of the role\n" ++
  "- \"stack\": a list of technologies, languages, and tools mentioned\n" ++
  "- \"salary\": the salary or compensation range as written on the page\n\n" ++
  "Job posting:\n\x7btext\x7d"

/-- What is said before every prompt. -/
def instruction : String :=
  "You are a specialized parser for job postings. You must respond ONLY with a valid JSON object " ++
  "matching the requested schema. Use empty strings or lists for missing values."

end PageHarvest.Chat
