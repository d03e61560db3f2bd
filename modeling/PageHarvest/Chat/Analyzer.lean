import PageHarvest.Chat.Message
import PageHarvest.Log.Entry
import PageHarvest.Posting
import PageHarvest.Web.Basic

/-!
# Postings made out by a chat

The text of a page is sent to a chat, and the content of its reply is read as a record of the
posting.  Whatever goes wrong on the way, the record is then empty.
-/

namespace PageHarvest.Chat

open Log

/-- Where a chat is and what it is asked. -/
structure Analyzer where
  apiKey : String
  /-- The address of the service, without slashes at its end. -/
  baseUrl : List Char
  model : String
  template : String := defaultTemplate
  deriving DecidableEq, Repr

/-- Why there is no record. -/
inductive Error
  | network (e : Web.Error)
  | refused (status : Web.Status) (body : String)
  | noContent
  | badReply
  | badRecord
  deriving DecidableEq, Repr

/-- The wording.  What exactly is wrong with a reply or a content is not told. -/
def Error.message : Error → String
  | network e => "Network error: " ++ e.failure.what
  | refused status body => "API error: " ++ status.toText ++ ": " ++ body
  | noContent => "API error: No response content"
  | badReply => "Parse error: error decoding response body"
  | badRecord => "Parse error: the content is no record of a posting"

namespace Analyzer

/-- The address without the slashes at its end. -/
def withoutSlashes (url : List Char) : List Char := (url.reverse.dropWhile (· == '/')).reverse

/-- The chat at an address. -/
def ofAddress (apiKey baseUrl model : String) : Analyzer :=
  { apiKey, baseUrl := withoutSlashes baseUrl.toList, model }

/-- The most references that are followed on the way to a reply. -/
def redirects : Nat := 10

/-- The character may stand in a header. -/
def isHeaderChar (c : Char) : Bool := c == '\t' || (c.toNat ≥ 0x20 && c.toNat != 0x7F)

/-- The request about a text. -/
def request (a : Analyzer) (text : String) : Except Web.Error Web.Request :=
  match Web.Url.ofText? (a.baseUrl ++ "/chat/completions".toList) with
  | .error e => .error (.badUrl e)
  | .ok url =>
    if a.apiKey.toList.all isHeaderChar then
      .ok {
        method := .post
        url
        headers := [("authorization", "Bearer " ++ a.apiKey), ("content-type", "application/json")]
        body := Text.Utf8.encode (Request.about a.model a.template.toList text.toList).toText }
    else .error .badHeader

/-- What is said about a reply. -/
def repliedEvent (a : Analyzer) : Entry :=
  .event ⟨.debug, "scraper_core::kernel::ai", "analysis completion",
    [("model", .shown a.model), ("duration_ms", .number 0)]⟩ []

/-- What is said when there is no record. -/
def failedEvent (a : Analyzer) (e : Error) : Entry :=
  .event ⟨.warn, "scraper_core::kernel::ai", "analysis failed, using empty record",
    [("model", .shown a.model), ("error", .shown e.message)]⟩ []

/-- The content of a reply that has arrived. -/
def content (r : Web.Received) : Except Error (List Char) :=
  if r.response.status.isSuccess then
    match r.body?.bind Reply.ofBytes? with
    | none => .error .badReply
    | some reply => reply.content?.elim (.error .noContent) .ok
  else .error (.refused r.response.status (r.text?.getD ""))

/-- What the chat replies about a text, and the requests made for that. -/
def ask (a : Analyzer) (web : Web) (text : String) :
    Except Error (List Char) × List Web.Request :=
  match a.request text with
  | .error e => (.error (.network e), [])
  | .ok r =>
    match web.send redirects r with
    | (.error e, asked) => (.error (.network e), asked)
    | (.ok received, asked) => (content received, asked)

/-- The record of the posting that a content denotes. -/
def record (content : List Char) : Except Error Posting :=
  (Posting.ofText? content).elim (.error .badRecord) .ok

/-- The record of the posting in a text, the requests made for it, and what is said about that. -/
def analyze (a : Analyzer) (web : Web) (text : String) :
    Posting × List Web.Request × List Entry :=
  match a.ask web text with
  | (.error e, asked) => (.empty, asked, [a.failedEvent e])
  | (.ok content, asked) =>
    match record content with
    | .ok posting => (posting, asked, [a.repliedEvent])
    | .error e => (.empty, asked, [a.repliedEvent, a.failedEvent e])

end Analyzer

end PageHarvest.Chat
