import PageHarvest.Failure
import PageHarvest.Web.Charset
import PageHarvest.Web.Status
import PageHarvest.Web.Url

/-!
# Requests and responses

The `Web` says how each address reacts to a request.  `send` follows the references from one address
to another, up to a number of them, and also tells which requests were made.
-/

namespace PageHarvest.Web

/-- What a request is for. -/
inductive Method
  | get | post | put
  deriving DecidableEq, Repr

/-- The written form. -/
def Method.name : Method → String
  | get => "GET"
  | post => "POST"
  | put => "PUT"

/-- Named values that go with a request or a response. -/
abbrev Headers := List (String × String)

/-- The name in lower case, as far as ASCII letters go. -/
def lowerName (s : String) : List Char := s.toList.map Char.toLower

/-- The value of the header with this name, in any case. -/
def Headers.get? (hs : Headers) (name : String) : Option String :=
  (hs.find? fun h => lowerName h.1 == lowerName name).map Prod.snd

/-- A request. -/
structure Request where
  method : Method
  url : Url
  headers : Headers := []
  body : List UInt8 := []
  deriving DecidableEq, Repr

/-- A response. -/
structure Response where
  status : Status
  headers : Headers := []
  body : List UInt8 := []
  deriving DecidableEq, Repr

/-- The text of the body, in the character set that the media type names. -/
def Response.text (r : Response) : String :=
  let charset := (r.headers.get? "content-type").elim .utf8 fun type =>
    Charset.ofMediaType type.toList
  String.ofList (charset.decodePage r.body)

/-- How an address reacts to a request. -/
inductive Reaction
  | answer (r : Response)
  /-- The body ends too early. -/
  | cutShort (r : Response)
  /-- The connection is closed without a response. -/
  | hangUp
  deriving DecidableEq, Repr

end PageHarvest.Web

namespace PageHarvest

/-- What there is to be reached.  Each address reacts in one way, to every method and body, and however
often it was asked before. -/
inductive Web
  /-- There is no way to any server. -/
  | unreachable
  /-- Addresses and their reactions.  The first entry of an address counts, and there
  is no page at one without an entry. -/
  | serving (reactions : List (String × Web.Reaction))
  deriving DecidableEq, Repr

namespace Web

/-- Why a request has no response. -/
inductive Error
  | badUrl (e : UrlError)
  | badHeader
  | unreachable (url : Url)
  | hangUp (url : Url)
  | tooManyRedirects (url : Url)
  deriving DecidableEq, Repr

/-- An address in brackets. -/
def inBrackets (url : List Char) : String := " for url (" ++ String.ofList url ++ ")"

/-- The wording. -/
def Error.failure : Error → Failure
  | badUrl e =>
    ⟨"builder error" ++ e.address?.elim "" inBrackets, [e.message]⟩
  | badHeader => ⟨"builder error", ["failed to parse header value"]⟩
  | unreachable url => ⟨"error sending request" ++ inBrackets url.toText,
      ["client error (Connect)", "tcp connect error", "Network is unreachable (os error 101)"]⟩
  | hangUp url => ⟨"error sending request" ++ inBrackets url.toText,
      ["client error (SendRequest)", "connection closed before message completed"]⟩
  | tooManyRedirects url =>
    ⟨"error following redirect" ++ inBrackets url.toText, ["too many redirects"]⟩

/-- A response that has arrived. -/
structure Received where
  response : Response
  /-- The body is complete. -/
  whole : Bool
  deriving DecidableEq, Repr

/-- A response as it arrives.  Where its status leaves no room for a body, what follows the headers is
not read, and nothing can be missing from it. -/
def Received.of (r : Response) (whole : Bool) : Received :=
  if r.status.isBodiless then ⟨{ r with body := [] }, true⟩ else ⟨r, whole⟩

/-- The body, if it is complete. -/
def Received.body? (r : Received) : Option (List UInt8) :=
  if r.whole then some r.response.body else none

/-- The text of the body, if it is complete. -/
def Received.text? (r : Received) : Option String :=
  if r.whole then some r.response.text else none

/-- The response of an address that is not there. -/
def noSuchPage : Response := ⟨⟨404⟩, [], Text.Utf8.encode "no such page".toList⟩

/-- What comes back from an address that reacts in this way. -/
def Reaction.received (url : Url) : Reaction → Except Error Received
  | answer r => .ok (.of r true)
  | cutShort r => .ok (.of r false)
  | hangUp => .error (.hangUp url)

/-- What a single request leads to, and whether it was made. -/
def ask (web : Web) (r : Request) : Except Error Received × List Request :=
  match web with
  | unreachable => (.error (.unreachable r.url), [])
  | serving reactions =>
    let reaction := (reactions.lookup (String.ofList r.url.toRequestText)).getD (.answer noSuchPage)
    (reaction.received r.url, [r])

/-- The headers that another server may see. -/
def publicHeaders (hs : Headers) : Headers :=
  hs.filter fun h => lowerName h.1 != "authorization".toList

/-- The request that a response refers to, made to another address. -/
def Request.moved (r : Request) (status : Status) (url : Url) : Request :=
  let headers := if r.url.sameServer url then r.headers else publicHeaders r.headers
  if status.isReferral then
    { method := .get, url, headers := headers.filter (lowerName ·.1 != "content-type".toList) }
  else { r with url, headers }

/-- The request that a response refers to, if it refers to any. -/
def Request.next? (r : Request) (response : Response) : Option (Except Error Request) :=
  if response.status.isReferral || response.status.isRelocation then
    (response.headers.get? "location").bind fun location =>
      match r.url.join? location.toList with
      | .ok url => some (.ok (r.moved response.status url))
      | .error e => e.address?.map fun _ => .error (.badUrl e)
  else none

/-- The response that a request leads to if at most `redirects` references are followed, and the
requests that were made. -/
def send (web : Web) : Nat → Request → Except Error Received × List Request
  | redirects, r =>
    match web.ask r with
    | (.error e, asked) => (.error e, asked)
    | (.ok received, asked) =>
      match r.next? received.response with
      | none => (.ok received, asked)
      | some (.error e) => (.error e, asked)
      | some (.ok next) =>
        match redirects with
        | 0 => (.error (.tooManyRedirects r.url), asked)
        | redirects + 1 =>
          let (outcome, later) := send web redirects next
          (outcome, asked ++ later)

end Web

end PageHarvest
