import PageHarvest.Blob.Path
import PageHarvest.Web.Basic

/-!
# Buckets of remote objects

A `Bucket` is a place on the web that objects are put to, each to an address of its own.
-/

namespace PageHarvest.Blob

open Web

/-- A place for objects at a server. -/
structure Bucket where
  endpoint : String
  name : String
  deriving DecidableEq, Repr

namespace Bucket

/-- The bucket at an endpoint, or at that of its region if there is none. -/
def ofSettings (name region : String) (endpoint : Option String) : Bucket where
  endpoint := endpoint.getD ("https://s3." ++ region ++ ".amazonaws.com")
  name := name

/-- The character stands for itself in an address. -/
def isPlain (c : Char) : Bool := c.isAlphanum || ['-', '.', '_', '~', '/'].contains c

/-- The address of an object. -/
def address (b : Bucket) (p : Path) : List Char :=
  (b.endpoint.toList.reverse.dropWhile (· == '/')).reverse ++ '/' :: b.name.toList ++ '/' ::
    Text.Percent.escape isPlain p.toText

/-- What a server says that refuses an object. -/
def refusal (r : Response) : String :=
  "Client error with status " ++ r.status.toText ++ ": " ++ r.text

/-- Why an object was not stored, from the response of the server. -/
def failureOf (p : Path) (r : Response) : Failure :=
  let path := String.ofList p.toText
  let cause := refusal r
  if r.status.code = 401 ∨ r.status.code = 403 then
    ⟨"The operation lacked the necessary privileges to complete for path " ++ path ++ ": " ++ cause,
      [cause]⟩
  else if r.status.code = 404 then
    ⟨"Object at location " ++ path ++ " not found: " ++ cause, [cause]⟩
  else ⟨"Generic S3 error: " ++ cause, [cause]⟩

/-- The request that puts an object to its address. -/
def request (b : Bucket) (p : Path) (contentType : String) (body : List UInt8) :
    Except UrlError Request :=
  (Url.ofText? (b.address p)).map fun url =>
    { method := .put, url, headers := [("content-type", contentType)], body }

/-- An object put to its address, and the requests made for that. -/
def put (b : Bucket) (web : Web) (p : Path) (contentType : String) (body : List UInt8) :
    Except Failure Unit × List Request :=
  match b.request p contentType body with
  | .error e => (.error ⟨"Generic S3 error: " ++ e.message, [e.message]⟩, [])
  | .ok r =>
    match web.ask r with
    | (.error e, asked) => (.error (e.failure.during "Generic S3 error"), asked)
    | (.ok received, asked) =>
      if received.response.status.isSuccess then (.ok (), asked)
      else (.error (failureOf p received.response), asked)

end Bucket

end PageHarvest.Blob
