import PageHarvest.Log.Entry
import PageHarvest.Web.Basic

/-!
# Pages from the web

A page is fetched with the headers of a browser.  Only a response that grants the request counts, and
only if its body arrives whole.
-/

namespace PageHarvest.Web

/-- The headers of a browser. -/
def browserHeaders : Headers :=
  [("accept", "text/html,application/xhtml+xml,application/xml;q=0.9,image/webp,*/*;q=0.8"),
   ("accept-language", "en-US,en;q=0.9"), ("connection", "keep-alive"),
   ("upgrade-insecure-requests", "1"),
   ("user-agent", "Mozilla/5.0 (Macintosh; Intel Mac OS X 10_15_7) AppleWebKit/537.36 " ++
      "(KHTML, like Gecko) Chrome/120.0.0.0 Safari/537.36")]

/-- The most references that are followed on the way to a page. -/
def pageRedirects : Nat := 5

/-- Why a body that ends too early cannot be read. -/
def cutShort : Failure :=
  ⟨"error decoding response body",
    ["error reading a body from connection", "end of file before message length reached"]⟩

/-- The text of a page that has arrived. -/
def Received.page (address : String) (r : Received) : Except Failure String :=
  if r.response.status.isSuccess then
    r.text?.elim (.error (cutShort.during "Failed to read response body")) .ok
  else .error ⟨"HTTP " ++ r.response.status.toText ++ " for " ++ address, []⟩

/-- The page at an address, and the requests made for it. -/
def page (web : Web) (address : String) : Except Failure String × List Request :=
  let failed (e : Error) := e.failure.during ("HTTP request failed for " ++ address)
  match Url.ofText? address.toList with
  | .error e => (.error (failed (.badUrl e)), [])
  | .ok url =>
    match web.send pageRedirects { method := .get, url, headers := browserHeaders } with
    | (.error e, asked) => (.error (failed e), asked)
    | (.ok received, asked) => (received.page address, asked)

/-- What is said when a page is fetched. -/
def fetchingEvent (address : String) : Log.Event where
  level := .debug
  target := "scraper_core::kernel::http_fetcher"
  message := "fetching page"
  fields := [("url", .shown address)]

end PageHarvest.Web
