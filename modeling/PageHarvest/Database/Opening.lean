import PageHarvest.Database.Session
import PageHarvest.Web.Url

/-!
# Opening a session

A session with a database begins with its address.  Before the first job the tables can be brought
to where they have to be, unless somebody else has changed them.
-/

namespace PageHarvest.Database

/-- The server that the address of a database names.  It may name none, but neither a user nor a port
without a server. -/
def checkServer (s : List Char) : Except Web.UrlError Unit :=
  let (authority, rest) := Text.cut (fun c => c == '/' || c == '?' || c == '#') s
  let server := Web.Url.afterCredentials authority
  if server.isEmpty ∧ (authority.isEmpty ∨ (authority.length = 1 ∧ rest.isEmpty)) then .ok ()
  else if server.isEmpty ∨ server.head? = some ':' then .error (.badHost .missing)
  else (Web.Url.readHost Web.Host.ofPlainText? none server).map fun _ => ()

/-- The text is an address of the web. -/
def checkPage (s : List Char) : Except Web.UrlError Unit :=
  match Web.Url.ofText? s with
  | .ok _ => .ok ()
  | .error e => if e.address?.isSome then .ok () else .error e

/-- The text is an address of a database, or of the web. -/
def checkAddress (s : List Char) : Except Web.UrlError Unit :=
  let s := Web.Url.clean s
  match Web.Url.scheme? s with
  | none => .error .relative
  | some (name, rest) =>
    if (Web.Scheme.ofName? name).any Web.Scheme.isWeb then checkPage s
    else
      match rest with
      | '/' :: '/' :: rest => checkServer rest
      | _ => .ok ()

/-- Why an address is of no use. -/
def badAddress (e : Web.UrlError) : Failure :=
  ⟨"error with configuration: " ++ e.message, [e.message]⟩

/-- The session at an address. -/
def connect (s : Session) (address : String) : Except Failure Session :=
  match checkAddress address.toList with
  | .error e => .error (badAddress e)
  | .ok () => s.fault?.elim (.ok s) .error

/-! ### Tables -/

/-- The version of the tables. -/
def version : Nat := 20260210000001

/-- A change of the tables, by its version. -/
def numbered (n : Nat) : String := "migration " ++ String.ofList (Nat.toDigits 10 n)

/-- Why the tables cannot be brought to where they have to be, from the changes made before. -/
def obstacle? (made : List Migration) : Option Failure :=
  match made.find? (!·.finished) with
  | some m =>
    some ⟨numbered m.version ++
      " is partially applied; fix and remove row from `_sqlx_migrations` table", []⟩
  | none =>
    match made.find? (·.version != version) with
    | some m =>
      some ⟨numbered m.version ++
        " was previously applied but is missing in the resolved migrations", []⟩
    | none =>
      (made.find? (!·.unchanged)).map fun m =>
        ⟨numbered m.version ++ " was previously applied but has been modified", []⟩

/-- The failure of the first change of the tables, or of all of them, with its cause in its text. -/
def whileExecuting (what : String) (e : Failure) : Failure :=
  e.during ("while executing " ++ what ++ ": " ++ e.what)

/-- The tables made if they are missing. -/
def migrate (s : Session) : Except Failure Unit × Session :=
  match s with
  | .answering _ _ made =>
    match obstacle? made with
    | some e => (.error e, s)
    | none =>
      if made.isEmpty then
        match s.ask .create with
        | (.error e, s) => (.error (whileExecuting (numbered version) e), s)
        | (.ok _, s) => (.ok (), s)
      else (.ok (), s)
  | s => (s.fault?.elim (.ok ()) fun e => .error (whileExecuting "migrations" e), s)

end PageHarvest.Database
