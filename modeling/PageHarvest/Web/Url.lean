import PageHarvest.Web.Host

/-!
# Addresses on the web

A `Url` is an address in its normal form: scheme and host in their normal forms, no port where it is
that of the scheme, no credentials, a path without dot segments, and everything escaped that has to be.
`Url.ofText?` reads an address, `Url.join?` a reference that may leave out its first parts.
-/

namespace PageHarvest.Web

open Text

/-- How a server is spoken to. -/
inductive Scheme
  | http | https | ftp | ws | wss
  deriving DecidableEq, Repr

namespace Scheme

/-- The written form. -/
def name : Scheme → List Char
  | http => "http".toList
  | https => "https".toList
  | ftp => "ftp".toList
  | ws => "ws".toList
  | wss => "wss".toList

/-- The port of a server that does not name one. -/
def port : Scheme → Nat
  | http | ws => 80
  | https | wss => 443
  | ftp => 21

/-- Pages are to be had in this way. -/
def isWeb (s : Scheme) : Bool := s == http || s == https

/-- The scheme with this name. -/
def ofName? (name : List Char) : Option Scheme :=
  [http, https, ftp, ws, wss].find? (·.name == name)

end Scheme

/-- An address. -/
structure Url where
  scheme : Scheme
  host : Host
  /-- The port, if it is not that of the scheme. -/
  port : Option Nat
  segments : List (List Char)
  query : Option (List Char)
  fragment : Option (List Char)
  deriving DecidableEq, Repr

/-- Why a text is no address. -/
inductive UrlError
  | relative
  | badHost (e : HostError)
  | badPort
  /-- The address names another scheme. -/
  | otherScheme (address : List Char)
  /-- The name of the host cannot be sent. -/
  | unsendable (address : List Char)
  deriving DecidableEq, Repr

/-- The wording. -/
def UrlError.message : UrlError → String
  | relative => "relative URL without a base"
  | badHost e => e.message
  | badPort => "invalid port number"
  | otherScheme _ => "URL scheme is not allowed"
  | unsendable _ => "Parsed Url is not a valid Uri"

/-- The address, where it can be told although it is of no use. -/
def UrlError.address? : UrlError → Option (List Char)
  | otherScheme address | unsendable address => some address
  | _ => none

namespace Url

/-! ### Parts of a text -/

/-- A slash of either kind. -/
def isSlash (c : Char) : Bool := c == '/' || c == '\\'

/-- The character is a control character or a space. -/
def isControl (c : Char) : Bool := c.toNat ≤ 0x20

/-- The text without control characters and spaces at its ends, and without tabs and line ends. -/
def clean (s : List Char) : List Char :=
  let front := s.dropWhile isControl
  (front.reverse.dropWhile isControl).reverse.filter fun c =>
    !(c == '\t' || c == '\n' || c == '\r')

/-- The scheme that a text begins with, in lower case, and what follows its colon. -/
def scheme? (s : List Char) : Option (List Char × List Char) :=
  match s with
  | [] => none
  | c :: _ =>
    let (name, rest) := cut (fun d => !(d.isAlphanum || d == '+' || d == '-' || d == '.')) s
    match rest with
    | ':' :: rest => if c.isAlpha then some (name.map Char.toLower, rest) else none
    | _ => none

/-! ### Escapes -/

/-- The character stands for itself in a fragment. -/
def isPlainInFragment (c : Char) : Bool :=
  Host.isVisible c && !(['"', '<', '>', '\x60'].contains c)

/-- The character stands for itself in an address of another scheme. -/
def isPlainElsewhere (c : Char) : Bool := 0x20 ≤ c.toNat && c.toNat < 0x7F

/-- The character stands for itself in a path. -/
def isPlainInPath (c : Char) : Bool :=
  isPlainInFragment c && !(['#', '?', '\x7b', '\x7d'].contains c)

/-- The character stands for itself in a query. -/
def isPlainInQuery (c : Char) : Bool :=
  Host.isVisible c && !(['"', '<', '>', '#', '\''].contains c)

/-! ### Hosts -/

/-- The port that a text names: none if it is empty or the default. -/
def readPort (default : Option Nat) (s : List Char) : Except UrlError (Option Nat) :=
  if s.isEmpty then .ok none
  else if s.all Char.isDigit ∧ Nat.ofDigitChars 10 s 0 < Number.beyondBits 16 then
    let n := Nat.ofDigitChars 10 s 0
    .ok (if some n = default then none else some n)
  else .error .badPort

/-- A host, and what follows the first colon that is not in brackets. -/
def cutPort (inBrackets : Bool) : List Char → List Char × List Char
  | [] => ([], [])
  | c :: s =>
    if c == ':' && !inBrackets then ([], s)
    else
      let (host, port) := cutPort (c == '[' || (inBrackets && c != ']')) s
      (c :: host, port)

/-- A host that is read in one way or another, and a port. -/
def readHost (read? : List Char → Except HostError Host) (defaultPort : Option Nat)
    (s : List Char) : Except UrlError (Host × Option Nat) := do
  let (hostText, portText) := cutPort false s
  let host ← (read? hostText).mapError .badHost
  return (host, ← readPort defaultPort portText)

/-- What comes after the last `@`. -/
def afterCredentials (s : List Char) : List Char :=
  (s.reverse.takeWhile (· != '@')).reverse

/-! ### Paths -/

/-- The segment stands for the folder itself. -/
def isHere (s : List Char) : Bool :=
  s == ['.'] || s.map Char.toLower == ['%', '2', 'e']

/-- The segment stands for the folder above. -/
def isAbove (s : List Char) : Bool :=
  ["..", ".%2e", "%2e.", "%2e%2e"].contains (String.ofList (s.map Char.toLower))

/-- Segments in the folder `above`, whose segments are given innermost first. -/
def descend (above : List (List Char)) : List (List Char) → List (List Char)
  | [] => above.reverse
  | [s] =>
    -- A path that ends in either of these names a folder, so an empty segment comes last.
    if isAbove s then ([] :: above.drop 1).reverse
    else if isHere s then ([] :: above).reverse
    else (Percent.escape isPlainInPath s :: above).reverse
  | s :: t :: ss =>
    if isAbove s then descend (above.drop 1) (t :: ss)
    else if isHere s then descend above (t :: ss)
    else descend (Percent.escape isPlainInPath s :: above) (t :: ss)

/-- The optional part of a text after a mark. -/
def after? (isPlain : Char → Bool) (s : List Char) : Option (List Char) :=
  match s with
  | [] => none
  | _ :: s => some (Percent.escape isPlain s)

/-- An address from its server, the folder that its path starts in, and the rest of its text. -/
def withPath (scheme : Scheme) (host : Host) (port : Option Nat) (above : List (List Char))
    (s : List Char) : Url :=
  let (beforeFragment, fragment) := cut (· == '#') s
  let (path, query) := cut (· == '?') beforeFragment
  { scheme, host, port
    segments := descend above (split isSlash path)
    query := after? isPlainInQuery query
    fragment := after? isPlainInFragment fragment }

/-- An address from its scheme and the text after the slashes that follow the scheme. -/
def withHost (scheme : Scheme) (s : List Char) : Except UrlError Url := do
  let (authority, rest) := cut (fun c => isSlash c || c == '?' || c == '#') s
  let (host, port) ← readHost Host.ofText? (some scheme.port) (afterCredentials authority)
  .ok (withPath scheme host port [] (if rest.head?.any isSlash then rest.drop 1 else rest))

/-! ### Writing -/

/-- The address as text, as far as a server is told of it. -/
def toRequestText (u : Url) : List Char :=
  u.scheme.name ++ "://".toList ++ u.host.toText ++
    (u.port.elim [] fun n => ':' :: Nat.toDigits 10 n) ++
    '/' :: List.intercalate ['/'] u.segments ++ u.query.elim [] ('?' :: ·)

/-- The address as text. -/
def toText (u : Url) : List Char := u.toRequestText ++ u.fragment.elim [] ('#' :: ·)

/-! ### Reading -/

/-- The character cannot be sent in the name of a host, though it may be part of one. -/
def isUnsendable (c : Char) : Bool := ['"', '\x60', '\x7b', '\x7d'].contains c

/-- The address of a page, which is served in the ways of the web. -/
def onWeb (u : Url) : Except UrlError Url :=
  if !u.scheme.isWeb then .error (.otherScheme u.toText)
  else if u.host.toText.any isUnsendable then .error (.unsendable u.toText)
  else .ok u

/-- The text names its scheme, and what follows is not to be read with another address in mind. -/
def absolute? (base : Option Scheme) (s : List Char) : Option (Except UrlError Url) :=
  (scheme? s).bind fun (name, rest) =>
    match Scheme.ofName? name with
    | none => some (.error (.otherScheme (name ++ ':' :: Percent.escape isPlainElsewhere rest)))
    | some scheme =>
      -- With fewer than two slashes after the scheme of the page itself, the rest is relative.
      if base = some scheme ∧ (rest.takeWhile isSlash).length < 2 then none
      else some ((withHost scheme (rest.dropWhile isSlash)).bind onWeb)

/-- The address that a text spells. -/
def ofText? (s : List Char) : Except UrlError Url :=
  (absolute? none (clean s)).getD (.error .relative)

/-- The address that a reference spells on the page at `base`. -/
def join? (base : Url) (s : List Char) : Except UrlError Url :=
  let s := clean s
  match absolute? (some base.scheme) s with
  | some r => r
  | none =>
    let rest := ((scheme? s).map Prod.snd).getD s
    let onServer := withPath base.scheme base.host base.port
    match rest with
    | [] => .ok { base with fragment := none }
    | '#' :: r => .ok { base with fragment := some (Percent.escape isPlainInFragment r) }
    | '?' :: _ => .ok { onServer [] rest with segments := base.segments }
    | c :: r =>
      if isSlash c then
        if r.head?.any isSlash then withHost base.scheme (r.dropWhile isSlash)
        else .ok (onServer [] r)
      -- What the last segment of the page names is not a folder.
      else .ok (onServer base.segments.dropLast.reverse rest)

/-- Two addresses name the same server. -/
def sameServer (u v : Url) : Bool := u.scheme == v.scheme && u.host == v.host && u.port == v.port

end Url

end PageHarvest.Web
