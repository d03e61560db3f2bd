import PageHarvest.Text.Percent
import PageHarvest.Text.Utf8
import PageHarvest.Web.Host.Name
import PageHarvest.Web.Host.Numbers

/-!
# Hosts

What an address has between its slashes: the name of a host, or its number.  `Host.ofText?` reads it
for the web, where names are normal, `Host.ofPlainText?` for other services, where they are as they
are written.
-/

namespace PageHarvest.Web

/-- A host. -/
inductive Host
  | name (text : List Char)
  /-- A number of 32 bits. -/
  | four (number : Nat)
  /-- A number of 128 bits in eight groups. -/
  | eight (groups : List Nat)
  deriving DecidableEq, Repr

/-- Why a text names no host. -/
inductive HostError
  | missing
  | badName
  | badChar
  | badFour
  | badEight
  deriving DecidableEq, Repr

/-- The wording. -/
def HostError.message : HostError → String
  | missing => "empty host"
  | badName => "invalid international domain name"
  | badChar => "invalid domain character"
  | badFour => "invalid IPv4 address"
  | badEight => "invalid IPv6 address"

namespace Host

open Text

/-- The written form. -/
def toText : Host → List Char
  | name s => s
  | four n => fourNumbersText n
  | eight gs => '[' :: eightGroupsText gs ++ [']']

/-- The host whose text is the one given after an opening bracket. -/
def ofBrackets? (s : List Char) : Except HostError Host :=
  if s.getLast? = some ']' then
    (eightGroups? s.dropLast).elim (.error .badEight) (.ok ∘ eight)
  else .error .badEight

/-- The host that a text names on the web. -/
def ofText? (s : List Char) : Except HostError Host :=
  match s with
  | [] => .error .missing
  | '[' :: r => ofBrackets? r
  | _ =>
    match name? (Symbol.lossy (Utf8.decode (Percent.unescape s))) with
    | none => .error .badName
    | some [] => .error .missing
    | some n =>
      if endsInNumber n then (fourNumbers? n).elim (.error .badFour) (.ok ∘ four)
      else .ok (name n)

/-- The character cannot stand in a name that is taken as it is written. -/
def isForbiddenPlain (c : Char) : Bool := c == ' ' || (c != '%' && marks.contains c)

/-- The host that a text names to other services. -/
def ofPlainText? (s : List Char) : Except HostError Host :=
  match s with
  | '[' :: r => ofBrackets? r
  | _ =>
    if s.any isForbiddenPlain then .error .badChar
    else .ok (name (Percent.escape (fun c => 0x20 ≤ c.toNat && c.toNat < 0x7F) s))

end Host

end PageHarvest.Web
