import PageHarvest.Number.Unsigned

/-!
# Options on the command line

The program that takes back stale leases has options with values and flags.  An option is settled
only when the next one is met or the line ends, so that what is wrong with the next argument may be
reported before what is wrong with the value of the option.
-/

namespace PageHarvest.Command

/-- An option that has a value. -/
inductive ValueOption
  | databaseUrl | olderThan
  deriving DecidableEq, Repr

namespace ValueOption

/-- The name. -/
def name : ValueOption → String
  | databaseUrl => "database-url"
  | olderThan => "older-than-secs"

/-- The name and what stands for the value. -/
def usage : ValueOption → String
  | databaseUrl => "--database-url <DATABASE_URL>"
  | olderThan => "--older-than-secs <OLDER_THAN_SECS>"

/-- All of them. -/
def all : List ValueOption := [databaseUrl, olderThan]

end ValueOption

/-- What is given on the command line. -/
structure Options where
  databaseUrl : Option String := none
  /-- The least age of a stale lease, in seconds. -/
  olderThan : Option Nat := none
  /-- Nothing is to be changed. -/
  dryRun : Bool := false
  deriving DecidableEq, Repr

/-- Why a command line says nothing of the kind. -/
inductive UsageError
  | unexpected (argument : String)
  | surplus (value option : String)
  | noValue (option : ValueOption)
  | repeated (option : String)
  | badValue (value : String) (option : ValueOption) (cause : Number.UnsignedError)
  | incomplete
  /-- Help is asked for. -/
  | help
  deriving DecidableEq, Repr

/-- The wording. -/
def UsageError.message : UsageError → String
  | unexpected argument => "unexpected argument '" ++ argument ++ "' found"
  | surplus value option =>
    "unexpected value '" ++ value ++ "' for '" ++ option ++ "' found; no more were expected"
  | noValue option => "a value is required for '" ++ option.usage ++ "' but none was supplied"
  | repeated option => "the argument '" ++ option ++ "' cannot be used multiple times"
  | badValue value option cause =>
    "invalid value '" ++ value ++ "' for '" ++ option.usage ++ "': " ++ cause.message
  | incomplete => "the following required arguments were not provided:"
  | help => "help is asked for"

namespace Options

/-- An option that has been met last: what it is, and its value if that has been met as well. -/
abbrev Pending := Option (ValueOption × Option String)

/-- The options with one more. -/
def set (o : Options) (option : ValueOption) (value : String) : Except UsageError Options :=
  match option with
  | .databaseUrl =>
    if o.databaseUrl.isSome then .error (.repeated option.usage)
    else .ok { o with databaseUrl := some value }
  | .olderThan =>
    if o.olderThan.isSome then .error (.repeated option.usage)
    else
      match Number.readUnsigned (Number.beyondBits 64) value.toList with
      | .ok n => .ok { o with olderThan := some n }
      | .error cause => .error (.badValue value option cause)

/-- The options with the one that has been met last. -/
def settle (o : Options) : Pending → Except UsageError Options
  | none => .ok o
  | some (option, none) => .error (.noValue option)
  | some (option, some value) => o.set option value

/-- An argument with two dashes: its name, and a value if one is attached. -/
def longOption (o : Options) (pending : Pending) (name : String) (value : Option String) :
    Except UsageError (Options × Pending) :=
  match ValueOption.all.find? (·.name == name), value with
  | some option, some value => do
    let o ← o.settle pending
    .ok (← o.set option value, none)
  | some option, none => do .ok (← o.settle pending, some (option, none))
  | none, some value =>
    if name = "dry-run" ∨ name = "help" then .error (.surplus value ("--" ++ name))
    else .error (.unexpected ("--" ++ name))
  | none, none =>
    if name = "dry-run" then do
      let o ← o.settle pending
      if o.dryRun then .error (.repeated "--dry-run") else .ok ({ o with dryRun := true }, none)
    else if name = "help" then do
      let _ ← o.settle pending
      .error .help
    else .error (.unexpected ("--" ++ name))

/-- An argument with one dash and the character after it. -/
def shortOption (o : Options) (pending : Pending) (c : Char) : Except UsageError Options :=
  if c = 'h' then do
    let _ ← o.settle pending
    .error .help
  else .error (.unexpected (String.ofList ['-', c]))

/-- The options that the arguments go on with. -/
def readFrom (o : Options) (pending : Pending) : List String → Except UsageError Options
  | [] => o.settle pending
  | argument :: rest =>
    match argument.toList with
    | ['-', '-'] =>
      match rest with
      | [] => o.settle pending
      | next :: _ => .error (.unexpected next)
    | '-' :: '-' :: s => do
      let name := s.takeWhile (· != '=')
      let value := if name.length < s.length then some (String.ofList (s.drop (name.length + 1)))
        else none
      let (o, pending) ← o.longOption pending (String.ofList name) value
      o.readFrom pending rest
    | '-' :: c :: _ => do
      let o ← o.shortOption pending c
      o.readFrom none rest
    | _ =>
      match pending with
      | some (option, none) => o.readFrom (some (option, some argument)) rest
      | _ => .error (.unexpected argument)

/-- The options that the arguments give. -/
def ofArguments (arguments : List String) : Except UsageError Options :=
  readFrom {} none arguments

end Options

/-- The help, which shows the address of the database that the environment gives. -/
def help (databaseUrl : Option String) : List String :=
  ["Move stale PROCESSING scrape jobs back to PENDING",
   "",
   "Usage: requeue_stale [OPTIONS] --database-url <DATABASE_URL>",
   "",
   "Options:",
   "      --database-url <DATABASE_URL>",
   "          Queue connection string [env: DATABASE_URL=" ++ databaseUrl.getD "" ++ "]",
   "      --older-than-secs <OLDER_THAN_SECS>",
   "          Minimum lease age before a job counts as stale [default: 3600]",
   "      --dry-run",
   "          Report what would be requeued without changing anything",
   "  -h, --help",
   "          Print help"]

end PageHarvest.Command
