import PageHarvest.Text.Percent

/-!
# Paths of objects

The key of an object is cut at slashes into segments, of which the empty ones do not count.  In a
path each segment is escaped, so that it holds no character with a special meaning and names
neither the folder it is in nor the one above.
-/

namespace PageHarvest.Blob

/-- The segments of a key that are not empty. -/
def segments : List Char → List (List Char)
  | [] => []
  | c :: s =>
    if c = '/' then segments s
    else match s with
      | [] => [[c]]
      | d :: _ =>
        if d = '/' then [c] :: segments s
        else match segments s with
          | [] => [[c]]
          | w :: ws => (c :: w) :: ws

/-- The characters that are escaped, apart from control characters and those outside of ASCII. -/
def special : List Char :=
  ['/', '\\', '\x7b', '^', '\x7d', '%', '\x60', ']', '"', '>', '[', '~', '<', '#', '|', '*', '?']

/-- The character stands for itself in a path. -/
def isPlain (c : Char) : Bool :=
  0x20 ≤ c.toNat && c.toNat < 0x7F && !special.contains c

/-- A segment as it stands in a path. -/
def escape (s : List Char) : List Char :=
  if s = ['.'] ∨ s = ['.', '.'] then s.flatMap fun _ => ['%', '2', 'E']
  else Text.Percent.escape isPlain s

/-- Where an object is. -/
structure Path where
  segments : List (List Char)
  deriving DecidableEq, Repr

namespace Path

/-- The path of the object with this key.  There is none for a key without a segment. -/
def ofKey? (key : List Char) : Option Path :=
  match Blob.segments key with
  | [] => none
  | ss => some ⟨ss.map escape⟩

/-- The segments with slashes between them. -/
def toText (p : Path) : List Char :=
  List.intercalate ['/'] p.segments

end Path

end PageHarvest.Blob
