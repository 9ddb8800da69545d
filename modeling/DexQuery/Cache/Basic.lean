import DexQuery.Failure
import DexQuery.Files.Tree

/-!
# The cache of unit texts

Below the root of the cache a unit's text lies at `key/bucket/name.ext`, where the name is the raw
name of the type with its `/` between directories. A name that would leave the bucket is refused.
An entry that cannot be read counts as absent, and nothing is ever removed.
-/

namespace DexQuery

/-- The kinds of unit text that are cached. -/
inductive Bucket where
  | source
  | disasm
deriving DecidableEq

/-- The directory of a bucket. -/
def Bucket.dirName : Bucket → String
  | .source => "source"
  | .disasm => "disasm"

/-- The extension of the files in a bucket, with its point. -/
def Bucket.extension : Bucket → String
  | .source => ".java"
  | .disasm => ".smali"

/-- A cache: its root directory, as it was named and as a path. -/
structure Cache where
  rootText : String
  root : Files.Path

namespace Cache

/-- Whether a key is made of ASCII letters and digits. -/
def validKey (key : String) : Bool :=
  key != "" && key.toList.all fun c =>
    ('0' ≤ c && c ≤ '9') || ('a' ≤ c && c ≤ 'z') || ('A' ≤ c && c ≤ 'Z')

/-- Whether a piece of a raw name can name a file or directory of its own. -/
def validSegment (seg : String) : Bool := seg != "" && seg != "." && seg != ".."

/-- The names of a raw name's directories and file, if all of them are valid. -/
def segments? (name : String) : Option (List String) :=
  let segs := Text.split '/' name
  if !name.toList.contains '\\' && segs.all validSegment then some segs else none

/-- The path of an entry below the root. -/
def entry? (key : String) (bucket : Bucket) (name : String) : Option Files.Path :=
  if validKey key then
    match segments? name with
    | none => none
    | some segs =>
      match segs.getLast? with
      | none => none
      | some last => some (key :: bucket.dirName :: segs.dropLast ++ [last ++ bucket.extension])
  else none

/-- The stored text, none if there is no entry or it cannot be read as text. -/
def get (c : Cache) (t : Files.Tree) (key : String) (bucket : Bucket) (name : String) :
    Option String :=
  match entry? key bucket name with
  | none => none
  | some p =>
    match t.readFile (c.root ++ p) with
    | .ok bytes => String.fromUTF8? bytes
    | .error _ => none

/-- Stores a text, replacing what the entry held. -/
def put (c : Cache) (t : Files.Tree) (key : String) (bucket : Bucket) (name text : String) :
    Except Failure Unit × Files.Tree :=
  match entry? key bucket name with
  | none => (.error (.invalidParams ("invalid cache entry name: " ++ name)), t)
  | some p =>
    match t.writeDeep (c.root ++ p) text.toUTF8 with
    | (.ok (), t') => (.ok (), t')
    | (.error e, t') =>
      let place := "/".intercalate (c.rootText :: p)
      (.error (.internal ("cache write " ++ place ++ ": " ++ e.message)), t')

end Cache
end DexQuery
