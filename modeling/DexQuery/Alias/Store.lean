import DexQuery.Failure
import DexQuery.Keyed

/-!
# Alias stores

Aliases are display names attached to identifiers. A store keeps one alias for each identifier in
a file of its own, to which it is connected until it is released; releasing it removes the file. A
new store on the file finds what the old one left there.
-/

namespace DexQuery

/-- What is stored for an identifier: the kind of the entity and its display name. -/
structure Label where
  kind : String
  name : String
deriving DecidableEq

/-- A store: the rows of its file, if that exists, and whether the store is connected to it. -/
structure AliasStore where
  file : Option (List (String × Label))
  connected : Bool

namespace AliasStore

/-- A place where no store has been opened. -/
def absent : AliasStore := ⟨none, false⟩

/-- Opens a new store on the file of an old one; a file that does not exist is made. -/
def reopen (s : AliasStore) : AliasStore := ⟨some (s.file.getD []), true⟩

/-- A store that has just been opened on a new file. -/
def fresh : AliasStore := absent.reopen

/-- The rows, as long as the store is connected. -/
def rows (s : AliasStore) : Except Failure (List (String × Label)) :=
  match s.connected, s.file with
  | true, some rs => .ok rs
  | _, _ => .error .sessionClosed

/-- Whether the file exists. -/
def hasFile (s : AliasStore) : Bool := s.file.isSome

/-- Attaches an alias to an identifier, replacing the one it had. -/
def upsert (s : AliasStore) (id kind name : String) : Except Failure Unit × AliasStore :=
  match s.rows with
  | .error e => (.error e, s)
  | .ok rs => (.ok (), { s with file := some (Keyed.insert id ⟨kind, name⟩ rs) })

/-- Takes the alias from an identifier and says whether it had one. -/
def remove (s : AliasStore) (id : String) : Except Failure Bool × AliasStore :=
  match s.rows with
  | .error e => (.error e, s)
  | .ok rs => (.ok (Keyed.contains id rs), { s with file := some (Keyed.erase id rs) })

/-- The alias of an identifier. -/
def get? (s : AliasStore) (id : String) : Except Failure (Option String) :=
  match s.rows with
  | .error e => .error e
  | .ok rs => .ok ((Keyed.get? id rs).map (·.name))

/-- Every alias with the identifier it is attached to, in ascending order of identifiers. -/
def entries (s : AliasStore) : Except Failure (List (String × Label)) := s.rows

/-- Disconnects the store and removes its file. -/
def release (s : AliasStore) : AliasStore :=
  if s.connected then ⟨none, false⟩ else s

end AliasStore
end DexQuery
