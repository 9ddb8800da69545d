import DexQuery.Answer.Basic

/-!
# Renaming

Aliases lie over the answers of the engine as names to display. Setting and removing one changes
nothing but the alias store of the session.
-/

namespace DexQuery
namespace Session

/-- A result about the alias store as an answer. -/
def ofStore {α : Type} (f : α → Output) : Except Failure α → Except Abort Output
  | .ok x => .ok (f x)
  | .error e => .error (.failed e)

/-- Gives an entity an alias. -/
def rename (s : Session) (id : EntityId) (name : String) : Except Abort Output × AliasStore :=
  let (result, aliases) := s.aliases.upsert id.text id.kind name
  (ofStore (fun _ => .plain (.ofMembers [("id", .string id.text), ("alias", .string name),
    ("status", .string "ok")])) result, aliases)

/-- Takes the alias from an entity. -/
def removeRename (s : Session) (id : EntityId) : Except Abort Output × AliasStore :=
  let (result, aliases) := s.aliases.remove id.text
  (ofStore (fun removed => .plain (.ofMembers [("id", .string id.text), ("removed", .bool removed),
    ("status", .string (if removed then "ok" else "not_found"))])) result, aliases)

/-- An alias in the list of all aliases. -/
def renameEntry (row : String × Label) : Json :=
  .ofMembers [("original_id", .string row.1), ("entity_kind", .string row.2.kind),
    ("alias", .string row.2.name)]

/-- All aliases. -/
def listRenames (s : Session) : Except Abort Output :=
  ofStore (fun rows => .plain (.ofMembers [("session_id", .string s.id),
    ("renames", .listOf renameEntry rows)])) s.aliases.entries

end Session
end DexQuery
