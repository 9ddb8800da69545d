import DexQuery.Answer.Basic

/-!
# Unit texts

The source and the disassembly of a unit are looked for in the cache before the engine is asked,
and what the engine gives is put into the cache. A text that cannot be put there is still the
answer; a warning says so.
-/

namespace DexQuery

/-- The engine's own unit text of a bucket. -/
def Engine.unitText (e : Engine) : Bucket → TypeId → Reply (Option String)
  | .source => e.unitSource
  | .disasm => e.unitDisassembly

/-- A unit text, none if there is none, with the warnings about getting it. -/
structure Fetched where
  text : Option String
  warnings : List String

namespace Session

/-- Puts a unit text into the cache, with a warning if that fails. -/
def keepUnitText (s : Session) (b : Bucket) (t : TypeId) (text : String) (files : Files.Tree) :
    Fetched × Files.Tree :=
  match s.cache.put files s.cacheKey b t.raw text with
  | (.ok (), files') => (⟨some text, []⟩, files')
  | (.error e, files') =>
    (⟨some text, ["cache write failed for " ++ t.text ++ ": " ++ e.message]⟩, files')

/-- The unit text of a type. -/
def unitText (s : Session) (e : Engine) (b : Bucket) (t : TypeId) (files : Files.Tree) :
    Except Abort Fetched × Files.Tree :=
  match s.cache.get files s.cacheKey b t.raw with
  | some text => (.ok ⟨some text, []⟩, files)
  | none =>
    match ask (e.unitText b t) with
    | .error a => (.error a, files)
    | .ok none => (.ok ⟨none, []⟩, files)
    | .ok (some text) =>
      let (fetched, files') := s.keepUnitText b t text files
      (.ok fetched, files')

end Session
end DexQuery
