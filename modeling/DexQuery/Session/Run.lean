import DexQuery.Answer.Declaration
import DexQuery.Answer.Decompile
import DexQuery.Answer.Listing
import DexQuery.Answer.Overlay
import DexQuery.Answer.Package
import DexQuery.Answer.Reference
import DexQuery.Answer.Resource
import DexQuery.Answer.StringSearch

/-!
# Running requests

A request is run on a session by its engine. Besides giving an answer it can change two things: the
aliases of the session, and the files of the cache. A session that is closed runs nothing.
-/

namespace DexQuery
namespace Session

/-- What running a request gives: the answer, and the aliases and files after it. -/
structure Result where
  answer : Except Abort Output
  aliases : AliasStore
  files : Files.Tree

/-- A result that changes nothing. -/
def Result.pure (s : Session) (files : Files.Tree) (answer : Except Abort Output) : Result :=
  ⟨answer, s.aliases, files⟩

/-- A result that may change files. -/
def Result.ofFiles (s : Session) (r : Except Abort Output × Files.Tree) : Result :=
  ⟨r.1, s.aliases, r.2⟩

/-- A result that may change aliases. -/
def Result.ofAliases (files : Files.Tree) (r : Except Abort Output × AliasStore) : Result :=
  ⟨r.1, r.2, files⟩

/-- Runs a request by the engine. -/
def runOn (s : Session) (e : Engine) (files : Files.Tree) : Request → Result
  | .listTypes => .pure s files (s.listTypes e)
  | .listPackages => .pure s files (s.listPackages e)
  | .hierarchy t => .pure s files (s.hierarchy e t)
  | .dependencies t => .pure s files (s.dependencies e t)
  | .listMethods t => .pure s files (s.listMethods e t)
  | .listMethodsDetail t => .pure s files (s.listMethodsDetail e t)
  | .listFields t => .pure s files (s.listFields e t)
  | .annotations target => .pure s files (s.annotations e target)
  | .decompileClass t => .ofFiles s (s.decompileClass e t files)
  | .decompileMethod m => .ofFiles s (s.decompileMethod e m files)
  | .xrefsTo m => .pure s files (s.xrefsTo e m)
  | .xrefsFrom m => .pure s files (s.xrefsFrom e m)
  | .fieldXrefs f => .pure s files (s.fieldXrefs e f)
  | .classXrefs t => .pure s files (s.classXrefs e t)
  | .overrides m => .pure s files (s.overrides e m)
  | .unresolved m => .pure s files (s.unresolved e m)
  | .searchStrings q => .ofFiles s (s.searchStrings e q files)
  | .manifest => .pure s files (s.manifest e)
  | .listResources => .pure s files (s.listResources e)
  | .resourceContent name => .pure s files (s.resourceContent e name)
  | .rename id name => .ofAliases files (s.rename id name)
  | .removeRename id => .ofAliases files (s.removeRename id)
  | .listRenames => .pure s files s.listRenames
  | .errorReport => .pure s files (s.errorReport e)
  | .sessionInfo => .pure s files (.ok (.plain s.info))

/-- Runs a request on a session: the answer, and the session and the files after it. -/
def run (s : Session) (files : Files.Tree) (r : Request) :
    Except Failure Output × Session × Files.Tree :=
  match s.engine with
  | none => (.error .sessionClosed, s, files)
  | some e =>
    let result := s.runOn e files r
    (match result.answer with
      | .ok out => .ok out
      | .error a => .error a.failure,
      { s with aliases := result.aliases }, result.files)

theorem run_of_engine {s : Session} {e : Engine} (h : s.engine = some e) (files : Files.Tree)
    (r : Request) : s.run files r = ((s.runOn e files r).answer.mapError Abort.failure,
      { s with aliases := (s.runOn e files r).aliases }, (s.runOn e files r).files) := by
  simp only [run, h]
  cases (s.runOn e files r).answer <;> rfl

end Session
end DexQuery
