import DexQuery.Cache.Key
import DexQuery.Envelope
import DexQuery.Session.Run

/-!
# The service

The service loads artifacts into sessions, runs calls on them and closes them. It keeps every
session it has ever loaded, in the order of loading, beside the map from the ids of the open ones
to their places: a caller that holds a session which has been closed meanwhile is refused by the
session itself.

Files are those of the file tree, and the alias stores of the open sessions, which are files too.
The clock advances with every reading.
-/

namespace DexQuery

/-- What a service works with: the backend, the cache, the directory of alias stores as it was
named and as a path, the home and the current directory, and the ids of sessions in the order in
which they are given away. -/
structure Setup where
  factory : EngineFactory
  cache : Cache
  aliasDirText : String
  aliasDir : Files.Path
  home : Option String
  cwd : Files.Path
  ids : Nat → String

/-- The state of a service. -/
structure Service where
  setup : Setup
  loaded : List Session
  registered : List (String × Nat)
  files : Files.Tree
  clock : Nat

namespace Service

/-- A service that has loaded nothing. -/
def start (setup : Setup) (files : Files.Tree) (clock : Nat) : Service :=
  ⟨setup, [], [], files, clock⟩

/-- The session at a place. -/
def session? (v : Service) (place : Nat) : Option Session := v.loaded[place]?

/-- Puts a session at a place. -/
def setSession (v : Service) (place : Nat) (s : Session) : Service :=
  { v with loaded := v.loaded.set place s }

/-- The name of the file of a session's alias store. -/
def aliasFileName (id : String) : String := id ++ ".sqlite3"

/-- The first bytes of the file of an alias store. -/
def aliasFileBytes : ByteArray := "SQLite format 3\x00".toUTF8

/-- What is at a path: a file or a directory of the tree, or the file of an alias store. -/
def node? (v : Service) (p : Files.Path) : Option Files.Node :=
  if v.loaded.any fun s => s.aliases.hasFile && p == v.setup.aliasDir ++ [aliasFileName s.id] then
    some (.file aliasFileBytes)
  else v.files.node? p

/-! ## Loading -/

/-- The bytes of the artifact that a path leads to. -/
def artifactBytes (v : Service) (path : String) : Except Failure ByteArray :=
  match Files.resolve v.node? v.setup.cwd (Files.expandHome v.setup.home path) with
  | .error e => .error (.loadFailed path e.message)
  | .ok (_, .dir) => .error (.loadFailed path "not a regular file")
  | .ok (_, .file bytes) => .ok bytes

/-- What a fault does to loading. -/
def faultReason : Fault → String
  | .error causes => Fault.chain causes
  | .panic _ => "engine panicked while loading"

/-- The engine of an artifact, with the number of its types. -/
def buildEngine (v : Service) (path : String) (bytes : ByteArray) (settings : Settings) :
    Except Failure (Engine × Nat) :=
  let place := Files.expandHome v.setup.home path
  match v.setup.factory.create place (.ok bytes) settings with
  | .error fault => .error (.loadFailed place (faultReason fault))
  | .ok engine =>
    match engine.types with
    | .error fault => .error (.loadFailed place (faultReason fault))
    | .ok types => .ok (engine, types.length)

/-- A new session about an artifact. -/
def newSession (v : Service) (path : String) (bytes : ByteArray) (settings : Settings)
    (engine : Engine) (classCount : Nat) : Session :=
  let hash := Sha256.hex bytes
  { id := v.setup.ids v.loaded.length
    artifactPath := Files.expandHome v.setup.home path
    artifactHash := hash
    inputType := engine.inputType
    classCount := classCount
    settings := settings
    backend := v.setup.factory.backend
    engineVersion := engine.version
    cacheKey := CacheKey.of hash engine.version settings
    cache := v.setup.cache
    created := v.clock
    lastAccessed := v.clock
    status := .created
    aliases := AliasStore.fresh
    engine := some engine }

/-- Registers a session under its id. -/
def register (v : Service) (s : Session) : Service :=
  { v with
    loaded := v.loaded ++ [{ s with status := .active }]
    registered := Keyed.insert s.id v.loaded.length v.registered
    clock := v.clock + 1 }

/-- Loads an artifact into a session of its own. -/
def load (v : Service) (path : String) (settings : Settings) :
    Except Failure Session × Service :=
  match v.artifactBytes path with
  | .error e => (.error e, v)
  | .ok bytes =>
    match v.buildEngine path bytes settings with
    | .error e => (.error e, v)
    | .ok (engine, classCount) =>
      match v.files.makeDirs v.setup.aliasDir with
      | (.error e, files) =>
        (.error (.internal ("alias dir " ++ v.setup.aliasDirText ++ ": " ++ e.message)),
          { v with files := files })
      | (.ok (), files) =>
        let s := v.newSession path bytes settings engine classCount
        (.ok s, { v with files := files }.register s)

/-! ## Sessions -/

/-- The place of the open session with an id. -/
def place? (v : Service) (id : String) : Option Nat := Keyed.get? id v.registered

/-- Finds an open session and notes the access. -/
def access (v : Service) (id : String) : Option (Nat × Session × Service) :=
  match v.place? id with
  | none => none
  | some place =>
    match v.session? place with
    | none => none
    | some s =>
      let touched := s.touch v.clock
      some (place, touched, { v.setSession place touched with clock := v.clock + 1 })

/-- Closes a session and says whether it was open. -/
def close (v : Service) (id : String) : Bool × Service :=
  match v.place? id with
  | none => (false, v)
  | some place =>
    (true, { v with
      loaded := v.loaded.modify place Session.close
      registered := Keyed.erase id v.registered })

/-- Closes all sessions. -/
def closeAll (v : Service) : Service :=
  (Keyed.keys v.registered).foldl (fun v id => (v.close id).2) v

/-- The open sessions in the order of their creation. -/
def openSessions (v : Service) : List Session :=
  (v.registered.filterMap fun e => v.session? e.2).mergeSort fun a b =>
    decide (a.created < b.created) || (decide (a.created = b.created) && decide (a.id ≤ b.id))

/-! ## Calls -/

/-- Runs a request on the session at a place, whether that is open or not. -/
def runAt (v : Service) (place : Nat) (r : Request) : Except Failure Output × Service :=
  match v.session? place with
  | none => (.error .sessionClosed, v)
  | some s =>
    let (answer, s', files) := s.run v.files r
    (answer, { v.setSession place s' with files := files })

/-- Calls a method on an open session. The call is read before the session is looked for. -/
def call (v : Service) (id method : String) (args : Json) : Except Failure Output × Service :=
  match Request.ofCall method args with
  | .error e => (.error e, v)
  | .ok r =>
    match v.access id with
    | none => (.error (.sessionNotFound id), v)
    | some (place, _, v') => v'.runAt place r

/-- Calls a method on an open session and puts the answer into an envelope. -/
def dispatch (v : Service) (id method : String) (args : Json) : Envelope × Service :=
  let (answer, v') := v.call id method args
  (.ofResult method args answer, v')

end Service
end DexQuery
