import DexQuery.CommandLine
import DexQuery.Transport.Message
import Std.Time.DateTime.Timestamp

/-!
# The program

What is read from and written to the world around: the arguments, the environment, the files, the
clock and the messages of agents. What to do with them is said by `DexQuery.CommandLine` and
`DexQuery.Message`.
-/

namespace DexQuery
namespace Program

/-! ## Files -/

/-- Whether there is a directory at a path. -/
def isDirectory (p : Files.Path) : IO Bool := do
  try
    let place ← IO.FS.realPath (Files.pathText p)
    place.isDir
  catch _ => return false

/-- Takes what is at a path into a tree. -/
def takeNode (t : Files.Tree) (p : Files.Path) : IO Files.Tree := do
  if ← isDirectory p then return t.set p .dir
  match ← (IO.FS.readBinFile (Files.pathText p)).toBaseIO with
  | .ok bytes => return t.set p (.file bytes)
  | .error _ => return t

/-- Takes what is at a path and at the paths above it into a tree. -/
def takePath (t : Files.Tree) (p : Files.Path) : IO Files.Tree :=
  (List.range p.length).foldlM (fun t n => takeNode t (p.take (n + 1))) t

/-- Takes everything below a directory into a tree. -/
partial def takeBelow (t : Files.Tree) (p : Files.Path) : IO Files.Tree := do
  unless ← isDirectory p do return t
  let place ← IO.FS.realPath (Files.pathText p)
  let mut t := t
  for e in ← place.readDir do
    t ← takeNode t (p ++ [e.fileName])
    t ← takeBelow t (p ++ [e.fileName])
  return t

/-- Whether a tree has the bytes of a file. -/
def hasBytes (t : Files.Tree) (p : Files.Path) (bytes : ByteArray) : Bool :=
  match t.node? p with
  | some (.file old) => old == bytes
  | _ => false

/-- Writes what is in `after` and not in `before`. A file is put into place once it is complete. -/
def writeChanges (before after : Files.Tree) : IO Unit := do
  for (p, node) in after.nodes.reverse do
    match node with
    | .dir => unless ← isDirectory p do IO.FS.createDirAll (Files.pathText p)
    | .file bytes =>
      unless hasBytes before p bytes do
        IO.FS.createDirAll (Files.pathText p.dropLast)
        IO.FS.writeBinFile (Files.pathText p ++ ".new") bytes
        IO.FS.rename (Files.pathText p ++ ".new") (Files.pathText p)

/-! ## Surroundings -/

/-- The id of the session that is loaded after `n` others: the digest of that number and a seed,
written as a random UUID. -/
def sessionId (seed : ByteArray) (n : Nat) : String :=
  let digits := (Sha256.hex (seed ++ (toString n).toUTF8)).toList
  let part (start length : Nat) := (digits.drop start).take length
  "-".intercalate ([part 0 8, part 8 4, '4' :: part 12 3, '8' :: part 15 3, part 18 12].map
    String.ofList)

/-- The nanoseconds since 1970. -/
def now : IO Nat := do
  let t ← Std.Time.Timestamp.now
  return t.toNanosecondsSinceUnixEpoch.val.toNat

/-- What the program finds around it, without any files. -/
def surroundings : IO CommandLine.Surroundings := do
  let cwd := Files.Path.ofText [] (← IO.currentDir).toString
  let seed ← IO.getRandomBytes 16
  return ⟨← IO.getEnv "JADXD_CACHE_DIR", ← IO.getEnv "JADXD_ALIAS_DIR", ← IO.getEnv "HOME", cwd,
    Files.Tree.empty, ← now, sessionId seed⟩

/-- Takes in the files that the service works with: what it has cached, and what is at the paths of
its directories. -/
def withServiceFiles (around : CommandLine.Surroundings) (o : CommandLine.ServiceOptions) :
    IO CommandLine.Surroundings := do
  let setup := CommandLine.setupOf around o
  let t ← takePath around.files setup.cache.root
  let t ← takeBelow t setup.cache.root
  let t ← takePath t setup.aliasDir
  return { around with files := t }

/-- Takes in the artifact at a path as it was given. -/
def takeArtifact (home : Option String) (cwd : Files.Path) (path : String) (t : Files.Tree) :
    IO Files.Tree :=
  takePath t (Files.Path.ofText cwd (Files.expandHome home path))

/-! ## Commands -/

/-- Prints what a run gives. -/
def report (outcome : CommandLine.Outcome) : IO UInt32 := do
  for e in outcome.printed do
    IO.println e.toJson.indented
  if let some message := outcome.error then IO.eprintln message
  return UInt32.ofNat outcome.exit

/-- Answers the messages of an agent, one in a line, until they end. -/
partial def serve (v : Service) (input output : IO.FS.Stream) : IO Unit := do
  let line ← input.getLine
  if line.isEmpty then return
  let files ← match Message.loadPath? line with
    | some path => takeArtifact v.setup.home v.setup.cwd path v.files
    | none => pure v.files
  let (answer, v') := Message.answerText { v with files := files, clock := max v.clock (← now) } line
  writeChanges files v'.files
  if let some text := answer then
    output.putStrLn text
    output.flush
  serve v' input output

/-- Runs a command. -/
def run (o : CommandLine.ServiceOptions) (c : CommandLine.Command) : IO UInt32 := do
  let around ← withServiceFiles (← surroundings) o
  match c with
  | .serve =>
    match CommandLine.start around o with
    | .error outcome => report outcome
    | .ok v =>
      writeChanges around.files v.files
      serve v (← IO.getStdin) (← IO.getStdout)
      return 0
  | .serveHttp _ =>
    report (CommandLine.runWith around o c)
  | .probe path _ _ _ =>
    let files ← takeArtifact around.home around.cwd path around.files
    let outcome := CommandLine.runWith { around with files := files } o c
    writeChanges files outcome.files
    report outcome

end Program
end DexQuery

/-- Runs the program with its arguments. -/
def main (args : List String) : IO UInt32 := do
  match DexQuery.CommandLine.read args with
  | .ok (o, c) => DexQuery.Program.run o c
  | .error .help =>
    IO.println DexQuery.CommandLine.usage
    return 0
  | .error .usage =>
    IO.eprintln DexQuery.CommandLine.usage
    return 2
