import DexQuery.Engine.Snapshot
import DexQuery.Transport.Agent
import DexQuery.Transport.Rest

/-!
# The command line

The program serves agents, serves HTTP, or probes one artifact: it loads the artifact, calls one
method and prints both envelopes. Options of the service may stand before or after the command;
the one after it counts.

| outcome | exit code |
| --- | --- |
| a probe succeeded, or help was asked for | 0 |
| a probe or the setup failed | 1 |
| the arguments are not understood | 2 |
| there is no room for the queue of a session | 101 |

The value of an option that stands in an argument of its own is looked at when the next option comes
or the arguments end. So what is wrong with it does not matter if the command after it asks for
help.
-/

namespace DexQuery
namespace CommandLine

/-- The options of the service as they were given. -/
structure ServiceOptions where
  cacheDir : Option String
  aliasDir : Option String
  queueCapacity : Option Nat

/-- What to do. -/
inductive Command where
  | serve
  | serveHttp (bind : String)
  | probe (path : String) (deobfuscation : Bool) (method args : String)

/-- Why there is nothing to run: the arguments are wrong, or help was asked for. -/
inductive Stop where
  | usage
  | help
deriving DecidableEq

/-- The options with a value and the switches of a command, as far as they have been given, and an
option with a value that has not been looked at. -/
structure Given where
  values : List (String × String)
  switches : List String
  pending : Option (String × String)

/-- Nothing given. -/
def Given.nothing : Given := ⟨[], [], none⟩

/-- The options of the service that take a value. -/
def serviceValues : List String := ["--cache-dir", "--alias-dir", "--queue-capacity"]

/-- Whether an argument is an option rather than a value. -/
def isOption (arg : String) : Bool := arg.toList.head? == some '-' && arg != "-"

/-- Cuts `--name=value` into its parts. -/
def cutValue (arg : String) : String × Option String :=
  match Text.splitFirst? '=' arg.toList with
  | some (name, value) => (String.ofList name, some (String.ofList value))
  | none => (arg, none)

/-- The natural number of 64 bits that a text is. -/
def capacity? (s : String) : Option Nat :=
  let digits := match s.toList with
    | '+' :: r => r
    | cs => cs
  if digits.isEmpty || !digits.all Char.isDigit then none
  else
    let n := digits.foldl (fun n d => 10 * n + (d.toNat - '0'.toNat)) 0
    if n < Nat.pow 2 64 then some n else none

/-- Notes an option with its value. No option is given twice, and a capacity is a number. -/
def Given.note (g : Given) (name value : String) : Except Stop Given :=
  if (Keyed.get? name g.values).isSome then .error .usage
  else if name = "--queue-capacity" && (capacity? value).isNone then .error .usage
  else .ok { g with values := Keyed.insert name value g.values }

/-- Looks at the value that has not been looked at. -/
def Given.settle (g : Given) : Except Stop Given :=
  match g.pending with
  | none => .ok g
  | some (name, value) => { g with pending := none }.note name value

/-- Takes an option with its value in one argument. -/
def Given.addValue (g : Given) (name value : String) : Except Stop Given := do
  (← g.settle).note name value

/-- Takes an option and its value in the next argument. -/
def Given.await (g : Given) (name value : String) : Except Stop Given := do
  pure { ← g.settle with pending := some (name, value) }

/-- Takes a switch. -/
def Given.addSwitch (g : Given) (name : String) : Except Stop Given := do
  let g ← g.settle
  if name ∈ g.switches then throw .usage
  else pure { g with switches := name :: g.switches }

/-- Whether an argument asks for help or for the version, by a word or by a letter. -/
def asks (words : List String) (letters : List Char) (arg : String) : Bool :=
  words.contains arg || match arg.toList with
    | '-' :: c :: _ => letters.contains c
    | _ => false

/-- Reads options, up to an argument that is none, with the arguments from there on; a value before
these may not have been looked at. `stops` says which arguments ask for help. A `--` may only stand
at the end. -/
def readOptions (values switches : List String) (stops : String → Bool) :
    List String → Given → Except Stop (Given × List String)
  | [], g => do pure (← g.settle, [])
  | arg :: rest, g =>
    if stops arg then do
      let _ ← g.settle
      throw .help
    else if !isOption arg then .ok (g, arg :: rest)
    else if arg = "--" then
      if rest.isEmpty then do pure (← g.settle, []) else .error .usage
    else
      let (name, value) := cutValue arg
      if name ∈ values then
        match value with
        | some v => do readOptions values switches stops rest (← g.addValue name v)
        | none =>
          match rest with
          | [] => .error .usage
          | v :: rest' =>
            if isOption v then .error .usage
            else do readOptions values switches stops rest' (← g.await name v)
      else if arg ∈ switches then do
        readOptions values switches stops rest (← g.addSwitch arg)
      else .error .usage

/-- Reads the options of a command, after which nothing may follow. -/
def readCommandOptions (values switches args : List String) : Except Stop Given := do
  let (g, rest) ←
    readOptions (values ++ serviceValues) switches (asks ["--help"] ['h']) args Given.nothing
  if rest.isEmpty then pure g else throw .usage

/-- The names of the commands. -/
def commandNames : List String := ["serve", "serve-http", "probe", "help"]

/-- The command that follows the first options, with the options after it. -/
def readCommand : List String → Except Stop (Command × Given)
  | [] => .ok (.serve, Given.nothing)
  | name :: args =>
    if name = "serve" then do
      let g ← readCommandOptions [] [] args
      pure (.serve, g)
    else if name = "serve-http" then do
      let g ← readCommandOptions ["--bind"] [] args
      pure (.serveHttp ((Keyed.get? "--bind" g.values).getD "127.0.0.1:8085"), g)
    else if name = "probe" then do
      let g ← readCommandOptions ["--path", "--method", "--args"] ["--deobfuscation"] args
      match Keyed.get? "--path" g.values with
      | none => throw .usage
      | some path =>
        pure (.probe path (g.switches.contains "--deobfuscation")
          ((Keyed.get? "--method" g.values).getD "list_types")
          ((Keyed.get? "--args" g.values).getD "\x7b\x7d"), g)
    else if name = "help" then
      match args with
      | [] => .error .help
      | [command] => .error (if command ∈ commandNames then .help else .usage)
      | _ => .error .usage
    else .error .usage

/-- Reads the arguments of the program. -/
def read (args : List String) : Except Stop (ServiceOptions × Command) := do
  let (first, rest) ←
    readOptions serviceValues [] (asks ["--help", "--version"] ['h', 'V']) args Given.nothing
  let (command, second) ← readCommand rest
  let first ← first.settle
  let value (name : String) := (Keyed.get? name second.values).or (Keyed.get? name first.values)
  pure (⟨value "--cache-dir", value "--alias-dir", (value "--queue-capacity").bind capacity?⟩,
    command)

/-- How the program is used. -/
def usage : String :=
  "usage: jadxd [--cache-dir DIR] [--alias-dir DIR] [--queue-capacity N] [COMMAND]\n\n" ++
    "  serve                        answer the messages of an agent (default)\n" ++
    "  serve-http [--bind ADDRESS]  answer requests over HTTP\n" ++
    "  probe --path FILE [--deobfuscation] [--method NAME] [--args JSON]\n" ++
    "                               load an artifact and call one method"

/-! ## Running -/

/-- What the program finds around it: directories from the environment, the home and the current
directory, the files, the time, and the ids to give away. -/
structure Surroundings where
  cacheDir : Option String
  aliasDir : Option String
  home : Option String
  cwd : Files.Path
  files : Files.Tree
  clock : Nat
  ids : Nat → String

/-- What a run of the program gives: the envelopes printed, the error line, the exit code, and the
files after it. -/
structure Outcome where
  printed : List Envelope
  error : Option String
  exit : Nat
  files : Files.Tree

/-- A run that stops with an error. -/
def Outcome.fail (printed : List Envelope) (error : String) (files : Files.Tree) : Outcome :=
  ⟨printed, some ("Error: " ++ error), 1, files⟩

/-- The directory of the cache unless another is named. -/
def defaultCacheDir : String := "~/.cache/jadxd"

/-- The capacity of the queue of a session unless another is given. -/
def defaultCapacity : Nat := 64

/-- The setup of the service. -/
def setupOf (around : Surroundings) (o : ServiceOptions) : Setup :=
  let cacheDir :=
    Files.expandHome around.home ((o.cacheDir.or around.cacheDir).getD defaultCacheDir)
  let aliasDir := match o.aliasDir.or around.aliasDir with
    | some dir => Files.expandHome around.home dir
    | none => Files.joinText cacheDir "aliases"
  { factory := Export.factory
    cache := ⟨cacheDir, Files.Path.ofText around.cwd cacheDir⟩
    aliasDirText := aliasDir
    aliasDir := Files.Path.ofText around.cwd aliasDir
    home := around.home
    cwd := around.cwd
    ids := around.ids }

/-- Makes a directory of the service. -/
def makeDir (files : Files.Tree) (text : String) (p : Files.Path) :
    Except String Unit × Files.Tree :=
  match files.makeDirs p with
  | (.ok (), files') => (.ok (), files')
  | (.error e, files') => (.error ("creating " ++ text ++ ": " ++ e.message), files')

/-- The most calls that a queue has room for. Each takes 24 bytes, of which there are fewer than
2^63. -/
def capacityLimit : Nat := (Nat.pow 2 63 - 1) / 24

/-- Loads an artifact, calls one method and closes the session. The queue of the session is made
when its artifact has been read and before that is looked into. -/
def probe (v : Service) (capacity : Nat) (path : String) (deobfuscation : Bool)
    (method args : String) : Outcome :=
  match Json.read? args.toUTF8.toList with
  | none => .fail [] "--args is not valid JSON: malformed JSON" v.files
  | some methodArgs =>
    if capacityLimit < capacity && (v.artifactBytes path).isOk then ⟨[], none, 101, v.files⟩
    else
      let (loaded, v₁) := v.loadArtifact (.ofMembers [("path", .string path),
        ("settings", .ofMembers [("deobfuscation", .bool deobfuscation)])])
      match (loaded.data.bind (Json.member? "session_id")).bind Json.asString? with
      | none => .fail [loaded] ("load failed: " ++ loaded.error.getD "") v₁.files
      | some id =>
        let (result, v₂) := v₁.dispatch id method methodArgs
        let v₃ := (v₂.close id).2
        if result.ok then ⟨[loaded, result], none, 0, v₃.files⟩
        else .fail [loaded, result] (method ++ " failed") v₃.files

/-- Runs a command on a service. Agents are served outside, where their messages come from, and
there is no network, so no address can be bound to. -/
def runCommand (v : Service) (capacity : Nat) : Command → Outcome
  | .serve => ⟨[], none, 0, v.files⟩
  | .serveHttp _ => .fail [] "invalid bind address: no such address" v.files
  | .probe path deobfuscation method args => probe v capacity path deobfuscation method args

/-- Starts the service: its options are checked and its directories are made. -/
def start (around : Surroundings) (o : ServiceOptions) : Except Outcome Service :=
  if o.queueCapacity = some 0 then
    .error (.fail [] "--queue-capacity must be at least 1" around.files)
  else
    let setup := setupOf around o
    match makeDir around.files setup.cache.rootText setup.cache.root with
    | (.error e, files) => .error (.fail [] e files)
    | (.ok (), files) =>
      match makeDir files setup.aliasDirText setup.aliasDir with
      | (.error e, files') => .error (.fail [] e files')
      | (.ok (), files') => .ok (Service.start setup files' around.clock)

/-- Runs the program with its options read. -/
def runWith (around : Surroundings) (o : ServiceOptions) (c : Command) : Outcome :=
  match start around o with
  | .error outcome => outcome
  | .ok v => runCommand v (o.queueCapacity.getD defaultCapacity) c

/-- Runs the program. -/
def run (around : Surroundings) (args : List String) : Outcome :=
  match read args with
  | .error .usage => ⟨[], none, 2, around.files⟩
  | .error .help => ⟨[], none, 0, around.files⟩
  | .ok (o, c) => runWith around o c

end CommandLine
end DexQuery
