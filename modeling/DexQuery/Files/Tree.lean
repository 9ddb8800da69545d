import DexQuery.Files.Path

/-!
# File trees

A file tree says for each path whether it is a file, with its bytes, or a directory. The root is
always a directory. Directories are made one after the other from the outermost. A file that may be
there already is replaced by a new one that is written beside it under a temporary name, so that no
reader finds half of it.
-/

namespace DexQuery
namespace Files

/-- Why an operation on files failed. -/
inductive IoError where
  | notFound
  | exists
  | notDirectory
  | isDirectory
  | nameTooLong
  | nulByte
deriving DecidableEq

/-- The wording of the operating system. -/
def IoError.message : IoError → String
  | .notFound => "No such file or directory (os error 2)"
  | .exists => "File exists (os error 17)"
  | .notDirectory => "Not a directory (os error 20)"
  | .isDirectory => "Is a directory (os error 21)"
  | .nameTooLong => "File name too long (os error 36)"
  | .nulByte => "file name contained an unexpected NUL byte"

/-- What a path leads to. -/
inductive Node where
  | file (bytes : ByteArray)
  | dir

/-- Whether the node is a directory. -/
def Node.isDir : Node → Bool
  | .file _ => false
  | .dir => true

/-- A tree of files and directories: the node of each path below the root. -/
structure Tree where
  nodes : List (Path × Node)

namespace Tree

/-- The tree that holds nothing but its root. -/
def empty : Tree := ⟨[]⟩

/-- The node at a path. -/
def node? (t : Tree) (p : Path) : Option Node :=
  if p = [] then some .dir else (t.nodes.find? fun e => e.1 = p).map (·.2)

/-- Puts a node at a path, without a look at what is there. -/
def set (t : Tree) (p : Path) (n : Node) : Tree := ⟨(p, n) :: t.nodes.filter fun e => e.1 ≠ p⟩

@[simp] theorem node?_root (t : Tree) : t.node? [] = some .dir := by simp [node?]

theorem node?_set_self (t : Tree) {p : Path} (hp : p ≠ []) (n : Node) :
    (t.set p n).node? p = some n := by
  simp [node?, set, hp]

theorem node?_set_of_ne (t : Tree) {p q : Path} (h : p ≠ q) (n : Node) :
    (t.set p n).node? q = t.node? q := by
  unfold node? set
  split
  · rfl
  · congr 1
    rw [List.find?_cons_of_neg (by simpa using h), List.find?_filter]
    congr 1
    funext e
    by_cases he : e.1 = q <;> simp [he, Ne.symm h]

/-- Makes the directories of `names` below the directory `base`. What was made before a failure
stays. -/
def makeDirsBelow (t : Tree) (base : Path) : List String → Except IoError Unit × Tree
  | [] => (.ok (), t)
  | n :: ns =>
    match t.node? (base ++ [n]) with
    | some .dir => makeDirsBelow t (base ++ [n]) ns
    | some (.file _) => (.error (if ns = [] then .exists else .notDirectory), t)
    | none =>
      if tooLong n then (.error .nameTooLong, t)
      else makeDirsBelow (t.set (base ++ [n]) .dir) (base ++ [n]) ns

/-- Makes a directory and all directories above it. -/
def makeDirs (t : Tree) (p : Path) : Except IoError Unit × Tree :=
  if p.any hasNul then (.error .nulByte, t)
  else if pathLimit ≤ (pathText p).utf8ByteSize then (.error .nameTooLong, t)
  else t.makeDirsBelow [] p

/-- Puts a file at a path whose directory exists, replacing a file that is there. -/
def writeFile (t : Tree) (p : Path) (bytes : ByteArray) : Except IoError Unit × Tree :=
  match p.getLast? with
  | none => (.error .isDirectory, t)
  | some name =>
    if p.any hasNul then (.error .nulByte, t)
    else if tooLong name || pathLimit ≤ (pathText p).utf8ByteSize then (.error .nameTooLong, t)
    else
      match t.node? p.dropLast, t.node? p with
      | none, _ => (.error .notFound, t)
      | some (.file _), _ => (.error .notDirectory, t)
      | some .dir, some .dir => (.error .isDirectory, t)
      | some .dir, _ => (.ok (), t.set p (.file bytes))

/-- Puts a file at a path where nothing is yet. -/
def createFile (t : Tree) (p : Path) (bytes : ByteArray) : Except IoError Unit × Tree :=
  match t.node? p with
  | some _ => (.error .exists, t)
  | none => t.writeFile p bytes

/-- The bytes of the file at a path. -/
def readFile (t : Tree) (p : Path) : Except IoError ByteArray :=
  if p.any hasNul then .error .nulByte
  else match t.node? p with
    | some (.file bytes) => .ok bytes
    | some .dir => .error .isDirectory
    | none => .error .notFound

/-- Takes the node at a path away. -/
def remove (t : Tree) (p : Path) : Tree := ⟨t.nodes.filter fun e => e.1 ≠ p⟩

/-- Moves the file at `p` to `q` in one step, replacing a file that is there. -/
def rename (t : Tree) (p q : Path) : Except IoError Unit × Tree :=
  match t.readFile p with
  | .error e => (.error e, t)
  | .ok bytes =>
    match (t.remove p).writeFile q bytes with
    | (.error e, _) => (.error e, t)
    | (.ok (), t') => (.ok (), t')

/-- The path of the file named `temp` beside another. -/
def beside (p : Path) (temp : String) : Path := p.dropLast ++ [temp]

/-- Puts a file at a path whose directory exists: the bytes go to a new file beside it, which is
then moved to the path. If it cannot be moved it is taken away again. -/
def replaceFile (t : Tree) (p : Path) (temp : String) (bytes : ByteArray) :
    Except IoError Unit × Tree :=
  match t.createFile (beside p temp) bytes with
  | (.error e, t₁) => (.error e, t₁)
  | (.ok (), t₁) =>
    match t₁.rename (beside p temp) p with
    | (.error e, t₂) => (.error e, t₂.remove (beside p temp))
    | (.ok (), t₂) => (.ok (), t₂)

/-- The temporary name with a number, of six digits for the first ones. -/
def tempName (n : Nat) : String := ".tmp" ++ toString (100000 + n)

/-- The first temporary name that nothing in a directory has. As there are no more nodes than
numbers to try, the number after them is free if these are not. -/
def freeName (t : Tree) (dir : Path) : String :=
  tempName (((List.range t.nodes.length).find? fun n =>
    (t.node? (dir ++ [tempName n])).isNone).getD t.nodes.length)

/-- Makes the directories above a path and puts a file there. -/
def writeDeep (t : Tree) (p : Path) (bytes : ByteArray) : Except IoError Unit × Tree :=
  match t.makeDirs p.dropLast with
  | (.error e, t') => (.error e, t')
  | (.ok (), t') => t'.replaceFile p (t'.freeName p.dropLast) bytes

/-- The paths of the files below a directory, relative to it, with `/` between names and in
ascending order. -/
def filesBelow (t : Tree) (base : Path) : List String :=
  (t.nodes.filterMap fun e =>
    match e.2 with
    | .dir => none
    | .file _ =>
      if base.isPrefixOf e.1 then some ("/".intercalate (e.1.drop base.length)) else none).mergeSort
    fun a b => decide (a ≤ b)

end Tree

/-- Follows the names of a path from a node, as `look` says what is where. -/
def walk (look : Path → Option Node) (base : Path) (node : Node) :
    List String → Except IoError (Path × Node)
  | [] => .ok (base, node)
  | n :: ns =>
    if !node.isDir then .error .notDirectory
    else if n = "" ∨ n = "." then walk look base node ns
    else if n = ".." then walk look base.dropLast .dir ns
    else if tooLong n then .error .nameTooLong
    else match look (base ++ [n]) with
      | none => .error .notFound
      | some node' => walk look (base ++ [n]) node' ns

/-- The path and the node that a text leads to when relative texts start from `cwd`. -/
def resolve (look : Path → Option Node) (cwd : Path) (s : String) :
    Except IoError (Path × Node) :=
  if hasNul s then .error .nulByte
  else if s = "" then .error .notFound
  else if pathLimit ≤ s.utf8ByteSize then .error .nameTooLong
  else walk look (if s.toList.head? = some '/' then [] else cwd) .dir (Text.split '/' s)

end Files
end DexQuery
