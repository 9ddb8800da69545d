import DexQuery.Answer.Basic

/-!
# The packages of an artifact

The packages are those of the types and all packages around them. Each knows the types directly in
it and the packages directly below it. A package is its dotted name; a type in no package belongs
to none.
-/

namespace DexQuery

/-- The packages directly below a package, and the descriptors of the types directly in it. -/
structure Package where
  below : List (String × Unit)
  types : List String

namespace Package

/-- A package without content. -/
def empty : Package := ⟨[], []⟩

/-- The package `path` continued by the name `segment`. -/
def extend (path segment : String) : String :=
  if path = "" then segment else path ++ "." ++ segment

/-- The packages from `path` downwards through the given names, `path` itself left out. -/
def chain (path : String) : List String → List String
  | [] => []
  | seg :: segs => extend path seg :: chain (extend path seg) segs

/-- A package and all packages around it, outermost first. -/
def ancestry (name : String) : List String := chain "" (Text.split '.' name)

/-- Puts a package into the map, unless it is there. -/
def ensure (name : String) (ps : List (String × Package)) : List (String × Package) :=
  Keyed.alter name (fun p => p.getD empty) ps

/-- Puts `child` among the packages below `parent`. -/
def addBelow (parent child : String) (ps : List (String × Package)) : List (String × Package) :=
  Keyed.alter parent (fun p =>
    let q := p.getD empty
    { q with below := Keyed.insert child () q.below }) ps

/-- Puts a chain of packages into the map, each below the one before it. -/
def addChain (parent : Option String) : List String → List (String × Package) →
    List (String × Package)
  | [], ps => ps
  | name :: names, ps =>
    let linked := match parent with
      | none => ps
      | some p => addBelow p name ps
    addChain (some name) names (ensure name linked)

/-- Puts a type into its package. -/
def addType (id : TypeId) (ps : List (String × Package)) : List (String × Package) :=
  if id.package = "" then ps
  else
    Keyed.alter id.package (fun p =>
      let q := p.getD empty
      { q with types := q.types ++ [id.text] }) (addChain none (ancestry id.package) ps)

/-- The packages of types by name. -/
def ofTypes (ts : List TypeId) : List (String × Package) :=
  ts.foldl (fun ps t => addType t ps) []

/-- The types in a package, in the order of their descriptors. -/
def sortedTypes (p : Package) : List String := p.types.mergeSort fun a b => decide (a ≤ b)

/-- The entry of a package. -/
def toJson (name : String) (p : Package) : Json :=
  .ofMembers [("full_name", .string name), ("class_count", .nat p.types.length),
    ("sub_packages", .strings (Keyed.keys p.below)), ("class_ids", .strings p.sortedTypes),
    ("is_leaf", .bool p.below.isEmpty)]

end Package

/-- All packages. -/
def Session.listPackages (s : Session) (e : Engine) : Except Abort Output := do
  let types ← ask e.types
  let packages := Package.ofTypes (types.map fun t => ⟨t.rawName⟩)
  pure (.plain (s.answer [("total_packages", .nat packages.length),
    ("packages", .listOf (fun p => Package.toJson p.1 p.2) packages)]))

end DexQuery
