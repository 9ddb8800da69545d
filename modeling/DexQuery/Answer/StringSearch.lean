import DexQuery.Answer.UnitText
import DexQuery.Operation.Request
import DexQuery.Source.Literal

/-!
# Searching string literals

The search goes through the source of every type, in the order of raw names, and takes the string
literals whose value it looks for. A literal belongs to the first method whose text holds it. A
type whose source cannot be got is passed over with a warning, and where the methods of a type
cannot be located its literals belong to none.

The answer groups the literals by value: the values in ascending order, each with the places where
it stands, every place once.
-/

namespace DexQuery

/-- Where a value stands: in a type, and in a method if one holds it. -/
structure Place where
  typeId : String
  methodId : Option String
deriving DecidableEq

/-- A place as a value. -/
def Place.toJson (p : Place) : Json :=
  .ofMembers [("type_id", .string p.typeId), ("method_id", .optString p.methodId)]

/-- A literal that has been found: its value and where it stands. -/
structure Hit where
  value : String
  place : Place
deriving DecidableEq

/-- The text of a method in its unit: a byte range and the descriptor of the method. -/
structure MethodRange where
  start : Nat
  stop : Nat
  id : String

/-- Whether byte `n` lies in the range. -/
def MethodRange.covers (r : MethodRange) (n : Nat) : Bool := r.start ≤ n && n < r.stop

namespace StringSearch

/-- The byte range of the first occurrence of a text that is not empty. -/
def occurrence? (unit text : String) : Option (Nat × Nat) :=
  (Text.splitOccurrence? text.toList unit.toList).map fun p =>
    (Text.size p.1, Text.size p.1 + text.utf8ByteSize)

/-- The byte range of a member in its unit: from its definition, else that of its exact text. -/
def memberRange? (unit : String) (span : Source.Span) : Option (Nat × Nat) :=
  ((span.definitionOffset.bind (Source.member? unit)).map fun m => (m.start, m.stop)).or
    (span.exactText?.bind (occurrence? unit))

/-- The ranges of methods, of which those that cannot be located are left out. -/
def rangesOf (e : Engine) (t : TypeId) (unit : String) : List MethodModel → Reply (List MethodRange)
  | [] => .ok []
  | m :: ms =>
    match e.memberSpan (m.id t) with
    | .error fault => .error fault
    | .ok span =>
      match rangesOf e t unit ms with
      | .error fault => .error fault
      | .ok rest =>
        match span.bind (memberRange? unit) with
        | none => .ok rest
        | some (start, stop) => .ok (⟨start, stop, (m.id t).text⟩ :: rest)

/-- The ranges of the methods of a type. -/
def methodRanges (e : Engine) (t : TypeId) (unit : String) : Reply (List MethodRange) :=
  match e.methods t with
  | .error fault => .error fault
  | .ok methods => rangesOf e t unit (methods.getD [])

/-- The ranges of the methods of a type, with a warning if they cannot be found out. A panic still
breaks off the search. -/
def attribution (e : Engine) (t : TypeId) (unit : String) :
    Except Abort (List MethodRange × List String) :=
  match methodRanges e t unit with
  | .ok ranges => .ok (ranges, [])
  | .error (.error causes) =>
    .ok ([], ["method attribution unavailable for " ++ t.text ++ ": " ++ Fault.chain causes])
  | .error (.panic message) => .error (.panicked message)

/-- The method that holds byte `n`: the first of those whose range covers it. -/
def holder? (ranges : List MethodRange) (n : Nat) : Option String :=
  (ranges.find? fun r => r.covers n).map fun r => r.id

/-- The literals of a unit that the search takes, in source order. -/
def hitsIn (q : StringSearch) (t : TypeId) (unit : String) (ranges : List MethodRange) :
    List Hit :=
  ((Source.literals unit).filter fun l => q.accepts l.value).map fun l =>
    ⟨l.value, t.text, holder? ranges l.offset⟩

/-- What a search has found: hits in the order in which they were met, and warnings. -/
structure Findings where
  hits : List Hit
  warnings : List String

/-- Findings before others. -/
def Findings.append (a b : Findings) : Findings := ⟨a.hits ++ b.hits, a.warnings ++ b.warnings⟩

/-- Searches one type. -/
def scanType (q : StringSearch) (s : Session) (e : Engine) (t : TypeId) (files : Files.Tree) :
    Except Abort Findings × Files.Tree :=
  match s.unitText e .source t files with
  | (.error (.panicked message), files') => (.error (.panicked message), files')
  | (.error (.failed f), files') =>
    (.ok ⟨[], ["skipped " ++ t.text ++ ": " ++ f.message]⟩, files')
  | (.ok fetched, files') =>
    match fetched.text with
    | none => (.ok ⟨[], fetched.warnings⟩, files')
    | some unit =>
      match attribution e t unit with
      | .error a => (.error a, files')
      | .ok (ranges, warnings) =>
        (.ok ⟨q.hitsIn t unit ranges, fetched.warnings ++ warnings⟩, files')

/-- Searches types one after the other. -/
def scanTypes (q : StringSearch) (s : Session) (e : Engine) :
    List TypeId → Files.Tree → Except Abort Findings × Files.Tree
  | [], files => (.ok ⟨[], []⟩, files)
  | t :: ts, files =>
    match q.scanType s e t files with
    | (.error a, files₁) => (.error a, files₁)
    | (.ok found, files₁) =>
      match scanTypes q s e ts files₁ with
      | (.error a, files₂) => (.error a, files₂)
      | (.ok rest, files₂) => (.ok (found.append rest), files₂)

/-- Types in the order in which they are searched. -/
def searchOrder (ts : List TypeSummary) : List TypeId :=
  (ts.mergeSort fun a b => decide (a.rawName ≤ b.rawName)).map fun t => ⟨t.rawName⟩

/-- Puts a place behind others, unless it is among them. -/
def addPlace (p : Place) (ps : List Place) : List Place := if p ∈ ps then ps else ps ++ [p]

/-- Hits by value. -/
def group (hits : List Hit) : List (String × List Place) :=
  hits.foldl (fun m h => Keyed.alter h.value (fun ps => addPlace h.place (ps.getD [])) m) []

/-- A value with its places as a value of the answer. -/
def matchEntry (m : String × List Place) : Json :=
  .ofMembers [("value", .string m.1), ("locations", .listOf Place.toJson m.2)]

/-- The answer to a search. -/
def answer (q : StringSearch) (s : Session) (found : Findings) : Output :=
  let groups := group found.hits
  ⟨s.answer [("query", .string q.text), ("is_regex", .bool q.isPattern),
    ("matches", .listOf matchEntry (groups.take q.limit)),
    ("total_count", .nat groups.length)], found.warnings, decide (q.limit < groups.length)⟩

end StringSearch

/-- Searches the string literals of all types. -/
def Session.searchStrings (s : Session) (e : Engine) (q : StringSearch) (files : Files.Tree) :
    Except Abort Output × Files.Tree :=
  match ask e.types with
  | .error a => (.error a, files)
  | .ok types =>
    match q.scanTypes s e (StringSearch.searchOrder types) files with
    | (.error a, files') => (.error a, files')
    | (.ok found, files') => (.ok (q.answer s found), files')

end DexQuery
