import DexQuery.Unicode.Derived
import DexQuery.Unicode.Fold

/-!
# Classes of characters

The classes that have a letter or an ASCII name of their own, and the closure of a set under case.
-/

namespace DexQuery
namespace CharSet

/-! ## Case -/

/-- The characters equal up to case to one of the set: with what one of them folds to come all that
fold to it. -/
def folded (a : CharSet) : CharSet :=
  let reached := Unicode.foldPairs.filter fun p => a.mem p.1 || a.mem p.2
  let targets := ofSpans (reached.map fun p => Span.single p.2)
  let sources := Unicode.foldPairs.filter fun p => targets.mem p.2
  unions [a, targets, ofSpans (sources.map fun p => Span.single p.1)]

/-- The other case of an ASCII letter, and any other character itself. -/
def otherCase (c : Char) : Char := if c.isUpper then c.toLower else c.toUpper

/-- The ASCII letters. -/
def asciiLetters : List Char :=
  "ABCDEFGHIJKLMNOPQRSTUVWXYZabcdefghijklmnopqrstuvwxyz".toList

/-- The characters equal to one of the set up to the case of ASCII letters. -/
def asciiFolded (a : CharSet) : CharSet :=
  a.union (ofSpans ((asciiLetters.filter fun c => a.mem (otherCase c)).map Span.single))

/-! ## Classes with a name -/

/-- The ASCII classes by name, each as ranges. -/
def asciiClasses : List (String × List (Char × Char)) :=
  [("alnum", [('0', '9'), ('A', 'Z'), ('a', 'z')]), ("alpha", [('A', 'Z'), ('a', 'z')]),
    ("ascii", [('\x00', '\x7f')]), ("blank", [('\t', '\t'), (' ', ' ')]),
    ("cntrl", [('\x00', '\x1f'), ('\x7f', '\x7f')]), ("digit", [('0', '9')]),
    ("graph", [('!', '~')]), ("lower", [('a', 'z')]), ("print", [(' ', '~')]),
    ("punct", [('!', '/'), (':', '@'), ('[', '\x60'), ('\x7b', '~')]),
    ("space", [('\t', '\r'), (' ', ' ')]), ("upper", [('A', 'Z')]),
    ("word", [('0', '9'), ('A', 'Z'), ('_', '_'), ('a', 'z')]),
    ("xdigit", [('0', '9'), ('A', 'F'), ('a', 'f')])]

/-- The ASCII class of a name. -/
def asciiClass? (name : String) : Option CharSet :=
  (asciiClasses.find? fun p => p.1 == name).map fun p => ranges p.2

/-- Decimal digits, of Unicode or of ASCII only. -/
def digit (unicode : Bool) : CharSet :=
  if unicode then Unicode.ofCategories ["Nd"] else ranges [('0', '9')]

/-- Blank characters, of Unicode or of ASCII only. -/
def space (unicode : Bool) : CharSet :=
  if unicode then Unicode.whiteSpace else ranges [('\t', '\r'), (' ', ' ')]

/-- The characters of words in Unicode. -/
def unicodeWord : CharSet :=
  unions
    [Unicode.alphabetic, Unicode.ofCategories ["Mn", "Mc", "Me", "Nd", "Pc"], Unicode.joinControl]

/-- The characters of words in ASCII. -/
def asciiWord : CharSet := ranges [('0', '9'), ('A', 'Z'), ('_', '_'), ('a', 'z')]

/-- The characters of words, of Unicode or of ASCII only. -/
def word (unicode : Bool) : CharSet := if unicode then unicodeWord else asciiWord

end CharSet
end DexQuery
