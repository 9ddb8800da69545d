import DexQuery.Source.Token

/-!
# String literals of source text

The literals between double quotes, each with the byte offset of its opening quote and with its
escapes decoded. An unknown escape stands for itself, backslash included.
-/

namespace DexQuery
namespace Source

/-- The character that a backslash and `c` stand for, if they are a known escape. -/
def escaped? (c : Char) : Option Char :=
  match c with
  | 'n' => some '\n'
  | 't' => some '\t'
  | 'r' => some '\r'
  | '0' => some '\x00'
  | '"' => some '"'
  | '\'' => some '\''
  | '\\' => some '\\'
  | _ => none

/-- Decodes the escapes in the body of a literal. -/
def unescape : List Char → List Char
  | [] => []
  | [c] => [c]
  | c :: d :: r =>
    if c = '\\' then
      match escaped? d with
      | some e => e :: unescape r
      | none => c :: d :: unescape r
    else c :: unescape (d :: r)

/-- A string literal: the byte offset of its opening quote and its value. -/
structure Literal where
  offset : Nat
  value : String
deriving DecidableEq

/-- The string literal that a placed token is, if it is one. -/
def Literal.ofToken? : Nat × Token → Option Literal
  | (n, .literal '"' body) => some ⟨n, String.ofList (unescape body)⟩
  | _ => none

/-- The string literals of a source text, in source order. -/
def literals (text : String) : List Literal :=
  (placed 0 (scan text.toList)).filterMap Literal.ofToken?

end Source
end DexQuery
