import DexQuery.Json.Document
import DexQuery.Text.Hex

/-!
# Reading JSON text

The text is read byte by byte. One machine cuts it into lexemes, a second one builds the document
out of them with a stack of the arrays and objects that are still open. Both make one step for one
piece of input, so reading ends with the text.

A string may hold any bytes from 0x20 on and the usual escapes. Its value is made of the bytes and
of the characters of the escapes; a UTF-16 surrogate counts only as a pair of two escapes.
-/

namespace DexQuery
namespace Json

/-- The pieces of a JSON text. -/
inductive Lexeme where
  | openArray
  | closeArray
  | openObject
  | closeObject
  | comma
  | colon
  | null
  | bool (value : Bool)
  | number (value : Option Number)
  | string (value : Option String)

/-! ## Strings -/

/-- What has been read of a string: its bytes so far, last first, the first half of a surrogate
pair that waits for the second, and whether the string is no text. -/
structure StringPart where
  bytes : List UInt8
  half : Option Nat
  broken : Bool

namespace StringPart

/-- A string of which nothing has been read. -/
def start : StringPart := ⟨[], none, false⟩

/-- Appends a byte. -/
def byte (s : StringPart) (b : UInt8) : StringPart :=
  ⟨b :: s.bytes, none, s.broken || s.half.isSome⟩

/-- Appends a character. -/
def char (s : StringPart) (c : Char) : StringPart :=
  ⟨(String.singleton c).toUTF8.toList.reverse ++ s.bytes, none, s.broken || s.half.isSome⟩

/-- Appends the UTF-16 unit of an escape. -/
def unit (s : StringPart) (u : Nat) : StringPart :=
  if 0xDC00 ≤ u ∧ u ≤ 0xDFFF then
    match s.half with
    | some h =>
      { s with half := none }.char (Char.ofNat (0x10000 + (h - 0xD800) * 0x400 + (u - 0xDC00)))
    | none => { s with broken := true }
  else if 0xD800 ≤ u ∧ u ≤ 0xDBFF then ⟨s.bytes, some u, s.broken || s.half.isSome⟩
  else s.char (Char.ofNat u)

/-- The text of a string that has been read to its end. -/
def value? (s : StringPart) : Option String :=
  if s.broken || s.half.isSome then none
  else String.fromUTF8? (ByteArray.mk s.bytes.reverse.toArray)

end StringPart

/-- The byte that a backslash and `b` stand for. -/
def simpleEscape? (b : UInt8) : Option UInt8 :=
  if b = 34 ∨ b = 92 ∨ b = 47 then some b
  else if b = 98 then some 8
  else if b = 102 then some 12
  else if b = 110 then some 10
  else if b = 114 then some 13
  else if b = 116 then some 9
  else none

/-! ## Lexemes -/

/-- What the machine that cuts a text into lexemes is in the middle of. -/
inductive LexMode where
  | idle
  | word (letters : List UInt8)
  | numeral (bytes : List UInt8)
  | string (part : StringPart)
  | escape (part : StringPart)
  | hex (part : StringPart) (value digits : Nat)

/-- The machine that cuts a text into lexemes; they are kept last first. -/
structure Lexer where
  done : List Lexeme
  mode : LexMode

/-- The lexeme of a word, its letters last first. -/
def wordLexeme? (letters : List UInt8) : Option Lexeme :=
  if letters = "llun".toUTF8.toList then some .null
  else if letters = "eurt".toUTF8.toList then some (.bool true)
  else if letters = "eslaf".toUTF8.toList then some (.bool false)
  else none

/-- The lexeme of a single byte. -/
def markLexeme? (b : UInt8) : Option Lexeme :=
  if b = 91 then some .openArray
  else if b = 93 then some .closeArray
  else if b = 123 then some .openObject
  else if b = 125 then some .closeObject
  else if b = 44 then some .comma
  else if b = 58 then some .colon
  else none

/-- Whether a byte is a letter of a word. -/
def isWordByte (b : UInt8) : Bool := 97 ≤ b && b ≤ 122

/-- Whether a byte occurs in numerals. -/
def isNumeralByte (b : UInt8) : Bool :=
  (48 ≤ b && b ≤ 57) || b == 43 || b == 45 || b == 46 || b == 101 || b == 69

namespace Lexer

/-- The lexemes before, once what the machine is in the middle of ends here. -/
def close? (s : Lexer) : Option (List Lexeme) :=
  match s.mode with
  | .idle => some s.done
  | .word letters => (wordLexeme? letters).map (· :: s.done)
  | .numeral bytes => (Numeral.ofBytes? bytes.reverse).map fun n => .number n.value? :: s.done
  | _ => none

/-- Takes a byte outside words, numerals and strings. -/
def begin? (done : List Lexeme) (b : UInt8) : Option Lexer :=
  if b = 32 ∨ b = 9 ∨ b = 10 ∨ b = 13 then some ⟨done, .idle⟩
  else if b = 34 then some ⟨done, .string .start⟩
  else if isWordByte b then some ⟨done, .word [b]⟩
  else if isNumeralByte b then some ⟨done, .numeral [b]⟩
  else (markLexeme? b).map fun l => ⟨l :: done, .idle⟩

/-- Takes one byte. -/
def step? (s : Lexer) (b : UInt8) : Option Lexer :=
  match s.mode with
  | .idle => begin? s.done b
  | .word letters =>
    if isWordByte b then some { s with mode := .word (b :: letters) }
    else s.close?.bind fun done => begin? done b
  | .numeral bytes =>
    if isNumeralByte b then some { s with mode := .numeral (b :: bytes) }
    else s.close?.bind fun done => begin? done b
  | .string part =>
    if b = 34 then some ⟨.string part.value? :: s.done, .idle⟩
    else if b = 92 then some { s with mode := .escape part }
    else if b < 32 then none
    else some { s with mode := .string (part.byte b) }
  | .escape part =>
    if b = 117 then some { s with mode := .hex part 0 0 }
    else (simpleEscape? b).map fun x => { s with mode := .string (part.byte x) }
  | .hex part value digits =>
    match Text.hexValue? (Char.ofNat b.toNat) with
    | none => none
    | some d =>
      if digits = 3 then some { s with mode := .string (part.unit (16 * value + d)) }
      else some { s with mode := .hex part (16 * value + d) (digits + 1) }

end Lexer

/-- The lexemes of a text. -/
def lexemes? (text : List UInt8) : Option (List Lexeme) :=
  match text.foldlM Lexer.step? ⟨[], .idle⟩ with
  | none => none
  | some s => s.close?.map List.reverse

/-! ## Documents -/

/-- An array or an object that is still open, its parts last first. -/
inductive Frame where
  | array (items : List Document)
  | object (members : List (Option String × Document))
  | member (members : List (Option String × Document)) (key : Option String)

/-- What may come next. -/
inductive Expecting where
  | value
  | valueOrClose
  | commaOrClose
  | keyOrClose
  | key
  | colon
  | nothing (document : Document)

/-- The machine that builds a document. -/
structure Builder where
  stack : List Frame
  expecting : Expecting

namespace Builder

/-- Puts a finished document into the innermost open frame. -/
def finish (d : Document) : List Frame → Option Builder
  | [] => some ⟨[], .nothing d⟩
  | .array items :: st => some ⟨.array (d :: items) :: st, .commaOrClose⟩
  | .member members key :: st => some ⟨.object ((key, d) :: members) :: st, .commaOrClose⟩
  | .object _ :: _ => none

/-- Takes a lexeme where a value may start. -/
def startValue (stack : List Frame) : Lexeme → Option Builder
  | .openArray => some ⟨.array [] :: stack, .valueOrClose⟩
  | .openObject => some ⟨.object [] :: stack, .keyOrClose⟩
  | .null => finish .null stack
  | .bool b => finish (.bool b) stack
  | .number n => finish (.number n) stack
  | .string s => finish (.string s) stack
  | _ => none

/-- Takes a lexeme that closes the innermost frame. -/
def closeFrame (stack : List Frame) (l : Lexeme) : Option Builder :=
  match stack, l with
  | .array items :: st, .closeArray => finish (.array items.reverse) st
  | .object members :: st, .closeObject => finish (.object members.reverse) st
  | _, _ => none

/-- Takes the key of a member. -/
def startMember (stack : List Frame) (l : Lexeme) : Option Builder :=
  match stack, l with
  | .object members :: st, .string key => some ⟨.member members key :: st, .colon⟩
  | _, _ => none

/-- Takes one lexeme. -/
def step? (s : Builder) (l : Lexeme) : Option Builder :=
  match s.expecting with
  | .value => startValue s.stack l
  | .valueOrClose =>
    match l with
    | .closeArray => closeFrame s.stack l
    | _ => startValue s.stack l
  | .commaOrClose =>
    match l, s.stack with
    | .comma, .array _ :: _ => some { s with expecting := .value }
    | .comma, .object _ :: _ => some { s with expecting := .key }
    | _, _ => closeFrame s.stack l
  | .keyOrClose =>
    match l with
    | .closeObject => closeFrame s.stack l
    | _ => startMember s.stack l
  | .key => startMember s.stack l
  | .colon =>
    match l with
    | .colon => some { s with expecting := .value }
    | _ => none
  | .nothing _ => none

end Builder

/-- The document that a JSON text is. -/
def Document.read? (text : List UInt8) : Option Document :=
  match lexemes? text with
  | none => none
  | some ls =>
    match ls.foldlM Builder.step? ⟨[], .value⟩ with
    | some ⟨_, .nothing d⟩ => some d
    | _ => none

/-- The value that a JSON text is. -/
def read? (text : List UInt8) : Option Json :=
  (Document.read? text).bind (Document.value? depthLimit)

end Json
end DexQuery
