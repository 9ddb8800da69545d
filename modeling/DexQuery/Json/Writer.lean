import DexQuery.Json.Number
import DexQuery.Text.Hex

/-!
# Writing JSON text

The compact form has no blanks. The indented form puts every item and member on a line of its own,
two spaces further in than what holds it; an empty array or object stays on one line. In strings
only quotes, backslashes and control characters are escaped.
-/

namespace DexQuery
namespace Json

/-- How a character of a string is written. -/
def writeChar (c : Char) : List Char :=
  if c = '"' ∨ c = '\\' then ['\\', c]
  else if c = '\x08' then ['\\', 'b']
  else if c = '\x0c' then ['\\', 'f']
  else if c = '\n' then ['\\', 'n']
  else if c = '\r' then ['\\', 'r']
  else if c = '\t' then ['\\', 't']
  else if c.toNat < 0x20 then '\\' :: 'u' :: '0' :: '0' :: Text.hexByte (UInt8.ofNat c.toNat)
  else [c]

/-- A string in JSON text. -/
def writeString (s : String) : String :=
  String.ofList ('"' :: s.toList.flatMap writeChar ++ ['"'])

/-! ## Compact form -/

mutual

/-- A value in the compact form, written after `out`. -/
def writeCompact (out : String) : Json → String
  | .null => out ++ "null"
  | .bool true => out ++ "true"
  | .bool false => out ++ "false"
  | .number n => out ++ String.ofList n.text
  | .string s => out ++ writeString s
  | .array [] => out ++ "[]"
  | .array (x :: xs) => writeCompactItems (writeCompact (out ++ "[") x) xs ++ "]"
  | .object [] => out ++ "\x7b\x7d"
  | .object ((k, x) :: ms) =>
    writeCompactMembers (writeCompact (out ++ "\x7b" ++ writeString k ++ ":") x) ms ++ "\x7d"

/-- The items of an array after its first, written after `out`. -/
def writeCompactItems (out : String) : List Json → String
  | [] => out
  | x :: xs => writeCompactItems (writeCompact (out ++ ",") x) xs

/-- The members of an object after its first, written after `out`. -/
def writeCompactMembers (out : String) : List (String × Json) → String
  | [] => out
  | (k, x) :: ms =>
    writeCompactMembers (writeCompact (out ++ "," ++ writeString k ++ ":") x) ms

end

/-- A value in the compact form. -/
def compact (j : Json) : String := writeCompact "" j

/-! ## Indented form -/

/-- A line end and the blanks before a line `depth` levels in. -/
def newLine (depth : Nat) : String := "\n" ++ String.ofList (List.replicate (2 * depth) ' ')

mutual

/-- A value in the indented form, `depth` levels in, written after `out`. -/
def writeIndented (depth : Nat) (out : String) : Json → String
  | .array (x :: xs) =>
    writeIndentedItems (depth + 1)
      (writeIndented (depth + 1) (out ++ "[" ++ newLine (depth + 1)) x) xs ++ newLine depth ++ "]"
  | .object ((k, x) :: ms) =>
    writeIndentedMembers (depth + 1)
      (writeIndented (depth + 1)
        (out ++ "\x7b" ++ newLine (depth + 1) ++ writeString k ++ ": ") x) ms ++
      newLine depth ++ "\x7d"
  | x => writeCompact out x

/-- The items of an array after its first, written after `out`. -/
def writeIndentedItems (depth : Nat) (out : String) : List Json → String
  | [] => out
  | x :: xs =>
    writeIndentedItems depth (writeIndented depth (out ++ "," ++ newLine depth) x) xs

/-- The members of an object after its first, written after `out`. -/
def writeIndentedMembers (depth : Nat) (out : String) : List (String × Json) → String
  | [] => out
  | (k, x) :: ms =>
    writeIndentedMembers depth
      (writeIndented depth (out ++ "," ++ newLine depth ++ writeString k ++ ": ") x) ms

end

/-- A value in the indented form. -/
def indented (j : Json) : String := writeIndented 0 "" j

end Json
end DexQuery
