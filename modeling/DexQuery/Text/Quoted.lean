import DexQuery.Unicode.Shown

/-!
# Quoted text in messages

A message quotes the text it is about between double quotes, so that the reader sees every
character of it: quotes and backslashes are escaped, and what would not show is written by its
code point.

| character | written |
| --- | --- |
| `"` and `\` | after a backslash |
| tab, line feed, carriage return, NUL | `\t`, `\n`, `\r`, `\0` |
| unprintable, or joined to the character before it | `\u{..}`, lowercase hexadecimal |
| any other | itself |
-/

namespace DexQuery
namespace Text

/-- The digit of a value below 16, in lowercase. -/
def hexDigit (n : Nat) : Char :=
  if n < 10 then Char.ofNat ('0'.toNat + n) else Char.ofNat ('a'.toNat + (n - 10))

/-- The lowercase hexadecimal digits of `n`, the last digits of a number first put into `acc`. -/
def hexDigitsOnto (n : Nat) (acc : List Char) : List Char :=
  if n < 16 then hexDigit n :: acc else hexDigitsOnto (n / 16) (hexDigit (n % 16) :: acc)
termination_by n
decreasing_by omega

/-- How a character is written in quoted text. -/
def quoteChar (c : Char) : List Char :=
  if c = '"' ∨ c = '\\' then ['\\', c]
  else if c = '\t' then ['\\', 't']
  else if c = '\n' then ['\\', 'n']
  else if c = '\r' then ['\\', 'r']
  else if c = '\x00' then ['\\', '0']
  else if Unicode.isShown c then [c]
  else ['\\', 'u', '\x7b'] ++ hexDigitsOnto c.toNat [] ++ ['\x7d']

/-- `s` between double quotes, with the characters in it escaped. -/
def quote (s : String) : String := String.ofList ('"' :: s.toList.flatMap quoteChar ++ ['"'])

end Text
end DexQuery
