import DexQuery.Pattern.Look
import DexQuery.Text.Hex
import DexQuery.Unicode.Property

/-!
# Flags, blanks and escapes of pattern text

Flags hold from where they are set to the end of the group around. In extended mode blanks and
comments between the parts of a pattern do not count. Without Unicode mode a pattern may only match
whole characters, so sets and bytes outside ASCII are refused there.

| escape | meaning |
| --- | --- |
| `\d` `\s` `\w`, `\D` `\S` `\W` | digits, blanks, characters of words, and the others |
| `\p` or `\P` and a letter or a name in braces | a Unicode property, and the others |
| `\a` `\f` `\t` `\n` `\r` `\v` | a control character |
| `\x7F` `\u007F` `\U0000007F`, `\x` and digits in braces | the character of a code point |
| `\A` `\z` `\b` `\B` `\<` `\>`, `\b` and a name in braces | a condition on the position |
| other ASCII that is no letter and no digit | itself |
-/

namespace DexQuery
namespace Pattern

/-- The flags of a pattern, by the letters `i`, `m`, `s`, `U`, `u`, `R` and `x`. -/
structure Flags where
  caseless : Bool
  multiLine : Bool
  dotAll : Bool
  swapGreed : Bool
  unicode : Bool
  crlf : Bool
  extended : Bool

/-- The flags that hold at the start of a pattern. -/
def Flags.start : Flags := ⟨false, false, false, false, true, false, false⟩

/-- The letters of flags. -/
def flagLetters : List Char := ['i', 'm', 's', 'U', 'u', 'R', 'x']

/-- Switches a flag on or off. -/
def Flags.switch (f : Flags) (letter : Char) (on : Bool) : Flags :=
  match letter with
  | 'i' => { f with caseless := on }
  | 'm' => { f with multiLine := on }
  | 's' => { f with dotAll := on }
  | 'U' => { f with swapGreed := on }
  | 'u' => { f with unicode := on }
  | 'R' => { f with crlf := on }
  | 'x' => { f with extended := on }
  | _ => f

/-- Switches flags as their letters say: on before a `-` and off after it. -/
def Flags.switchAll (f : Flags) (letters : List Char) : Flags :=
  let off := (letters.dropWhile (· ≠ '-')).drop 1
  off.foldl (fun f c => f.switch c false)
    ((letters.takeWhile (· ≠ '-')).foldl (fun f c => f.switch c true) f)

/-- The set closed under case, if the flags ask for it. -/
def Flags.close (f : Flags) (s : CharSet) : CharSet :=
  if !f.caseless then s else if f.unicode then s.folded else s.asciiFolded

/-- The set closed under case and then negated, refused if it is one of bytes that are not ASCII. -/
def Flags.finish (f : Flags) (negated : Bool) (s : CharSet) : Option CharSet :=
  let r := (f.close s).complIf negated
  if f.unicode || r.isAscii then some r else none

/-! ## Blanks and comments -/

/-- The text after blanks and comments, a comment running from `#` to the end of its line. -/
def skipBlanks (inComment : Bool) : List Char → List Char
  | [] => []
  | c :: r =>
    if inComment then skipBlanks (c != '\n') r
    else if Text.isBlank c then skipBlanks false r
    else if c = '#' then skipBlanks true r
    else c :: r

theorem length_skipBlanks_le (b : Bool) (cs : List Char) :
    (skipBlanks b cs).length ≤ cs.length := by
  induction cs generalizing b with
  | nil => simp [skipBlanks]
  | cons c r ih =>
    unfold skipBlanks
    split
    · exact Nat.le_succ_of_le (ih _)
    · split
      · exact Nat.le_succ_of_le (ih _)
      · split
        · exact Nat.le_succ_of_le (ih _)
        · exact Nat.le_refl _

/-- The text after blanks and comments in extended mode, else the text itself. -/
def Flags.skip (f : Flags) (cs : List Char) : List Char :=
  if f.extended then skipBlanks false cs else cs

theorem Flags.length_skip_le (f : Flags) (cs : List Char) : (f.skip cs).length ≤ cs.length := by
  unfold Flags.skip
  split
  · exact length_skipBlanks_le false cs
  · exact Nat.le_refl _

/-! ## Escapes -/

/-- What an escape stands for. A byte is a character written by two hexadecimal digits. -/
inductive Escape where
  | literal (c : Char) (byte : Bool)
  | set (s : CharSet)
  | look (l : Look)

/-- The value of `n` hexadecimal digits, put behind the digits of `acc`. -/
def fixedHex? (f : Flags) : Nat → Nat → List Char → Option (Nat × List Char)
  | 0, acc, cs => some (acc, cs)
  | _ + 1, _, [] => none
  | n + 1, acc, c :: r =>
    (Text.hexValue? c).bind fun v => fixedHex? f n (16 * acc + v) (f.skip r)

/-- The value of the hexadecimal digits up to a closing brace, put behind the digits of `acc`. -/
def bracedHex? (f : Flags) (acc : Option Nat) (cs : List Char) : Option (Nat × List Char) :=
  match cs with
  | [] => none
  | c :: r =>
    if c = '\x7d' then acc.map fun n => (n, f.skip r)
    else
      match Text.hexValue? c with
      | none => none
      | some v => bracedHex? f (some (16 * acc.getD 0 + v)) (f.skip r)
termination_by cs.length
decreasing_by exact Nat.lt_succ_of_le (f.length_skip_le r)

/-- The character that hexadecimal digits stand for, `digits` of them unless they are in braces. -/
def hexEscape? (f : Flags) (digits : Nat) (cs : List Char) : Option (Escape × List Char) :=
  match f.skip cs with
  | [] => none
  | c :: r =>
    let found :=
      if c = '\x7b' then bracedHex? f none (f.skip r) else fixedHex? f digits 0 (c :: r)
    found.bind fun p =>
      (Unicode.charOf? p.1).map fun d => (.literal d (c != '\x7b' && digits == 2), p.2)

/-- The name up to a closing brace and the text after it. -/
def bracedName? (f : Flags) (acc : List Char) (cs : List Char) :
    Option (List Char × List Char) :=
  match cs with
  | [] => none
  | c :: r => if c = '\x7d' then some (acc.reverse, r) else bracedName? f (c :: acc) (f.skip r)
termination_by cs.length
decreasing_by exact Nat.lt_succ_of_le (f.length_skip_le r)

/-- The set that a name in braces stands for, with or without a value, and whether the value is
the one that its members have not. -/
def propertyOfText? (name : List Char) : Option (CharSet × Bool) :=
  match Text.splitOccurrence? ['!', '='] name with
  | some (p, v) => (Unicode.valued? p v).map fun s => (s, true)
  | none =>
    match (Text.splitFirst? ':' name).or (Text.splitFirst? '=' name) with
    | some (p, v) => (Unicode.valued? p v).map fun s => (s, false)
    | none => (Unicode.named? name).map fun s => (s, false)

/-- The set of a Unicode property. -/
def propertyEscape? (f : Flags) (negated : Bool) (cs : List Char) :
    Option (Escape × List Char) :=
  if !f.unicode then none
  else
    match f.skip cs with
    | [] => none
    | c :: r =>
      let found :=
        if c = '\x7b' then
          (bracedName? f [] (f.skip r)).bind fun p =>
            (propertyOfText? p.1).map fun s => (s, p.2)
        else if c = '\\' then none
        else (Unicode.named? [c]).map fun s => ((s, false), f.skip r)
      found.bind fun (s, rest) => (f.finish (negated != s.2) s.1).map fun s => (.set s, rest)

/-- The set of a class with a letter, refused if it is one of bytes that are not ASCII. -/
def letterClass? (f : Flags) (s : Bool → CharSet) (negated : Bool) (rest : List Char) :
    Option (Escape × List Char) :=
  let r := (s f.unicode).complIf negated
  if f.unicode || r.isAscii then some (.set r, rest) else none

/-- Whether a character may stand in the name of a condition. -/
def isEdgeNameChar (c : Char) : Bool := c.isAlpha || c == '-'

/-- The name of a condition and the text after it. -/
def edgeName (f : Flags) (acc : List Char) (cs : List Char) : List Char × List Char :=
  match cs with
  | [] => (acc.reverse, [])
  | c :: r =>
    if isEdgeNameChar c then edgeName f (c :: acc) (f.skip r) else (acc.reverse, c :: r)
termination_by cs.length
decreasing_by exact Nat.lt_succ_of_le (f.length_skip_le r)

/-- The conditions with a name, and whether they hold by the characters of words of Unicode. -/
def edgeOfName? (unicode : Bool) (name : String) : Option Look :=
  match name with
  | "start" => some (.wordStart unicode)
  | "end" => some (.wordStop unicode)
  | "start-half" => some (.wordStartHalf unicode)
  | "end-half" => some (.wordStopHalf unicode)
  | _ => none

/-- The condition of `\b`. A brace after it opens a name, unless what follows cannot be one: then
it opens the count of a repetition. -/
def edgeEscape? (f : Flags) (rest : List Char) : Option (Escape × List Char) :=
  match rest with
  | '\x7b' :: r =>
    match f.skip r with
    | [] => none
    | c :: cs =>
      if isEdgeNameChar c then
        match edgeName f [] (c :: cs) with
        | (name, '\x7d' :: after) =>
          (edgeOfName? f.unicode (String.ofList name)).map fun l => (.look l, after)
        | _ => none
      else some (.look (.wordEdge f.unicode), rest)
  | _ => some (.look (.wordEdge f.unicode), rest)

/-- Whether a backslash before an ASCII character makes it stand for itself. -/
def isQuotable (c : Char) : Bool := c.toNat < 0x80 && !c.isAlphanum && c != '<' && c != '>'

/-- The escape after a backslash, and the text after it. -/
def escape? (f : Flags) : List Char → Option (Escape × List Char)
  | [] => none
  | c :: r =>
    match c with
    | 'x' => hexEscape? f 2 r
    | 'u' => hexEscape? f 4 r
    | 'U' => hexEscape? f 8 r
    | 'p' => propertyEscape? f false r
    | 'P' => propertyEscape? f true r
    | 'd' => letterClass? f CharSet.digit false r
    | 'D' => letterClass? f CharSet.digit true r
    | 's' => letterClass? f CharSet.space false r
    | 'S' => letterClass? f CharSet.space true r
    | 'w' => letterClass? f CharSet.word false r
    | 'W' => letterClass? f CharSet.word true r
    | 'a' => some (.literal '\x07' false, r)
    | 'f' => some (.literal '\x0c' false, r)
    | 't' => some (.literal '\t' false, r)
    | 'n' => some (.literal '\n' false, r)
    | 'r' => some (.literal '\r' false, r)
    | 'v' => some (.literal '\x0b' false, r)
    | 'A' => some (.look .start, r)
    | 'z' => some (.look .stop, r)
    | 'b' => edgeEscape? f r
    | 'B' => some (.look (.noWordEdge f.unicode), r)
    | '<' => some (.look (.wordStart f.unicode), r)
    | '>' => some (.look (.wordStop f.unicode), r)
    | _ => if isQuotable c then some (.literal c false, r) else none

end Pattern
end DexQuery
