import DexQuery.Json.Basic
import DexQuery.Number.Shortest

/-!
# Numbers in JSON text

A numeral is a sign, digits, an optional fraction and an optional exponent. A numeral without
fraction and exponent is an integer when it fits in 64 bits and is not `-0`; every other numeral is
a binary64, computed as the first digits that fit in 64 bits times or divided by a power of ten. A
numeral too large for a binary64 has no value.

A binary64 is written with the fewest digits that read back, positionally from `1e-5` up to `1e16`.
-/

namespace DexQuery
namespace Json

/-- The parts of a numeral. -/
structure Numeral where
  negative : Bool
  whole : List Nat
  fraction : Option (List Nat)
  exponent : Option (Bool × List Nat)

/-- The longest run of digits at the front of a text, and the text after it. -/
def takeDigits (cs : List UInt8) : List Nat × List UInt8 :=
  let isDigit (b : UInt8) : Bool := 48 ≤ b && b ≤ 57
  ((cs.takeWhile isDigit).map fun b => b.toNat - 48, cs.dropWhile isDigit)

/-- The numeral that a text is. -/
def Numeral.ofBytes? (cs : List UInt8) : Option Numeral :=
  let (negative, cs) := match cs with
    | 45 :: r => (true, r)
    | _ => (false, cs)
  let (whole, cs) := takeDigits cs
  if whole.isEmpty || (1 < whole.length && whole.head? == some 0) then none
  else
    let fractionAndRest := match cs with
      | 46 :: r =>
        let (digits, r) := takeDigits r
        if digits.isEmpty then none else some (some digits, r)
      | _ => some (none, cs)
    match fractionAndRest with
    | none => none
    | some (fraction, cs) =>
      match cs with
      | [] => some ⟨negative, whole, fraction, none⟩
      | e :: r =>
        if e ≠ 101 ∧ e ≠ 69 then none
        else
          let (down, r) := match r with
            | 43 :: r' => (false, r')
            | 45 :: r' => (true, r')
            | _ => (false, r)
          let (digits, r) := takeDigits r
          if digits.isEmpty || !r.isEmpty then none
          else some ⟨negative, whole, fraction, some (down, digits)⟩

/-- The value of a list of digits. -/
def ofDigits (ds : List Nat) : Nat := ds.foldl (fun n d => 10 * n + d) 0

/-- The numbers that 64 bits hold end here. -/
def wordLimit : Nat := Nat.pow 2 64

/-- The value of the digits at the front that fit in 64 bits when they follow `n`, and the digits
that are left. -/
def fitDigits (n : Nat) : List Nat → Nat × List Nat
  | [] => (n, [])
  | d :: ds => if 10 * n + d < wordLimit then fitDigits (10 * n + d) ds else (n, d :: ds)

/-- `x` times `10^e`, if that is finite; a negative power is divided by, in steps of `10^308`. -/
def scaleFloat (x : Float) (e : Int) : Option Float :=
  if e.natAbs ≤ 308 then
    let p := Float.ofScientific 1 false e.natAbs
    if 0 ≤ e then
      let y := x * p
      if y.isInf then none else some y
    else some (x / p)
  else if x == 0.0 then some x
  else if 0 ≤ e then none
  else scaleFloat (x / Float.ofScientific 1 false 308) (e + 308)
termination_by e.natAbs
decreasing_by omega

/-- The binary64 that a numeral stands for, if it is finite. -/
def Numeral.float? (n : Numeral) : Option Float :=
  let (whole, dropped) := fitDigits 0 n.whole
  let (value, left) := fitDigits whole (n.fraction.getD [])
  let taken := (n.fraction.getD []).length - left.length
  let shift : Int := match n.exponent with
    | none => 0
    | some (down, ds) => if down then -(ofDigits ds : Int) else ofDigits ds
  (scaleFloat (UInt64.ofNat value).toFloat (dropped.length - taken + shift)).map fun x =>
    if n.negative then -x else x

/-- The value of a numeral, if it has one. -/
def Numeral.value? (n : Numeral) : Option Number :=
  let integer : Int := if n.negative then -(ofDigits n.whole : Int) else ofDigits n.whole
  let isInteger := n.fraction.isNone && n.exponent.isNone
  let fits := -(Nat.pow 2 63 : Int) ≤ integer && integer < wordLimit
  if isInteger && fits && !(n.negative && integer == 0) then
    some (.int integer)
  else n.float?.map fun x => .float x.toBits

/-- The positive binary number of the magnitude of a binary64, none for zero and for what is not
finite. -/
def magnitude? (bits : UInt64) : Option Shortest.Binary :=
  let biased := (bits >>> 52).toNat % 2048
  let fraction := bits.toNat % Nat.pow 2 52
  if biased = 2047 then none
  else if biased = 0 then
    if fraction = 0 then none else some ⟨fraction, -1074, false⟩
  else some ⟨Nat.pow 2 52 + fraction, (biased : Int) - 1075, fraction = 0 && 1 < biased⟩

/-- The decimal digits of a natural number. -/
def digitsOf (n : Nat) : List Char := Nat.toDigits 10 n

/-- A positive decimal, positional when its point lies from five places before its first digit to
sixteen places after it. -/
def decimalText (d : Shortest.Decimal) : List Char :=
  let ds := digitsOf d.digits
  let point : Int := ds.length + d.exponent
  if 0 ≤ d.exponent ∧ point ≤ 16 then ds ++ List.replicate d.exponent.toNat '0' ++ ['.', '0']
  else if 0 < point ∧ point ≤ 16 then ds.take point.toNat ++ '.' :: ds.drop point.toNat
  else if -5 < point ∧ point ≤ 0 then
    '0' :: '.' :: List.replicate point.natAbs '0' ++ ds
  else
    let lead := match ds with
      | [] => []
      | [x] => [x]
      | x :: r => x :: '.' :: r
    lead ++ 'e' :: (toString (point - 1)).toList

/-- The text of a number. -/
def Number.text : Number → List Char
  | .int i => (toString i).toList
  | .float bits =>
    let sign := if bits.toNat < Nat.pow 2 63 then [] else ['-']
    match magnitude? bits with
    | some b => sign ++ decimalText (Shortest.digits b)
    | none => sign ++ ['0', '.', '0']

end Json
end DexQuery
