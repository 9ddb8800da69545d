/-!
# The shortest decimal of a binary number

A positive binary number `m · 2^q` stands for all reals that round to it. Among the decimals in
that interval, `digits` picks one with the fewest digits, and of those the nearest to the number.
The interval reaches half way to either neighbour; its ends belong to it when `m` is even, since a
tie is rounded to even.
-/

namespace DexQuery
namespace Shortest

/-- A positive binary number: its mantissa, its exponent, and whether the number below it is only
half as far away as the number above it. -/
structure Binary where
  mantissa : Nat
  exponent : Int
  narrowBelow : Bool

/-- A decimal `digits · 10^exponent`. -/
structure Decimal where
  digits : Nat
  exponent : Int

/-- Four times the number, as a fraction `num / den`. -/
def Binary.scaled (b : Binary) : Nat × Nat :=
  if b.exponent < 0 then (4 * b.mantissa, Nat.pow 2 b.exponent.natAbs)
  else (4 * b.mantissa * Nat.pow 2 b.exponent.toNat, 1)

/-- Whether the decimal `d · 10^k` rounds to the number. -/
def Binary.holds (b : Binary) (d : Nat) (k : Int) : Bool :=
  let (x, den) := (4 * d * Nat.pow 10 k.toNat, Nat.pow 10 (-k).toNat)
  let (y, scale) :=
    if b.exponent < 0 then (1, Nat.pow 2 b.exponent.natAbs) else (Nat.pow 2 b.exponent.toNat, 1)
  let low := (4 * b.mantissa - if b.narrowBelow then 1 else 2) * y * den
  let high := (4 * b.mantissa + 2) * y * den
  let x := x * scale
  if b.mantissa % 2 = 0 then low ≤ x && x ≤ high else low < x && x < high

/-- The number of decimal digits of `n`. -/
def digitCount (n : Nat) : Nat := (Nat.toDigits 10 n).length

/-- A power of ten `k` such that the number is below `10^k` and not far below it. -/
def Binary.magnitude (b : Binary) : Int :=
  let (num, den) := b.scaled
  let num := num / 4
  if num ≥ den then digitCount (num / den)
  else (1 : Int) - (digitCount (den / (num + 1)) : Int)

/-- The decimal with a step of `10^k` nearest to the number that rounds to it, if there is one; of
two equally near the even one. -/
def Binary.onGrid? (b : Binary) (k : Int) : Option Decimal :=
  let (num, den) := b.scaled
  let n := num * Nat.pow 10 (-k).toNat
  let d := den * 4 * Nat.pow 10 k.toNat
  let below := n / d
  let rest := n % d
  let nearUp := rest * 2 > d || (rest * 2 = d && below % 2 = 1)
  let first := if nearUp then below + 1 else below
  let second := if nearUp then below else below + 1
  if 0 < first && b.holds first k then some ⟨first, k⟩
  else if 0 < second && b.holds second k then some ⟨second, k⟩
  else none

/-- The first grid that holds a decimal of the number, from a step of `10^k` on downwards. -/
def Binary.search (b : Binary) (k : Int) : Nat → Decimal
  | 0 => ⟨b.mantissa, b.exponent⟩
  | n + 1 =>
    match b.onGrid? k with
    | some d => d
    | none => b.search (k - 1) n

/-- The decimal without the zeros at its end. -/
def Decimal.trim (d : Decimal) : Nat → Decimal
  | 0 => d
  | n + 1 =>
    if d.digits % 10 = 0 ∧ d.digits ≠ 0 then Decimal.trim ⟨d.digits / 10, d.exponent + 1⟩ n else d

/-- The shortest decimal that rounds to the number, and the nearest to it of those. -/
def digits (b : Binary) : Decimal :=
  let d := b.search (b.magnitude + 1) 25
  d.trim (digitCount d.digits)

end Shortest
end DexQuery
