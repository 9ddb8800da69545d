/-!
# Points in time

A point in time is a number of nanoseconds since the start of 1970. It is written by the calendar
in UTC, with as many groups of three decimals after the seconds as it needs.
-/

namespace DexQuery
namespace Timestamp

/-- The digits of `n`, with zeros in front up to the width `w`. -/
def padded (w n : Nat) : String :=
  let ds := toString n
  String.ofList (List.replicate (w - ds.length) '0') ++ ds

/-- The year, month and day of a day counted from the first of March in the year 0. -/
def civil (days : Nat) : Nat × Nat × Nat :=
  let era := days / 146097
  let ofEra := days % 146097
  let yearOfEra := (ofEra - ofEra / 1460 + ofEra / 36524 - ofEra / 146096) / 365
  let ofYear := ofEra - (365 * yearOfEra + yearOfEra / 4 - yearOfEra / 100)
  let shifted := (5 * ofYear + 2) / 153
  let day := ofYear - (153 * shifted + 2) / 5 + 1
  let month := if shifted < 10 then shifted + 3 else shifted - 9
  (400 * era + yearOfEra + (if month ≤ 2 then 1 else 0), month, day)

/-- The days from the first of March in the year 0 to the start of 1970. -/
def daysBefore1970 : Nat := 719468

/-- The decimals of a second. -/
def fraction (nanos : Nat) : String :=
  if nanos = 0 then ""
  else if nanos % 1000000 = 0 then "." ++ padded 3 (nanos / 1000000)
  else if nanos % 1000 = 0 then "." ++ padded 6 (nanos / 1000)
  else "." ++ padded 9 nanos

/-- The text of a point in time. -/
def text (nanos : Nat) : String :=
  let seconds := nanos / 1000000000
  let (year, month, day) := civil (seconds / 86400 + daysBefore1970)
  let ofDay := seconds % 86400
  padded 4 year ++ "-" ++ padded 2 month ++ "-" ++ padded 2 day ++ "T" ++
    padded 2 (ofDay / 3600) ++ ":" ++ padded 2 (ofDay / 60 % 60) ++ ":" ++
    padded 2 (ofDay % 60) ++ fraction (nanos % 1000000000) ++ "Z"

end Timestamp
end DexQuery
