import DexQuery.CharSet.Basic

/-!
# Changes of case

Which characters change when a text is put into lowercase, uppercase, titlecase or a form that
forgets about case, as sets of characters. Most of what changes in uppercase changes in titlecase,
and most of what changes in lowercase changes when case is forgotten, so the latter are given by
what sets them apart.
-/

namespace DexQuery
namespace Unicode

/-- The characters with the property `Changes_When_Lowercased`. -/
def changesWhenLowercased : CharSet := CharSet.ofMarks "
  -65 +26 -101 +23 -1 +7 -33 +1 -1 +1 -1 +1 -1 +1 -1 +1 -1 +1 -1 +1 -1 +1 -1 +1 -1 +1 -1 +1 -1 +1
  -1 +1 -1 +1 -1 +1 -1 +1 -1 +1 -1 +1 -1 +1 -1 +1 -1 +1 -1 +1 -1 +1 -1 +1 -1 +1 -1 +1 -1 +1 -1 +1
  -2 +1 -1 +1 -1 +1 -1 +1 -1 +1 -1 +1 -1 +1 -1 +1 -2 +1 -1 +1 -1 +1 -1 +1 -1 +1 -1 +1 -1 +1 -1 +1
  -1 +1 -1 +1 -1 +1 -1 +1 -1 +1 -1 +1 -1 +1 -1 +1 -1 +1 -1 +1 -1 +1 -1 +1 -1 +1 -1 +1 -1 +1 -1 +2
  -1 +1 -1 +1 -3 +2 -1 +1 -1 +2 -1 +3 -2 +4 -1 +2 -1 +3 -3 +2 -1 +2 -1 +1 -1 +1 -1 +2 -1 +1 -2 +1
  -1 +2 -1 +3 -1 +1 -1 +2 -3 +1 -7 +2 -1 +2 -1 +2 -1 +1 -1 +1 -1 +1 -1 +1 -1 +1 -1 +1 -1 +1 -1 +1
  -2 +1 -1 +1 -1 +1 -1 +1 -1 +1 -1 +1 -1 +1 -1 +1 -1 +1 -2 +2 -1 +1 -1 +3 -1 +1 -1 +1 -1 +1 -1 +1
  -1 +1 -1 +1 -1 +1 -1 +1 -1 +1 -1 +1 -1 +1 -1 +1 -1 +1 -1 +1 -1 +1 -1 +1 -1 +1 -1 +1 -1 +1 -1 +1
  -1 +1 -1 +1 -1 +1 -1 +1 -1 +1 -1 +1 -1 +1 -1 +1 -1 +1 -7 +2 -1 +2 -2 +1 -1 +4 -1 +1 -1 +1 -1 +1
  -1 +1 -289 +1 -1 +1 -3 +1 -8 +1 -6 +1 -1 +3 -1 +1 -1 +2 -1 +17 -1 +9 -35 +1 -8 +1 -1 +1 -1 +1 -1
  +1 -1 +1 -1 +1 -1 +1 -1 +1 -1 +1 -1 +1 -1 +1 -1 +1 -5 +1 -2 +1 -1 +2 -2 +51 -48 +1 -1 +1 -1 +1 -1
  +1 -1 +1 -1 +1 -1 +1 -1 +1 -1 +1 -1 +1 -1 +1 -1 +1 -1 +1 -1 +1 -1 +1 -1 +1 -1 +1 -9 +1 -1 +1 -1
  +1 -1 +1 -1 +1 -1 +1 -1 +1 -1 +1 -1 +1 -1 +1 -1 +1 -1 +1 -1 +1 -1 +1 -1 +1 -1 +1 -1 +1 -1 +1 -1
  +1 -1 +1 -1 +1 -1 +1 -1 +1 -1 +1 -1 +1 -1 +1 -1 +1 -1 +2 -1 +1 -1 +1 -1 +1 -1 +1 -1 +1 -1 +1 -2
  +1 -1 +1 -1 +1 -1 +1 -1 +1 -1 +1 -1 +1 -1 +1 -1 +1 -1 +1 -1 +1 -1 +1 -1 +1 -1 +1 -1 +1 -1 +1 -1
  +1 -1 +1 -1 +1 -1 +1 -1 +1 -1 +1 -1 +1 -1 +1 -1 +1 -1 +1 -1 +1 -1 +1 -1 +1 -1 +1 -1 +1 -1 +1 -1
  +1 -1 +1 -1 +1 -1 +1 -1 +1 -1 +1 -1 +1 -1 +1 -1 +1 -1 +1 -1 +1 -1 +1 -1 +1 -1 +1 -1 +1 -1 +1 -2
  +38 -2889 +38 -1 +1 -5 +1 -722 +86 -2195 +1 -6 +43 -2 +3 -320 +1 -1 +1 -1 +1 -1 +1 -1 +1 -1 +1 -1
  +1 -1 +1 -1 +1 -1 +1 -1 +1 -1 +1 -1 +1 -1 +1 -1 +1 -1 +1 -1 +1 -1 +1 -1 +1 -1 +1 -1 +1 -1 +1 -1
  +1 -1 +1 -1 +1 -1 +1 -1 +1 -1 +1 -1 +1 -1 +1 -1 +1 -1 +1 -1 +1 -1 +1 -1 +1 -1 +1 -1 +1 -1 +1 -1
  +1 -1 +1 -1 +1 -1 +1 -1 +1 -1 +1 -1 +1 -1 +1 -1 +1 -1 +1 -1 +1 -1 +1 -1 +1 -1 +1 -1 +1 -1 +1 -1
  +1 -1 +1 -1 +1 -1 +1 -1 +1 -1 +1 -1 +1 -1 +1 -1 +1 -1 +1 -1 +1 -1 +1 -1 +1 -1 +1 -1 +1 -1 +1 -1
  +1 -1 +1 -1 +1 -1 +1 -1 +1 -9 +1 -1 +1 -1 +1 -1 +1 -1 +1 -1 +1 -1 +1 -1 +1 -1 +1 -1 +1 -1 +1 -1
  +1 -1 +1 -1 +1 -1 +1 -1 +1 -1 +1 -1 +1 -1 +1 -1 +1 -1 +1 -1 +1 -1 +1 -1 +1 -1 +1 -1 +1 -1 +1 -1
  +1 -1 +1 -1 +1 -1 +1 -1 +1 -1 +1 -1 +1 -1 +1 -1 +1 -1 +1 -1 +1 -1 +1 -1 +1 -1 +1 -1 +1 -1 +1 -1
  +1 -1 +1 -1 +1 -1 +1 -1 +1 -1 +1 -9 +8 -8 +6 -10 +8 -8 +8 -8 +6 -11 +1 -1 +1 -1 +1 -1 +1 -8 +8
  -24 +8 -8 +8 -8 +8 -8 +5 -11 +5 -11 +4 -12 +5 -11 +5 -297 +1 -3 +2 -6 +1 -45 +16 -19 +1 -818 +26
  -1840 +48 -48 +1 -1 +3 -2 +1 -1 +1 -1 +1 -1 +4 -1 +1 -2 +1 -8 +3 -1 +1 -1 +1 -1 +1 -1 +1 -1 +1 -1
  +1 -1 +1 -1 +1 -1 +1 -1 +1 -1 +1 -1 +1 -1 +1 -1 +1 -1 +1 -1 +1 -1 +1 -1 +1 -1 +1 -1 +1 -1 +1 -1
  +1 -1 +1 -1 +1 -1 +1 -1 +1 -1 +1 -1 +1 -1 +1 -1 +1 -1 +1 -1 +1 -1 +1 -1 +1 -1 +1 -1 +1 -1 +1 -1
  +1 -1 +1 -1 +1 -1 +1 -1 +1 -1 +1 -1 +1 -1 +1 -1 +1 -1 +1 -1 +1 -1 +1 -8 +1 -1 +1 -4 +1 -31053 +1
  -1 +1 -1 +1 -1 +1 -1 +1 -1 +1 -1 +1 -1 +1 -1 +1 -1 +1 -1 +1 -1 +1 -1 +1 -1 +1 -1 +1 -1 +1 -1 +1
  -1 +1 -1 +1 -1 +1 -1 +1 -1 +1 -1 +1 -19 +1 -1 +1 -1 +1 -1 +1 -1 +1 -1 +1 -1 +1 -1 +1 -1 +1 -1 +1
  -1 +1 -1 +1 -1 +1 -1 +1 -135 +1 -1 +1 -1 +1 -1 +1 -1 +1 -1 +1 -1 +1 -3 +1 -1 +1 -1 +1 -1 +1 -1 +1
  -1 +1 -1 +1 -1 +1 -1 +1 -1 +1 -1 +1 -1 +1 -1 +1 -1 +1 -1 +1 -1 +1 -1 +1 -1 +1 -1 +1 -1 +1 -1 +1
  -1 +1 -1 +1 -1 +1 -1 +1 -1 +1 -1 +1 -1 +1 -1 +1 -1 +1 -1 +1 -10 +1 -1 +1 -1 +2 -1 +1 -1 +1 -1 +1
  -1 +1 -4 +1 -1 +1 -2 +1 -1 +1 -3 +1 -1 +1 -1 +1 -1 +1 -1 +1 -1 +1 -1 +1 -1 +1 -1 +1 -1 +1 -1 +5
  -1 +5 -1 +1 -1 +1 -1 +1 -1 +1 -1 +1 -1 +1 -1 +1 -1 +4 -1 +1 -1 +2 -3 +1 -5 +1 -1 +1 -1 +1 -1 +1
  -24 +1 -22315 +26 -1221 +40 -136 +36 -156 +11 -1 +15 -1 +7 -1 +2 -1770 +51 -157 +22 -2874 +32
  -21888 +32 -31392 +34 -988894"

/-- The characters with the property `Changes_When_Uppercased`. -/
def changesWhenUppercased : CharSet := CharSet.ofMarks "
  -97 +26 -58 +1 -41 +24 -1 +8 -1 +1 -1 +1 -1 +1 -1 +1 -1 +1 -1 +1 -1 +1 -1 +1 -1 +1 -1 +1 -1 +1 -1
  +1 -1 +1 -1 +1 -1 +1 -1 +1 -1 +1 -1 +1 -1 +1 -1 +1 -1 +1 -1 +1 -1 +1 -1 +1 -1 +1 -1 +1 -1 +1 -1
  +1 -2 +1 -1 +1 -1 +1 -1 +1 -1 +1 -1 +1 -1 +1 -1 +2 -1 +1 -1 +1 -1 +1 -1 +1 -1 +1 -1 +1 -1 +1 -1
  +1 -1 +1 -1 +1 -1 +1 -1 +1 -1 +1 -1 +1 -1 +1 -1 +1 -1 +1 -1 +1 -1 +1 -1 +1 -1 +1 -1 +1 -1 +1 -2
  +1 -1 +1 -1 +3 -2 +1 -1 +1 -2 +1 -3 +1 -5 +1 -2 +1 -3 +3 -2 +1 -2 +1 -1 +1 -1 +1 -2 +1 -4 +1 -2
  +1 -3 +1 -1 +1 -2 +1 -3 +1 -1 +1 -5 +2 -1 +2 -1 +2 -1 +1 -1 +1 -1 +1 -1 +1 -1 +1 -1 +1 -1 +1 -1
  +2 -1 +1 -1 +1 -1 +1 -1 +1 -1 +1 -1 +1 -1 +1 -1 +1 -1 +2 -1 +2 -1 +1 -3 +1 -1 +1 -1 +1 -1 +1 -1
  +1 -1 +1 -1 +1 -1 +1 -1 +1 -1 +1 -1 +1 -1 +1 -1 +1 -1 +1 -1 +1 -1 +1 -1 +1 -1 +1 -1 +1 -1 +1 -3
  +1 -1 +1 -1 +1 -1 +1 -1 +1 -1 +1 -1 +1 -1 +1 -1 +1 -8 +1 -2 +2 -1 +1 -4 +1 -1 +1 -1 +1 -1 +1 -1
  +6 -1 +2 -1 +1 -1 +2 -3 +2 -1 +4 -1 +5 -2 +1 -1 +2 -2 +1 -7 +1 -2 +1 -1 +2 -3 +6 -5 +1 -10 +2
  -166 +1 -43 +1 -1 +1 -3 +1 -3 +3 -18 +1 -27 +35 -1 +2 -3 +3 -1 +1 -1 +1 -1 +1 -1 +1 -1 +1 -1 +1
  -1 +1 -1 +1 -1 +1 -1 +1 -1 +1 -1 +5 -1 +1 -2 +1 -2 +1 -52 +48 -1 +1 -1 +1 -1 +1 -1 +1 -1 +1 -1 +1
  -1 +1 -1 +1 -1 +1 -1 +1 -1 +1 -1 +1 -1 +1 -1 +1 -1 +1 -1 +1 -1 +1 -9 +1 -1 +1 -1 +1 -1 +1 -1 +1
  -1 +1 -1 +1 -1 +1 -1 +1 -1 +1 -1 +1 -1 +1 -1 +1 -1 +1 -1 +1 -1 +1 -1 +1 -1 +1 -1 +1 -1 +1 -1 +1
  -1 +1 -1 +1 -1 +1 -1 +1 -1 +1 -1 +1 -2 +1 -1 +1 -1 +1 -1 +1 -1 +1 -1 +1 -1 +2 -1 +1 -1 +1 -1 +1
  -1 +1 -1 +1 -1 +1 -1 +1 -1 +1 -1 +1 -1 +1 -1 +1 -1 +1 -1 +1 -1 +1 -1 +1 -1 +1 -1 +1 -1 +1 -1 +1
  -1 +1 -1 +1 -1 +1 -1 +1 -1 +1 -1 +1 -1 +1 -1 +1 -1 +1 -1 +1 -1 +1 -1 +1 -1 +1 -1 +1 -1 +1 -1 +1
  -1 +1 -1 +1 -1 +1 -1 +1 -1 +1 -1 +1 -1 +1 -1 +1 -1 +1 -1 +1 -1 +1 -1 +1 -1 +1 -49 +39 -2888 +43
  -2 +3 -760 +6 -2178 +9 -1 +1 -238 +1 -3 +1 -16 +1 -114 +1 -1 +1 -1 +1 -1 +1 -1 +1 -1 +1 -1 +1 -1
  +1 -1 +1 -1 +1 -1 +1 -1 +1 -1 +1 -1 +1 -1 +1 -1 +1 -1 +1 -1 +1 -1 +1 -1 +1 -1 +1 -1 +1 -1 +1 -1
  +1 -1 +1 -1 +1 -1 +1 -1 +1 -1 +1 -1 +1 -1 +1 -1 +1 -1 +1 -1 +1 -1 +1 -1 +1 -1 +1 -1 +1 -1 +1 -1
  +1 -1 +1 -1 +1 -1 +1 -1 +1 -1 +1 -1 +1 -1 +1 -1 +1 -1 +1 -1 +1 -1 +1 -1 +1 -1 +1 -1 +1 -1 +1 -1
  +1 -1 +1 -1 +1 -1 +1 -1 +1 -1 +1 -1 +1 -1 +1 -1 +1 -1 +1 -1 +1 -1 +1 -1 +1 -1 +1 -1 +1 -1 +1 -1
  +1 -1 +1 -1 +1 -1 +7 -5 +1 -1 +1 -1 +1 -1 +1 -1 +1 -1 +1 -1 +1 -1 +1 -1 +1 -1 +1 -1 +1 -1 +1 -1
  +1 -1 +1 -1 +1 -1 +1 -1 +1 -1 +1 -1 +1 -1 +1 -1 +1 -1 +1 -1 +1 -1 +1 -1 +1 -1 +1 -1 +1 -1 +1 -1
  +1 -1 +1 -1 +1 -1 +1 -1 +1 -1 +1 -1 +1 -1 +1 -1 +1 -1 +1 -1 +1 -1 +1 -1 +1 -1 +1 -1 +1 -1 +1 -1
  +1 -1 +1 -1 +1 -1 +9 -8 +6 -10 +8 -8 +8 -8 +6 -10 +8 -8 +8 -8 +14 -2 +53 -1 +2 -4 +1 -1 +1 -3 +3
  -1 +2 -4 +1 -3 +4 -2 +2 -8 +8 -10 +3 -1 +2 -4 +1 -337 +1 -33 +16 -4 +1 -843 +26 -1862 +48 -1 +1
  -3 +2 -1 +1 -1 +1 -1 +1 -6 +1 -2 +1 -10 +1 -1 +1 -1 +1 -1 +1 -1 +1 -1 +1 -1 +1 -1 +1 -1 +1 -1 +1
  -1 +1 -1 +1 -1 +1 -1 +1 -1 +1 -1 +1 -1 +1 -1 +1 -1 +1 -1 +1 -1 +1 -1 +1 -1 +1 -1 +1 -1 +1 -1 +1
  -1 +1 -1 +1 -1 +1 -1 +1 -1 +1 -1 +1 -1 +1 -1 +1 -1 +1 -1 +1 -1 +1 -1 +1 -1 +1 -1 +1 -1 +1 -1 +1
  -1 +1 -1 +1 -1 +1 -1 +1 -1 +1 -1 +1 -1 +1 -1 +1 -8 +1 -1 +1 -4 +1 -12 +38 -1 +1 -5 +1 -30995 +1
  -1 +1 -1 +1 -1 +1 -1 +1 -1 +1 -1 +1 -1 +1 -1 +1 -1 +1 -1 +1 -1 +1 -1 +1 -1 +1 -1 +1 -1 +1 -1 +1
  -1 +1 -1 +1 -1 +1 -1 +1 -1 +1 -1 +1 -19 +1 -1 +1 -1 +1 -1 +1 -1 +1 -1 +1 -1 +1 -1 +1 -1 +1 -1 +1
  -1 +1 -1 +1 -1 +1 -1 +1 -135 +1 -1 +1 -1 +1 -1 +1 -1 +1 -1 +1 -1 +1 -3 +1 -1 +1 -1 +1 -1 +1 -1 +1
  -1 +1 -1 +1 -1 +1 -1 +1 -1 +1 -1 +1 -1 +1 -1 +1 -1 +1 -1 +1 -1 +1 -1 +1 -1 +1 -1 +1 -1 +1 -1 +1
  -1 +1 -1 +1 -1 +1 -1 +1 -1 +1 -1 +1 -1 +1 -1 +1 -1 +1 -1 +1 -10 +1 -1 +1 -2 +1 -1 +1 -1 +1 -1 +1
  -1 +1 -4 +1 -4 +1 -1 +2 -2 +1 -1 +1 -1 +1 -1 +1 -1 +1 -1 +1 -1 +1 -1 +1 -1 +1 -1 +1 -11 +1 -1 +1
  -1 +1 -1 +1 -1 +1 -1 +1 -1 +1 -1 +1 -4 +1 -1 +1 -2 +1 -3 +1 -5 +1 -1 +1 -1 +1 -26 +1 -860 +1 -28
  +80 -20288 +7 -12 +5 -1065 +26 -1229 +40 -136 +36 -155 +11 -1 +15 -1 +7 -1 +2 -1795 +51 -125 +22
  -2874 +32 -21888 +32 -31394 +34 -988860"

/-- The letters in titlecase and the Georgian ones, which change in uppercase, not in titlecase. -/
def uppercaseOnly : CharSet := CharSet.ofMarks "
  -453 +1 -2 +1 -2 +1 -38 +1 -3805 +43 -2 +3 -3720 +8 -8 +8 -8 +8 -12 +1 -15 +1 -47 +1 -1105923"

/-- The digraphs in uppercase, which change in titlecase, not in uppercase. -/
def titlecaseOnly : CharSet := CharSet.ofMarks "
  -452 +1 -2 +1 -2 +1 -38 +1 -1113614"

/-- The characters with the property `Changes_When_Titlecased`. -/
def changesWhenTitlecased : CharSet :=
  (changesWhenUppercased.diff uppercaseOnly).union titlecaseOnly

/-- The characters with the property `Changes_When_Casemapped`. -/
def changesWhenCasemapped : CharSet :=
  CharSet.unions [changesWhenLowercased, changesWhenUppercased, changesWhenTitlecased]

/-- The uppercase Cherokee letters, which change in lowercase, not when case is forgotten. -/
def lowercaseOnly : CharSet := CharSet.ofMarks "
  -5024 +86 -1109002"

/-- The letters that change when case is forgotten, not in lowercase; most of them are lowercase. -/
def foldOnly : CharSet := CharSet.ofMarks "
  -181 +1 -41 +1 -105 +1 -53 +1 -453 +1 -124 +1 -13 +2 -3 +2 -25 +2 -3 +1 -401 +1 -3696 +6 -2178 +9
  -529 +2 -228 +8 -8 +8 -8 +8 -10 +3 -2 +1 -10 +3 -2 +1 -42 +3 -2 +1 -35704 +80 -20288 +7 -12 +5
  -1049832"

/-- The characters with the property `Changes_When_Casefolded`. -/
def changesWhenCasefolded : CharSet := (changesWhenLowercased.diff lowercaseOnly).union foldOnly

end Unicode
end DexQuery
