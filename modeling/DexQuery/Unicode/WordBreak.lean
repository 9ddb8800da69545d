import DexQuery.Unicode.Runs

/-!
# Breaks between words

The Unicode property `Word_Break`, as runs of code points over the whole code
space, and the names of its values. It says where a word ends.
-/

namespace DexQuery
namespace Unicode

/-- The value of `Word_Break` of every code point, by runs; `-` marks those without a
value of their own. -/
def wordBreakRuns : Array Run := Run.ofText "
  -10 LF1 NL2 CR1 -18 WSegSpace1 -1 DQ1 -4 SQ1 -4 MN1 -1 MB1 -1 NU10 ML1 MN1 -5 LE26 -4 EX1 -1 LE26
  -10 NL1 -36 LE1 -2 FO1 -7 LE1 -1 ML1 -2 LE1 -5 LE23 -1 LE31 -1 LE480 -6 LE34 Extend112 LE5 -1 LE2
  -2 LE4 MN1 LE1 -6 LE1 ML1 LE3 -1 LE1 -1 LE20 -1 LE83 -1 LE139 -1 Extend7 LE166 -1 LE38 -2 LE4 -1
  LE1 ML1 LE41 MN1 LE1 -6 Extend45 -1 Extend1 -1 Extend2 -1 Extend2 -1 Extend1 -8 HL27 -4 HL4 LE1
  ML1 -11 NU6 -6 MN2 -2 Extend11 -1 FO1 -3 LE43 Extend21 NU10 -1 NU1 MN1 -1 LE2 Extend1 LE99 -1 LE1
  Extend7 NU1 -1 Extend6 LE2 Extend2 -1 Extend4 LE2 NU10 LE3 -2 LE1 -15 LE2 Extend1 LE30 Extend27
  -2 LE89 Extend11 LE1 -14 NU10 LE33 Extend9 LE2 -2 MN1 -1 LE1 -2 Extend1 -2 LE22 Extend4 LE1
  Extend9 LE1 Extend3 LE1 Extend5 -18 LE25 Extend3 -4 LE11 -5 LE24 -1 LE6 -1 NU2 -5 Extend9 LE42
  Extend24 NU1 Extend33 LE54 Extend3 LE1 Extend18 LE1 Extend7 LE10 Extend2 -2 NU10 -1 LE16 Extend3
  -1 LE8 -2 LE2 -2 LE22 -1 LE7 -1 LE1 -3 LE4 -2 Extend1 LE1 Extend7 -2 Extend2 -2 Extend3 LE1 -8
  Extend1 -4 LE2 -1 LE3 Extend2 -2 NU10 LE2 -10 LE1 -1 Extend1 -2 Extend3 -1 LE6 -4 LE2 -2 LE22 -1
  LE7 -1 LE2 -1 LE2 -1 LE2 -2 Extend1 -1 Extend5 -4 Extend2 -2 Extend3 -3 Extend1 -7 LE4 -1 LE1 -7
  NU10 Extend2 LE3 Extend1 -11 Extend3 -1 LE9 -1 LE3 -1 LE22 -1 LE7 -1 LE2 -1 LE5 -2 Extend1 LE1
  Extend8 -1 Extend3 -1 Extend3 -2 LE1 -15 LE2 Extend2 -2 NU10 -9 LE1 Extend6 -1 Extend3 -1 LE8 -2
  LE2 -2 LE22 -1 LE7 -1 LE2 -1 LE5 -2 Extend1 LE1 Extend7 -2 Extend2 -2 Extend3 -7 Extend3 -4 LE2
  -1 LE3 Extend2 -2 NU10 -1 LE1 -16 Extend1 LE1 -1 LE6 -3 LE3 -1 LE4 -3 LE2 -1 LE1 -1 LE2 -3 LE2 -3
  LE3 -3 LE12 -4 Extend5 -3 Extend3 -1 Extend4 -2 LE1 -6 Extend1 -14 NU10 -16 Extend5 LE8 -1 LE3 -1
  LE23 -1 LE16 -2 Extend1 LE1 Extend7 -1 Extend3 -1 Extend4 -7 Extend2 -1 LE3 -2 LE1 -2 LE2 Extend2
  -2 NU10 -16 LE1 Extend3 -1 LE8 -1 LE3 -1 LE23 -1 LE10 -1 LE5 -2 Extend1 LE1 Extend7 -1 Extend3 -1
  Extend4 -7 Extend2 -6 LE2 -1 LE2 Extend2 -2 NU10 -1 LE2 Extend1 -12 Extend4 LE9 -1 LE3 -1 LE41
  Extend2 LE1 Extend7 -1 Extend3 -1 Extend4 LE1 -5 LE3 Extend1 -7 LE3 Extend2 -2 NU10 -10 LE6 -1
  Extend3 -1 LE18 -3 LE24 -1 LE9 -1 LE1 -2 LE7 -3 Extend1 -4 Extend6 -1 Extend1 -1 Extend8 -6 NU10
  -2 Extend2 -61 Extend1 -2 Extend7 -12 Extend8 -1 NU10 -87 Extend1 -2 Extend9 -11 Extend7 -1 NU10
  -38 LE1 -23 Extend2 -6 NU10 -11 Extend1 -1 Extend1 -1 Extend1 -4 Extend2 LE8 -1 LE36 -4 Extend20
  -1 Extend2 LE5 Extend11 -1 Extend36 -9 Extend1 -100 Extend20 -1 NU10 -12 Extend4 -4 Extend3 -1
  Extend3 -2 Extend7 -3 Extend4 -13 Extend12 -1 Extend1 NU10 Extend4 -2 LE38 -1 LE1 -5 LE1 -2 LE43
  -1 LE333 -1 LE4 -2 LE7 -1 LE1 -1 LE4 -2 LE41 -1 LE4 -2 LE33 -1 LE4 -2 LE7 -1 LE1 -1 LE4 -2 LE15
  -1 LE57 -1 LE4 -2 LE67 -2 Extend3 -32 LE16 -16 LE86 -2 LE6 -3 LE620 -2 LE17 WSegSpace1 LE26 -5
  LE75 -3 LE11 -7 LE18 Extend4 -9 LE19 Extend3 -11 LE18 Extend2 -12 LE13 -1 LE3 -1 Extend2 -64
  Extend32 -9 Extend1 -2 NU10 -33 Extend3 FO1 Extend1 NU10 -6 LE89 -7 LE5 Extend2 LE34 Extend1 LE1
  -5 LE70 -10 LE31 -1 Extend12 -4 Extend12 -10 NU10 -128 NU11 -37 LE23 Extend5 -57 Extend10 -1
  Extend29 -2 Extend1 NU10 -6 NU10 -22 Extend31 -49 Extend5 LE47 Extend17 LE8 -3 NU10 -17 Extend9
  -12 Extend3 LE30 Extend13 LE2 NU10 LE44 Extend14 -12 LE36 Extend20 -8 NU10 -3 LE3 NU10 LE36 -2
  LE11 -5 LE43 -2 LE3 -16 Extend3 -1 Extend21 LE4 Extend1 LE6 Extend1 LE2 Extend3 LE1 -5 LE192
  Extend64 LE278 -2 LE6 -2 LE38 -2 LE6 -2 LE8 -1 LE1 -1 LE1 -1 LE1 -1 LE31 -2 LE53 -1 LE7 -1 LE1 -3
  LE3 -1 LE7 -3 LE4 -2 LE6 -4 LE13 -5 LE3 -1 LE7 -3 WSegSpace7 -1 WSegSpace3 -1 Extend1 ZWJ1 FO2 -8
  MB2 -10 MB1 -2 ML1 NL2 FO5 EX1 -15 EX2 -3 MN1 -15 EX1 -10 WSegSpace1 FO5 -1 FO10 -1 LE1 -13 LE1
  -16 LE13 -51 Extend33 -17 LE1 -4 LE1 -2 LE10 -1 LE1 -3 LE5 -6 LE1 -1 LE1 -1 LE1 -1 LE4 -1 LE11 -2
  LE4 -5 LE5 -4 LE1 -17 LE41 -813 LE52 -1814 LE229 -6 LE4 Extend3 LE2 -12 LE38 -1 LE1 -5 LE1 -2
  LE56 -7 LE1 -15 Extend1 LE23 -9 LE7 -1 LE7 -1 LE7 -1 LE7 -1 LE7 -1 LE7 -1 LE7 -1 LE7 -1 Extend32
  -47 LE1 -464 WSegSpace1 -4 LE1 -36 Extend6 -1 KA5 -5 LE2 -92 Extend2 KA2 -3 KA91 -1 KA4 -5 LE43
  -1 LE94 -17 LE32 -48 KA16 -208 KA47 -1 KA88 -27816 LE1165 -67 LE46 -2 LE269 -3 LE16 NU10 LE2 -20
  LE47 Extend4 -1 Extend10 -1 LE31 Extend2 LE80 Extend2 -22 LE198 -2 LE2 -1 LE1 -1 LE8 -21 LE16
  Extend1 LE3 Extend1 LE4 Extend1 LE23 Extend5 -4 Extend1 -19 LE52 -12 Extend2 LE50 Extend18 -10
  NU10 -6 Extend18 LE6 -3 LE1 -1 LE2 Extend1 NU10 LE28 Extend8 -2 LE23 Extend13 -12 LE29 -3 Extend4
  LE47 Extend14 -14 LE1 NU10 -11 Extend1 -10 NU10 -6 LE41 Extend14 -9 LE3 Extend1 LE8 Extend2 -2
  NU10 -33 Extend3 -50 Extend1 -1 Extend3 -2 Extend2 -5 Extend2 -1 Extend1 -30 LE11 Extend5 -2 LE3
  Extend2 -10 LE6 -2 LE6 -2 LE6 -9 LE7 -1 LE7 -1 LE58 -6 LE115 Extend8 -1 Extend2 -2 NU10 -6
  LE11172 -12 LE23 -4 LE49 -8964 LE7 -12 LE5 -5 HL1 Extend1 HL10 -1 HL13 -1 HL5 -1 HL1 -1 HL2 -1
  HL2 -1 HL10 LE98 -33 LE363 -18 LE64 -2 LE54 -40 LE12 -4 Extend16 -3 ML1 -12 Extend16 -3 EX2 -24
  EX3 MN1 -1 MB1 -1 MN1 ML1 -26 LE5 -1 LE135 -2 FO1 -7 MB1 -4 MN1 -1 MB1 -1 NU10 ML1 MN1 -5 LE26 -4
  EX1 -1 LE26 -11 KA56 Extend2 LE31 -3 LE6 -2 LE6 -2 LE6 -2 LE3 -28 FO3 -4 LE12 -1 LE26 -1 LE19 -1
  LE2 -1 LE15 -2 LE14 -34 LE123 -69 LE53 -136 Extend1 -130 LE29 -3 LE49 -15 Extend1 -31 LE32 -13
  LE30 -5 LE38 Extend5 -5 LE30 -2 LE36 -4 LE8 -1 LE5 -42 LE158 -2 NU10 -6 LE36 -4 LE36 -4 LE40 -8
  LE52 -12 LE11 -1 LE15 -1 LE7 -1 LE2 -1 LE11 -1 LE15 -1 LE7 -1 LE2 -3 LE52 -12 LE311 -9 LE22 -10
  LE8 -24 LE6 -1 LE42 -1 LE9 -69 LE6 -2 LE1 -1 LE44 -1 LE2 -3 LE1 -2 LE23 -10 LE23 -9 LE31 -65 LE19
  -1 LE2 -10 LE22 -10 LE26 -70 LE56 -6 LE2 -64 LE1 Extend3 -1 Extend2 -5 Extend4 LE4 -1 LE3 -1 LE29
  -2 Extend3 -4 Extend1 -32 LE29 -3 LE29 -35 LE8 -1 LE28 Extend2 -25 LE54 -10 LE22 -10 LE19 -13
  LE18 -110 LE73 -55 LE51 -13 LE51 -13 LE36 Extend4 -8 NU10 -6 NU10 LE28 -3 Extend5 -1 LE23 -250
  LE42 -1 Extend2 -3 LE2 -16 LE3 -55 Extend4 LE29 -10 LE1 -8 LE22 Extend11 -31 LE18 Extend4 -42
  LE21 -27 LE23 -9 Extend3 LE53 Extend15 -31 NU10 Extend1 LE2 Extend2 LE1 -9 Extend4 LE45 Extend11
  -2 NU1 -4 Extend1 -10 NU1 -2 LE25 -7 NU10 -6 Extend3 LE36 Extend14 -1 NU10 -4 LE1 Extend2 LE1 -8
  LE35 Extend1 -2 LE1 -9 Extend3 LE48 Extend14 LE4 -4 Extend4 -1 Extend2 NU10 LE1 -1 LE1 -35 LE18
  -1 LE25 Extend12 -6 Extend1 LE2 Extend1 -62 LE7 -1 LE1 -1 LE4 -1 LE15 -1 LE10 -7 LE47 Extend12 -5
  NU10 -6 Extend4 -1 LE8 -2 LE2 -2 LE22 -1 LE7 -1 LE2 -1 LE5 -1 Extend2 LE1 Extend7 -2 Extend2 -2
  Extend3 -2 LE1 -6 Extend1 -5 LE5 Extend2 -2 Extend7 -3 Extend5 -11 LE10 -1 LE1 -2 LE1 -1 LE38 -1
  LE1 Extend9 -1 Extend1 -2 Extend1 -1 Extend4 -1 Extend5 LE1 Extend1 LE1 -13 Extend2 -29 LE53
  Extend18 LE4 -5 NU10 -4 Extend1 LE3 -30 LE48 Extend20 LE2 -1 LE1 -8 NU10 -166 LE47 Extend7 -2
  Extend9 -23 LE4 Extend2 -34 LE48 Extend17 -3 LE1 -11 NU10 -38 LE43 Extend13 LE1 -7 NU10 -6 NU20
  -57 Extend15 -4 NU10 -198 LE44 Extend15 -101 LE64 NU10 -21 LE8 -2 LE1 -2 LE8 -1 LE2 -1 LE24
  Extend6 -1 Extend2 -2 Extend4 LE1 Extend1 LE1 Extend2 -12 NU10 -70 LE8 -2 LE39 Extend7 -2 Extend7
  LE1 -1 LE1 Extend1 -27 LE1 Extend10 LE40 Extend7 LE1 Extend4 -8 Extend1 -8 LE1 Extend11 LE46
  Extend16 -3 LE1 -18 LE73 -199 LE33 -15 NU10 -6 LE9 -1 LE37 Extend8 -1 Extend8 LE1 -15 NU10 -24
  LE30 -2 Extend22 -1 Extend14 -73 LE7 -1 LE2 -1 LE38 Extend6 -3 Extend1 -1 Extend2 -1 Extend7 LE1
  Extend1 -8 NU10 -6 LE6 -1 LE2 -1 LE32 Extend5 -1 Extend2 -1 Extend5 LE1 -7 NU10 -310 LE19 Extend4
  -9 Extend2 LE1 Extend1 LE13 -1 LE34 Extend7 -3 Extend5 -13 NU10 Extend1 -85 LE1 -79 LE922 -102
  LE111 -17 LE196 -2636 LE97 -15 LE1072 FO16 Extend1 LE6 Extend15 -10 LE3995 -5 LE583 -6841 LE30
  Extend18 NU10 -1734 LE569 -7 LE31 -1 NU10 -6 LE79 -1 NU10 -6 LE30 -2 Extend5 -11 LE48 Extend7 -9
  LE4 -12 NU10 -9 LE21 -5 LE19 -432 LE45 -3 NU10 -198 LE64 -128 LE75 -4 Extend1 LE1 Extend55 -7
  Extend4 LE13 -64 LE2 -1 LE1 Extend1 -11 Extend2 -16382 KA4 -1 KA7 -1 KA2 -1 KA1 -287 KA3 -50 KA1
  -14 KA4 -2712 LE107 -5 LE13 -3 LE9 -7 LE10 -3 Extend2 -1 FO4 -4172 NU10 -518 Extend46 -2 Extend23
  -542 Extend5 -3 Extend6 FO8 Extend8 -2 Extend7 -30 Extend4 -148 Extend3 -443 LE85 -1 LE71 -1 LE2
  -2 LE1 -2 LE2 -2 LE4 -1 LE12 -1 LE1 -1 LE7 -1 LE65 -1 LE4 -2 LE8 -1 LE7 -1 LE28 -1 LE4 -1 LE5 -1
  LE1 -3 LE7 -1 LE340 -2 LE25 -1 LE25 -1 LE31 -1 LE25 -1 LE31 -1 LE25 -1 LE31 -1 LE25 -1 LE31 -1
  LE25 -1 LE8 -2 NU50 -512 Extend55 -4 Extend50 -8 Extend1 -14 Extend1 -22 Extend5 -1 Extend15
  -1104 LE31 -6 LE6 -213 Extend7 -1 Extend17 -2 Extend7 -1 Extend2 -1 Extend5 -5 LE62 -33 Extend1
  -112 LE45 -3 Extend7 LE7 -2 NU10 -4 LE1 -321 LE30 Extend1 -17 LE44 Extend4 NU10 -470 LE28 Extend4
  NU10 -214 LE30 Extend2 LE1 NU10 -485 LE7 -1 LE4 -1 LE2 -1 LE15 -1 LE197 -11 Extend7 -41 LE68
  Extend7 LE1 -4 NU10 -1190 LE4 -1 LE27 -1 LE2 -1 LE1 -2 LE1 -1 LE10 -1 LE4 -1 LE1 -1 LE1 -6 LE1 -4
  LE1 -1 LE1 -1 LE1 -1 LE3 -1 LE2 -1 LE1 -2 LE1 -1 LE1 -1 LE1 -1 LE1 -1 LE1 -1 LE2 -1 LE1 -2 LE4 -1
  LE7 -1 LE4 -1 LE4 -1 LE1 -1 LE10 -1 LE17 -5 LE3 -1 LE5 -1 LE17 -628 LE26 -6 LE26 -6 LE26 -92 RI26
  -507 Extend5 -2032 NU10 -787463 FO1 -30 Extend96 -128 Extend240 -196112"

/-- The names of each value, the label of its runs first. -/
def wordBreakNames : List (List String) :=
  [["LE", "ALetter"], ["CR"], ["DQ", "Double_Quote"], ["EX", "ExtendNumLet"], ["Extend"],
    ["FO", "Format"], ["HL", "Hebrew_Letter"], ["KA", "Katakana"], ["LF"], ["MB", "MidNumLet"],
    ["ML", "MidLetter"], ["MN", "MidNum"], ["NL", "Newline"], ["NU", "Numeric"],
    ["RI", "Regional_Indicator"], ["SQ", "Single_Quote"], ["WSegSpace"], ["ZWJ"]]

end Unicode
end DexQuery
