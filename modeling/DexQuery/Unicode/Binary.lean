import DexQuery.CharSet.Basic

/-!
# Basic binary properties

The Unicode properties that a character has or has not and that follow from no others, each as runs
of code points over the whole code space: a run marked `+` has the property and a run marked `-`
has not.
-/

namespace DexQuery
namespace Unicode

/-- The characters with the property `ASCII_Hex_Digit`. -/
def asciiHexDigit : CharSet := CharSet.ofMarks "
  -48 +10 -7 +6 -26 +6 -1114009"

/-- The characters with the property `Bidi_Control`. -/
def bidiControl : CharSet := CharSet.ofMarks "
  -1564 +1 -6641 +2 -26 +5 -55 +4 -1105814"

/-- The characters with the property `Bidi_Mirrored`. -/
def bidiMirrored : CharSet := CharSet.ofMarks "
  -40 +2 -18 +1 -1 +1 -28 +1 -1 +1 -29 +1 -1 +1 -45 +1 -15 +1 -3710 +4 -1885 +2 -2460 +2 -10 +2 -54
  +2 -14 +2 -177 +1 -192 +4 -3 +6 -3 +1 -3 +2 -3 +4 -1 +4 -1 +1 -1 +1 -4 +9 -5 +1 -1 +18 -5 +4 -9
  +2 -1 +1 -1 +8 -1 +32 -2 +4 -5 +1 -9 +2 -2 +19 -5 +2 -9 +5 -2 +2 -4 +24 -2 +16 -8 +4 -20 +2 -7 +2
  -1085 +14 -74 +1 -2 +4 -1 +2 -1 +3 -5 +4 -5 +3 -3 +14 -403 +22 -2 +6 -1 +14 -8 +1 -7 +6 -3 +1 -4
  +5 -1 +2 -2 +5 -4 +1 -1 +3 -2 +2 -10 +6 -2 +2 -12 +19 -1 +4 -2 +1 -1 +1 -2 +1 -1 +4 -5 +2 -6 +3
  -24 +2 -11 +2 -4 +4 -1 +2 -2 +2 -4 +43 -2 +8 -1 +40 -5 +1 -1 +1 -3 +5 -5 +3 -4 +1 -3 +5 -1 +1
  -256 +1 -515 +4 -3 +2 -1 +2 -14 +2 -2 +10 -43 +8 -427 +10 -2 +8 -52797 +6 -5 +2 -162 +2 -18 +1 -1
  +1 -28 +1 -1 +1 -29 +1 -1 +1 -1 +2 -1 +2 -55159 +1 -57 +1 -57 +1 -57 +1 -57 +1 -993340"

/-- The characters with the property `Dash`. -/
def dash : CharSet := CharSet.ofMarks "
  -45 +1 -1372 +1 -51 +1 -3649 +1 -1029 +1 -2057 +6 -61 +1 -39 +1 -15 +1 -390 +1 -3076 +1 -2 +1 -31
  +2 -4 +1 -28 +1 -446 +1 -19 +1 -111 +1 -52624 +2 -37 +1 -10 +1 -169 +1 -3680 +1 -318 +1 -1044818"

/-- The characters with the property `Deprecated`. -/
def deprecated : CharSet := CharSet.ofMarks "
  -329 +1 -1321 +1 -2307 +1 -1 +1 -2089 +2 -2245 +6 -697 +2 -908502 +1 -196606"

/-- The characters with the property `Diacritic`. -/
def diacritic : CharSet := CharSet.ofMarks "
  -94 +1 -1 +1 -71 +1 -6 +1 -4 +1 -2 +2 -503 +159 -1 +8 -5 +6 -17 +2 -4 +1 -9 +2 -253 +5 -209 +1
  -55 +17 -1 +27 -1 +1 -1 +2 -1 +1 -134 +8 -4 +2 -134 +2 -4 +2 -3 +3 -67 +27 -91 +11 -58 +11 -34 +2
  -126 +8 -41 +10 -16 +28 -61 +1 -16 +1 -3 +4 -28 +1 -74 +1 -16 +1 -110 +1 -16 +1 -110 +1 -16 +1
  -47 +3 -60 +1 -16 +1 -7 +1 -119 +1 -110 +1 -16 +1 -110 +1 -16 +1 -109 +2 -16 +1 -124 +1 -111 +1
  -12 +6 -1 +1 -107 +1 -13 +5 -75 +2 -27 +1 -1 +1 -1 +1 -4 +2 -66 +3 -1 +2 -62 +1 -112 +1 -1 +2 -40
  +2 -4 +5 -25 +7 -1 +1 -10 +2 -705 +3 -948 +2 -30 +1 -148 +11 -9 +1 -347 +3 -292 +1 -20 +8 -2 +1
  -48 +15 -2 +11 -104 +1 -15 +1 -38 +9 -54 +2 -58 +1 -11 +2 -66 +2 -64 +6 -82 +25 -4 +1 -6 +1 -2 +3
  -50 +63 -89 +12 -37 +11 -445 +1 -1 +3 -11 +3 -13 +3 -13 +3 -13 +2 -3312 +3 -317 +1 -506 +6 -105
  +4 -95 +1 -30066 +1 -12 +2 -1 +1 -28 +2 -82 +2 -14 +34 -102 +3 -109 +2 -12 +1 -37 +1 -151 +1 -27
  +18 -57 +4 -36 +1 -95 +1 -12 +1 -36 +1 -149 +3 -65 +4 -51 +1 -100 +5 -9 +3 -128 +2 -20272 +1 -769
  +16 -270 +1 -1 +1 -47 +1 -45 +2 -67 +1 -764 +1 -1183 +6 -1 +42 -1 +9 -637 +3 -4 +1 -165 +2 -571
  +6 -38 +1 -26 +5 -399 +3 -70 +11 -49 +4 -192 +1 -41 +1 -72 +2 -120 +2 -62 +1 -76 +1 -9 +3 -104 +2
  -178 +2 -80 +2 -16 +1 -24 +7 -3 +5 -89 +3 -1 +2 -13 +2 -95 +1 -3 +1 -123 +2 -251 +2 -126 +1 -118
  +2 -115 +1 -269 +2 -258 +2 -4 +1 -156 +1 -83 +1 -18 +1 -81 +1 -421 +1 -258 +1 -1 +2 -81 +1 -425
  +2 -23 +1 -5356 +15 -11481 +1 -2496 +5 -59 +7 -564 +2 -546 +17 -80 +2 -16382 +4 -1 +7 -1 +2 -7937
  +46 -2 +23 -544 +3 -3 +6 -8 +8 -2 +7 -30 +4 -3714 +62 -194 +7 -375 +1 -61 +4 -766 +2 -736 +7 -109
  +3 -1 +3 -988853"

/-- The characters with the property `Emoji`. -/
def emoji : CharSet := CharSet.ofMarks "
  -35 +1 -6 +1 -5 +10 -111 +1 -4 +1 -8077 +1 -12 +1 -216 +1 -22 +1 -90 +6 -15 +2 -367 +2 -12 +1
  -166 +1 -25 +11 -4 +3 -199 +1 -231 +2 -10 +1 -9 +1 -58 +4 -1 +5 -9 +1 -2 +1 -2 +2 -2 +1 -4 +1 -2
  +1 -1 +2 -2 +1 -3 +1 -3 +2 -8 +3 -5 +1 -1 +1 -5 +12 -11 +2 -2 +1 -1 +2 -1 +1 -18 +1 -2 +2 -18 +6
  -1 +1 -1 +2 -3 +2 -5 +1 -2 +2 -4 +2 -11 +2 -5 +2 -2 +1 -5 +2 -1 +1 -1 +2 -20 +2 -5 +6 -1 +4 -2 +1
  -4 +1 -2 +1 -2 +6 -1 +1 -2 +1 -1 +1 -1 +1 -6 +1 -3 +1 -6 +1 -10 +2 -15 +1 -2 +1 -4 +1 -1 +1 -4 +3
  -1 +1 -11 +2 -48 +3 -9 +1 -14 +1 -14 +1 -372 +2 -463 +3 -19 +2 -51 +1 -4 +1 -1242 +1 -12 +1 -601
  +1 -1 +1 -114026 +1 -202 +1 -160 +2 -12 +2 -14 +1 -2 +10 -75 +26 -1 +2 -23 +1 -20 +1 -2 +9 -21 +2
  -174 +34 -2 +112 -2 +2 -1 +3 -2 +83 -2 +3 -1 +263 -1 +63 -11 +6 -1 +24 -7 +2 -2 +8 -12 +1 -2 +4
  -2 +1 -4 +2 -13 +2 -2 +1 -8 +2 -9 +1 -5 +3 -12 +3 -8 +3 -2 +1 -1 +1 -4 +1 -6 +1 -3 +1 -6 +86 -48
  +70 -5 +8 -2 +3 -4 +10 -3 +1 -1 +2 -3 +1 -2 +10 -227 +12 -4 +1 -283 +47 -1 +10 -1 +185 -112 +13
  -3 +10 -5 +56 -7 +15 -2 +11 -6 +9 -984327"

/-- The characters with the property `Emoji_Component`. -/
def emojiComponent : CharSet := CharSet.ofMarks "
  -35 +1 -6 +1 -5 +10 -8147 +1 -213 +1 -56619 +1 -62422 +26 -507 +5 -1456 +4 -788076 +96 -196480"

/-- The characters with the property `Emoji_Modifier`. -/
def emojiModifier : CharSet := CharSet.ofMarks "
  -127995 +5 -986112"

/-- The characters with the property `Emoji_Modifier_Base`. -/
def emojiModifierBase : CharSet := CharSet.ofMarks "
  -9757 +1 -219 +1 -16 +4 -117879 +1 -60 +3 -2 +1 -2 +3 -117 +2 -2 +11 -21 +19 -3 +1 -4 +3 -1 +3 -7
  +1 -1 +1 -24 +1 -201 +2 -4 +1 -21 +1 -4 +2 -174 +3 -3 +5 -83 +1 -16 +3 -9 +1 -11 +1 -575 +1 -2 +1
  -8 +8 -6 +1 -9 +10 -2 +3 -56 +1 -61 +2 -1 +2 -1 +1 -17 +3 -1 +13 -229 +3 -42 +9 -984327"

/-- The characters with the property `Emoji_Presentation`. -/
def emojiPresentation : CharSet := CharSet.ofMarks "
  -8986 +2 -205 +4 -3 +1 -2 +1 -521 +2 -21 +2 -50 +12 -43 +1 -19 +1 -13 +1 -8 +2 -17 +2 -5 +2 -8 +1
  -5 +1 -21 +1 -7 +2 -1 +1 -4 +1 -2 +1 -7 +1 -4 +2 -28 +1 -35 +1 -1 +1 -4 +3 -1 +1 -61 +3 -24 +1
  -14 +1 -859 +2 -51 +1 -4 +1 -115886 +1 -202 +1 -190 +1 -2 +10 -75 +26 -1 +1 -24 +1 -20 +1 -2 +5
  -1 +3 -21 +2 -174 +33 -12 +9 -1 +70 -1 +22 -12 +43 -4 +5 -12 +17 -3 +1 -3 +71 -1 +1 -1 +187 -2
  +63 -13 +4 -1 +24 -18 +1 -26 +2 -13 +1 -86 +85 -48 +70 -6 +1 -3 +3 -2 +3 -4 +4 -11 +2 -7 +9 -227
  +12 -4 +1 -283 +47 -1 +10 -1 +185 -112 +13 -3 +10 -5 +56 -7 +15 -2 +11 -6 +9 -984327"

/-- The characters with the property `Extended_Pictographic`. -/
def extendedPictographic : CharSet := CharSet.ofMarks "
  -169 +1 -4 +1 -8077 +1 -12 +1 -216 +1 -22 +1 -90 +6 -15 +2 -367 +2 -12 +1 -95 +1 -70 +1 -25 +11
  -4 +3 -199 +1 -231 +2 -10 +1 -9 +1 -58 +4 -1 +6 -1 +12 -1 +114 -10 +118 -2 +11 -1 +1 -1 +1 -6 +1
  -3 +1 -6 +1 -10 +2 -15 +1 -2 +1 -4 +1 -1 +1 -4 +3 -1 +1 -11 +5 -45 +3 -9 +1 -14 +1 -14 +1 -372 +2
  -463 +3 -19 +2 -51 +1 -4 +1 -1242 +1 -12 +1 -601 +1 -1 +1 -114022 +256 -13 +3 -31 +1 -60 +6 -12
  +2 -14 +1 -2 +10 -18 +57 -27 +15 -10 +1 -20 +1 -2 +9 -1 +4 -9 +434 -5 +318 -8 +266 -48 +128 -116
  +12 -85 +43 -12 +4 -56 +8 -10 +6 -40 +8 -30 +82 -12 +47 -1 +10 -1 +441 -256 +1022 -983042"

/-- The characters with the property `Extender`. -/
def extender : CharSet := CharSet.ofMarks "
  -183 +1 -536 +2 -878 +1 -441 +1 -630 +1 -137 +1 -89 +1 -752 +1 -127 +1 -2371 +1 -56 +1 -611 +1
  -398 +1 -68 +1 -5001 +1 -43 +5 -103 +2 -93 +3 -28438 +1 -1526 +1 -962 +1 -22 +1 -137 +1 -108 +1
  -21 +2 -21627 +1 -2064 +2 -1483 +1 -27 +1 -4 +1 -1223 +1 -293 +1 -116 +2 -498 +3 -1231 +1 -20649
  +2 -1180 +2 -1 +1 -29016 +2 -1201 +1 -852 +3 -988857"

/-- The characters with the property `Grapheme_Link`. -/
def graphemeLink : CharSet := CharSet.ofMarks "
  -2381 +1 -127 +1 -127 +1 -127 +1 -127 +1 -127 +1 -127 +1 -127 +1 -109 +2 -16 +1 -124 +1 -111 +1
  -127 +1 -201 +1 -180 +2 -1753 +2 -30 +1 -157 +1 -653 +1 -227 +1 -101 +2 -70 +2 -4491 +1 -31366 +1
  -37 +1 -151 +1 -142 +1 -108 +1 -309 +1 -246 +1 -24145 +1 -1542 +1 -41 +1 -14 +1 -57 +1 -121 +2
  -139 +1 -116 +1 -180 +1 -98 +1 -128 +3 -113 +1 -127 +1 -252 +1 -127 +1 -118 +1 -116 +1 -269 +1
  -259 +2 -161 +1 -83 +1 -18 +1 -81 +1 -421 +1 -260 +2 -81 +1 -425 +2 -16876 +1 -1023696"

/-- The characters with the property `Hex_Digit`. -/
def hexDigit : CharSet := CharSet.ofMarks "
  -48 +10 -7 +6 -26 +6 -65193 +10 -7 +6 -26 +6 -1048761"

/-- The characters with the property `Hyphen`. -/
def hyphen : CharSet := CharSet.ofMarks "
  -45 +1 -127 +1 -1244 +1 -4731 +1 -2057 +2 -3589 +1 -739 +1 -52583 +1 -169 +1 -87 +1 -1048730"

/-- The characters with the property `IDS_Binary_Operator`. -/
def idsBinaryOperator : CharSet := CharSet.ofMarks "
  -12272 +2 -2 +10 -497 +1 -1101328"

/-- The characters with the property `IDS_Trinary_Operator`. -/
def idsTrinaryOperator : CharSet := CharSet.ofMarks "
  -12274 +2 -1101836"

/-- The characters with the property `IDS_Unary_Operator`. -/
def idsUnaryOperator : CharSet := CharSet.ofMarks "
  -12286 +2 -1101824"

/-- The characters with the property `ID_Compat_Math_Continue`. -/
def idCompatMathContinue : CharSet := CharSet.ofMarks "
  -178 +2 -5 +1 -8118 +1 -3 +11 -1 +15 -371 +1 -4 +1 -22 +1 -111778 +1 -25 +1 -31 +1 -25 +1 -31 +1
  -25 +1 -31 +1 -25 +1 -31 +1 -25 +1 -993340"

/-- The characters with the property `ID_Compat_Math_Start`. -/
def idCompatMathStart : CharSet := CharSet.ofMarks "
  -8706 +1 -4 +1 -22 +1 -111778 +1 -25 +1 -31 +1 -25 +1 -31 +1 -25 +1 -31 +1 -25 +1 -31 +1 -25 +1
  -993340"

/-- The characters with the property `Ideographic`. -/
def ideographic : CharSet := CharSet.ofMarks "
  -12294 +2 -25 +9 -14 +3 -965 +6592 -64 +20992 -22784 +366 -2 +106 -29962 +1 -27 +6136 -8 +1238
  -41 +10 -9319 +396 -19716 +42720 -32 +4154 -6 +222 -2 +5762 -14 +7473 -15 +622 -2466 +542 -1506
  +4939 -5 +4192 -908368"

/-- The characters with the property `Join_Control`. -/
def joinControl : CharSet := CharSet.ofMarks "
  -8204 +2 -1105906"

/-- The characters with the property `Logical_Order_Exception`. -/
def logicalOrderException : CharSet := CharSet.ofMarks "
  -3648 +5 -123 +5 -2800 +3 -2 +1 -37114 +2 -2 +1 -1 +2 -1070403"

/-- The characters with the property `Modifier_Combining_Mark`. -/
def modifierCombiningMark : CharSet := CharSet.ofMarks "
  -1620 +2 -2 +1 -131 +1 -6 +1 -3 +2 -481 +2 -1 +3 -3 +1 -31 +1 -1111820"

/-- The characters with the property `Noncharacter_Code_Point`. -/
def noncharacterCodePoint : CharSet := CharSet.ofMarks "
  -64976 +32 -526 +2 -65534 +2 -65534 +2 -65534 +2 -65534 +2 -65534 +2 -65534 +2 -65534 +2 -65534
  +2 -65534 +2 -65534 +2 -65534 +2 -65534 +2 -65534 +2 -65534 +2 -65534 +2 -65534 +2"

/-- The characters with the property `Other_Alphabetic`. -/
def otherAlphabetic : CharSet := CharSet.ofMarks "
  -837 +1 -29 +13 -576 +14 -1 +1 -1 +2 -1 +2 -1 +1 -72 +11 -48 +13 -1 +7 -16 +1 -101 +7 -4 +4 -2 +2
  -4 +1 -35 +1 -30 +16 -102 +11 -101 +2 -3 +9 -1 +3 -1 +4 -106 +1 -60 +12 -3 +7 -6 +20 -54 +2 -2
  +15 -1 +2 -5 +3 -10 +2 -29 +3 -58 +7 -2 +2 -2 +2 -10 +1 -10 +2 -29 +3 -58 +5 -4 +2 -2 +2 -4 +1
  -30 +2 -3 +1 -11 +3 -58 +8 -1 +3 -1 +2 -21 +2 -22 +3 -4 +3 -58 +7 -2 +2 -2 +2 -9 +2 -10 +2 -30 +1
  -59 +5 -3 +3 -1 +3 -10 +1 -40 +5 -57 +7 -1 +3 -1 +3 -8 +2 -11 +2 -29 +3 -58 +7 -1 +3 -1 +3 -8 +2
  -11 +2 -15 +1 -12 +4 -58 +7 -1 +3 -1 +3 -10 +1 -10 +2 -29 +3 -75 +6 -1 +1 -1 +8 -18 +2 -61 +1 -2
  +7 -18 +1 -99 +1 -2 +6 -1 +2 -16 +1 -163 +19 -9 +11 -1 +36 -110 +12 -1 +1 -2 +4 -23 +4 -4 +3 -1
  +3 -2 +7 -3 +4 -13 +12 -1 +1 -10 +4 -1652 +2 -30 +2 -30 +2 -30 +2 -66 +19 -188 +2 -34 +1 -118 +12
  -4 +9 -222 +5 -57 +10 -2 +20 -74 +2 -11 +3 -49 +5 -48 +15 -60 +3 -30 +9 -2 +2 -57 +11 -50 +19
  -412 +34 -1729 +52 -2294 +32 -30836 +8 -34 +2 -354 +1 -8 +1 -23 +5 -88 +2 -50 +16 -1 +1 -57 +1
  -38 +5 -28 +12 -45 +4 -48 +12 -37 +1 -67 +14 -12 +1 -8 +2 -45 +3 -50 +1 -1 +3 -2 +2 -5 +1 -44 +5
  -5 +1 -237 +8 -20275 +1 -2135 +5 -1670 +3 -1 +2 -5 +4 -788 +4 -65 +1 -321 +2 -79 +1 -259 +3 -53
  +14 -45 +2 -11 +3 -45 +9 -9 +1 -61 +3 -36 +12 -18 +2 -57 +3 -48 +13 -14 +2 -92 +9 -2 +1 -6 +1 -2
  +1 -157 +10 -23 +4 -58 +7 -2 +2 -2 +2 -10 +1 -10 +2 -84 +9 -1 +1 -2 +1 -1 +4 -1 +2 -103 +13 -1 +3
  -106 +18 -237 +7 -2 +7 -29 +2 -82 +15 -1 +1 -106 +11 -103 +14 -257 +13 -247 +6 -1 +2 -2 +2 -3 +1
  -1 +1 -142 +7 -2 +6 -4 +1 -28 +10 -42 +5 -1 +4 -18 +11 -46 +14 -407 +8 -1 +7 -83 +22 -1 +14 -122
  +6 -3 +1 -1 +2 -1 +3 -1 +1 -3 +1 -66 +5 -1 +2 -1 +4 -348 +4 -9 +2 -1 +1 -48 +7 -3 +3 -16861 +17
  -3616 +1 -1 +55 -7 +4 -93 +2 -19628 +1 -9057 +7 -1 +17 -2 +7 -1 +2 -1 +5 -100 +1 -2231 +1 -2024
  +26 -6 +26 -6 +26 -986742"

/-- The characters with the property `Other_Default_Ignorable_Code_Point`. -/
def otherDefaultIgnorableCodePoint : CharSet := CharSet.ofMarks "
  -847 +1 -3599 +2 -1619 +2 -2223 +1 -4350 +1 -52795 +1 -79 +9 -851975 +1 -1 +30 -96 +128 -240
  +3600 -192512"

/-- The characters with the property `Other_Grapheme_Extend`. -/
def otherGraphemeExtend : CharSet := CharSet.ofMarks "
  -2494 +1 -24 +1 -358 +1 -24 +1 -102 +1 -24 +1 -232 +1 -1 +1 -4 +2 -1 +2 -9 +2 -103 +1 -24 +1 -119
  +1 -15 +1 -2357 +1 -30 +1 -1024 +1 -5 +1 -1 +1 -5 +2 -101 +1 -71 +2 -1048 +1 -4129 +2 -31011 +1
  -108 +1 -21981 +2 -4640 +1 -116 +1 -264 +1 -14 +1 -9 +1 -96 +1 -9 +1 -2 +1 -1 +3 -5 +1 -224 +1
  -12 +1 -241 +1 -262 +1 -633 +1 -12 +1 -1539 +1 -20654 +2 -24947 +2 -6 +6 -798381 +96 -196480"

/-- The characters with the property `Other_ID_Continue`. -/
def otherIdContinue : CharSet := CharSet.ofMarks "
  -183 +1 -719 +1 -4065 +9 -1640 +1 -1585 +2 -4333 +1 -52841 +1 -1048730"

/-- The characters with the property `Other_ID_Start`. -/
def otherIdStart : CharSet := CharSet.ofMarks "
  -6277 +2 -2193 +1 -21 +1 -3948 +2 -1101667"

/-- The characters with the property `Other_Lowercase`. -/
def otherLowercase : CharSet := CharSet.ofMarks "
  -170 +1 -15 +1 -501 +9 -7 +2 -30 +5 -96 +1 -52 +1 -3457 +1 -3119 +63 -13 +1 -34 +37 -689 +1 -13
  +1 -16 +13 -211 +16 -848 +26 -1938 +2 -31262 +2 -210 +1 -129 +3 -3 +2 -866 +4 -9 +1 -23574 +1 -2
  +3 -1 +42 -1 +9 -55413 +62 -991122"

/-- The characters with the property `Other_Math`. -/
def otherMath : CharSet := CharSet.ofMarks "
  -94 +1 -881 +3 -2 +1 -26 +2 -2 +2 -7200 +1 -27 +3 -11 +1 -32 +4 -24 +2 -14 +2 -65 +13 -4 +1 -3 +2
  -4 +5 -18 +1 -4 +1 -2 +10 -1 +1 -3 +5 -6 +1 -3 +2 -2 +2 -1 +3 -1 +6 -3 +4 -5 +5 -75 +5 -2 +4 -1
  +2 -1 +2 -1 +1 -1 +5 -2 +2 -4 +2 -4 +18 -2 +2 -1 +1 -1 +7 -1 +1 -6 +2 -290 +4 -168 +2 -1 +1 -24
  +1 -17 +1 -445 +2 -12 +9 -5 +5 -5 +2 -2 +2 -3 +5 -14 +1 -1 +1 -2 +6 -24 +2 -57 +1 -1 +1 -29 +4 -9
  +2 -342 +2 -31 +10 -403 +22 -63 +4 -32 +2 -54371 +1 -1 +1 -4 +1 -211 +1 -1 +1 -54465 +85 -1 +71
  -1 +2 -2 +1 -2 +2 -2 +4 -1 +12 -1 +1 -1 +7 -1 +65 -1 +4 -2 +8 -1 +7 -1 +28 -1 +4 -1 +5 -1 +1 -3
  +7 -1 +340 -2 +25 -1 +25 -1 +31 -1 +25 -1 +31 -1 +25 -1 +31 -1 +25 -1 +31 -1 +25 -1 +8 -2 +50
  -5632 +4 -1 +27 -1 +2 -1 +1 -2 +1 -1 +10 -1 +4 -1 +1 -1 +1 -6 +1 -4 +1 -1 +1 -1 +1 -1 +3 -1 +2 -1
  +1 -2 +1 -1 +1 -1 +1 -1 +1 -1 +1 -1 +2 -1 +1 -2 +4 -1 +7 -1 +4 -1 +4 -1 +1 -1 +10 -1 +17 -5 +3 -1
  +5 -1 +17 -987460"

/-- The characters with the property `Other_Uppercase`. -/
def otherUppercase : CharSet := CharSet.ofMarks "
  -8544 +16 -838 +26 -117856 +26 -6 +26 -6 +26 -986742"

/-- The characters with the property `Pattern_Syntax`. -/
def patternSyntax : CharSet := CharSet.ofMarks "
  -33 +15 -10 +7 -26 +4 -1 +1 -26 +4 -34 +7 -1 +1 -1 +2 -1 +1 -1 +2 -4 +1 -4 +1 -3 +1 -23 +1 -31 +1
  -7960 +24 -8 +15 -2 +19 -1 +10 -305 +720 -160 +630 -30 +1132 -512 +128 -385 +3 -4 +25 -15 +1
  -52493 +2 -261 +2 -1049017"

/-- The characters with the property `Pattern_White_Space`. -/
def patternWhiteSpace : CharSet := CharSet.ofMarks "
  -9 +5 -18 +1 -100 +1 -8072 +2 -24 +2 -1105878"

/-- The characters with the property `Prepended_Concatenation_Mark`. -/
def prependedConcatenationMark : CharSet := CharSet.ofMarks "
  -1536 +6 -215 +1 -49 +1 -384 +2 -80 +1 -67546 +1 -15 +1 -1044274"

/-- The characters with the property `Quotation_Mark`. -/
def quotationMark : CharSet := CharSet.ofMarks "
  -34 +1 -4 +1 -131 +1 -15 +1 -8028 +8 -25 +2 -3591 +1 -457 +4 -13 +3 -52769 +4 -189 +1 -4 +1 -90
  +2 -1048732"

/-- The characters with the property `Radical`. -/
def radical : CharSet := CharSet.ofMarks "
  -11904 +26 -1 +89 -12 +214 -1101866"

/-- The characters with the property `Regional_Indicator`. -/
def regionalIndicator : CharSet := CharSet.ofMarks "
  -127462 +26 -986624"

/-- The characters with the property `Sentence_Terminal`. -/
def sentenceTerminal : CharSet := CharSet.ofMarks "
  -33 +1 -12 +1 -16 +1 -1353 +1 -147 +3 -180 +1 -43 +3 -246 +1 -61 +1 -1 +1 -3 +2 -293 +2 -1764 +2
  -790 +1 -4 +2 -773 +1 -198 +2 -157 +2 -45 +1 -5 +1 -314 +2 -354 +4 -162 +2 -10 +2 -2 +2 -29 +3
  -187 +2 -65 +2 -932 +1 -23 +2 -9 +3 -3247 +3 -306 +1 -13 +1 -22 +2 -429 +1 -29948 +1 -270 +2 -227
  +1 -3 +1 -382 +2 -86 +2 -95 +1 -152 +2 -147 +3 -144 +2 -249 +1 -21030 +1 -2 +2 -59 +1 -3 +2 -169
  +1 -12 +1 -16 +1 -65 +1 -2804 +2 -1277 +5 -44 +4 -189 +2 -117 +4 -127 +3 -129 +2 -6 +1 -16 +2 -88
  +2 -1 +2 -108 +1 -298 +2 -117 +2 -373 +2 -5 +15 -105 +2 -249 +3 -517 +1 -1 +1 -251 +2 -87 +2 -420
  +2 -692 +2 -74 +2 -19241 +2 -133 +1 -65 +2 -11 +1 -553 +2 -296 +1 -19974 +1 -7656 +1 -992631"

/-- The characters with the property `Soft_Dotted`. -/
def softDotted : CharSet := CharSet.ofMarks "
  -105 +2 -196 +1 -281 +1 -30 +1 -52 +1 -20 +1 -320 +1 -98 +1 -1 +1 -6409 +1 -51 +1 -13 +1 -3 +1
  -132 +1 -157 +1 -421 +1 -214 +2 -2866 +1 -108453 +2 -50 +2 -50 +2 -50 +2 -50 +2 -50 +2 -50 +2 -50
  +2 -50 +2 -50 +2 -50 +2 -50 +2 -50 +2 -2182 +1 -305 +2 -26 +1 -991127"

/-- The characters with the property `Terminal_Punctuation`. -/
def terminalPunctuation : CharSet := CharSet.ofMarks "
  -33 +1 -10 +1 -1 +1 -11 +2 -3 +1 -830 +1 -8 +1 -513 +1 -57 +1 -72 +1 -14 +1 -1 +3 -180 +1 -43 +11
  -1 +1 -235 +2 -54 +6 -1 +8 -31 +1 -261 +2 -1268 +2 -172 +1 -4 +6 -311 +2 -789 +8 -773 +1 -124 +3
  -71 +2 -157 +3 -3 +1 -39 +4 -2 +2 -314 +2 -354 +4 -162 +2 -10 +2 -1 +3 -29 +3 -187 +5 -62 +2 -932
  +1 -23 +2 -9 +3 -3247 +3 -306 +1 -13 +1 -4 +1 -10 +1 -1 +2 -3 +2 -428 +2 -29947 +2 -269 +3 -227
  +5 -382 +2 -86 +2 -95 +1 -151 +3 -147 +3 -127 +1 -16 +2 -249 +1 -21030 +1 -2 +2 -57 +3 -1 +4 -169
  +1 -10 +1 -1 +1 -11 +2 -3 +1 -65 +1 -2 +1 -1082 +1 -48 +1 -1158 +1 -199 +1 -310 +2 -152 +6 -68 +6
  -89 +4 -952 +5 -44 +4 -189 +7 -112 +4 -127 +3 -129 +2 -6 +1 -16 +2 -88 +5 -108 +1 -298 +2 -117 +3
  -12 +2 -358 +4 -3 +15 -105 +2 -249 +3 -517 +1 -1 +1 -251 +2 -87 +2 -4 +2 -414 +3 -45 +1 -645 +2
  -74 +2 -1323 +5 -17913 +2 -133 +1 -65 +3 -10 +1 -553 +2 -295 +2 -19974 +1 -7655 +4 -992629"

/-- The characters with the property `Unified_Ideograph`. -/
def unifiedIdeograph : CharSet := CharSet.ofMarks "
  -13312 +6592 -64 +20992 -23054 +2 -1 +1 -1 +2 -10 +1 -1 +1 -1 +2 -2 +3 -67030 +42720 -32 +4154 -6
  +222 -2 +5762 -14 +7473 -15 +622 -4514 +4939 -5 +4192 -908368"

/-- The characters with the property `Variation_Selector`. -/
def variationSelector : CharSet := CharSet.ofMarks "
  -6155 +3 -1 +1 -58864 +16 -852720 +240 -196112"

/-- The characters with the property `White_Space`. -/
def whiteSpace : CharSet := CharSet.ofMarks "
  -9 +5 -18 +1 -100 +1 -26 +1 -5599 +1 -2431 +11 -29 +2 -5 +1 -47 +1 -4000 +1 -1101823"

end Unicode
end DexQuery
