import DexQuery.Unicode.Runs

/-!
# Letters and numbers

Which characters are letters and which are numbers, for names that people choose. A letter is what
the Unicode property `Alphabetic` holds, and a number what has one of the general categories of
numbers. The table is that of Unicode 17.
-/

namespace DexQuery
namespace Unicode

/-- The letters, marked `a`, the numbers that are no letters, marked `n`, and the other code
points, marked `-`, by runs. -/
def letterRuns : Array Run := Run.ofText "
  -48 n10 -7 a26 -6 a26 -47 a1 -7 n2 -1 a1 -3 n1 a1 -1 n3 -1 a23 -1 a31 -1 a458 -4 a12 -14 a5 -7 a1
  -1 a1 -86 a1 -29 a18 -1 a2 -2 a4 -1 a1 -6 a1 -1 a3 -1 a1 -1 a20 -1 a83 -1 a139 -8 a166 -1 a38 -2
  a1 -6 a41 -39 a14 -1 a1 -1 a2 -1 a2 -1 a1 -8 a27 -4 a4 -29 a11 -5 a56 -1 a7 n10 -4 a102 -1 a8 -4
  a8 -4 a3 n10 a3 -2 a1 -16 a48 -13 a101 -14 n10 a33 -9 a2 -4 a1 -5 a24 -2 a19 -19 a25 -7 a11 -5
  a24 -1 a7 -7 a1 -8 a42 -10 a12 -3 a7 -6 a76 -1 a16 -1 a3 -4 a15 -2 n10 -1 a19 -1 a8 -2 a2 -2 a22
  -1 a7 -1 a1 -3 a4 -3 a8 -2 a2 -2 a2 -1 a1 -8 a1 -4 a2 -1 a5 -2 n10 a2 -2 n6 -2 a1 -4 a3 -1 a6 -4
  a2 -2 a22 -1 a7 -1 a2 -1 a2 -1 a2 -4 a5 -4 a2 -2 a2 -4 a1 -7 a4 -1 a1 -7 n10 a6 -11 a3 -1 a9 -1
  a3 -1 a22 -1 a7 -1 a2 -1 a5 -3 a9 -1 a3 -1 a2 -3 a1 -15 a4 -2 n10 -9 a4 -4 a3 -1 a8 -2 a2 -2 a22
  -1 a7 -1 a2 -1 a5 -3 a8 -2 a2 -2 a2 -9 a2 -4 a2 -1 a5 -2 n10 -1 a1 n6 -10 a2 -1 a6 -3 a3 -1 a4 -3
  a2 -1 a1 -1 a2 -3 a2 -3 a3 -3 a12 -4 a5 -3 a3 -1 a3 -3 a1 -6 a1 -14 n13 -13 a13 -1 a3 -1 a23 -1
  a16 -3 a8 -1 a3 -1 a3 -8 a2 -1 a3 -1 a2 -2 a4 -2 n10 -8 n7 -1 a4 -1 a8 -1 a3 -1 a23 -1 a10 -1 a5
  -3 a8 -1 a3 -1 a3 -8 a2 -5 a3 -1 a4 -2 n10 -1 a3 -12 a13 -1 a3 -1 a41 -2 a8 -1 a3 -1 a3 -1 a1 -5
  a4 n7 a5 -2 n19 -1 a6 -1 a3 -1 a18 -3 a24 -1 a9 -1 a1 -2 a7 -8 a6 -1 a1 -1 a8 -6 n10 -2 a2 -13
  a58 -5 a7 -6 a1 -2 n10 -39 a2 -1 a1 -1 a5 -1 a24 -1 a1 -1 a19 -1 a3 -2 a5 -1 a1 -6 a1 -2 n10 -2
  a4 -32 a1 -31 n20 -12 a8 -1 a36 -4 a19 -4 a16 -1 a36 -67 a55 -1 a1 -2 a5 n10 -6 a64 n10 a4 -2 a38
  -1 a1 -5 a1 -2 a43 -1 a333 -1 a4 -2 a7 -1 a1 -1 a4 -2 a41 -1 a4 -2 a33 -1 a4 -2 a7 -1 a1 -1 a4 -2
  a15 -1 a57 -1 a4 -2 a67 -14 n20 -3 a16 -16 a86 -2 a6 -3 a620 -2 a17 -1 a26 -5 a75 -3 a11 -7 a20
  -11 a21 -12 a20 -12 a13 -1 a3 -1 a2 -12 a52 -2 a19 -14 a1 -4 a1 -3 n10 -6 n10 -22 n10 -6 a89 -7
  a43 -5 a70 -10 a31 -1 a12 -4 a9 -13 n10 a30 -2 a5 -11 a44 -4 a26 -6 n11 -37 a28 -4 a63 -2 a20 -11
  n10 -6 n10 -13 a1 -23 a2 -11 a3 -49 a52 -1 a15 -1 a8 -3 n10 -38 a42 -2 a4 n10 a44 -1 a11 -14 a55
  -9 n10 -3 a3 n10 a36 -2 a11 -5 a43 -2 a3 -41 a4 -1 a6 -1 a2 -3 a1 -5 a192 -19 a34 -11 a278 -2 a6
  -2 a38 -2 a6 -2 a8 -1 a1 -1 a1 -1 a1 -1 a31 -2 a53 -1 a7 -1 a1 -3 a3 -1 a7 -3 a4 -2 a6 -4 a13 -5
  a3 -1 a7 -115 n1 a1 -2 n6 -5 a1 n10 -6 a13 -101 a1 -4 a1 -2 a10 -1 a1 -3 a5 -6 a1 -1 a1 -1 a1 -1
  a4 -1 a11 -2 a4 -5 a5 -4 a1 -1 n16 a41 n1 -726 n60 -26 a52 n22 -630 n30 -1132 a229 -6 a4 -3 a2 -9
  n1 -2 a38 -1 a1 -5 a1 -2 a56 -7 a1 -16 a23 -9 a7 -1 a7 -1 a7 -1 a7 -1 a7 -1 a7 -1 a7 -1 a7 -1 a32
  -47 a1 -469 a3 -25 a9 -7 a5 -2 a5 -4 a86 -6 a3 -1 a90 -1 a4 -5 a43 -1 a94 -3 n4 -10 a32 -48 a16
  -32 n10 -30 n8 -1 n15 -32 n10 -39 n15 -320 a6592 -64 a22157 -67 a46 -2 a269 -3 a16 n10 a2 -20 a47
  -5 a8 -3 a113 -39 a9 -2 a103 -2 a82 -20 a21 -1 a33 -8 n6 -10 a52 -12 a68 -1 a1 -10 n10 -24 a6 -3
  a1 -1 a3 n10 a33 -5 a35 -13 a29 -3 a51 -1 a12 -15 a1 n10 -6 a16 n10 a5 -1 a55 -9 a14 -2 n10 -6
  a23 -3 a69 -1 a1 -1 a1 -24 a3 -2 a16 -2 a4 -11 a6 -2 a6 -2 a6 -9 a7 -1 a7 -1 a43 -1 a14 -6 a123
  -5 n10 -6 a11172 -12 a23 -4 a49 -8452 a366 -2 a106 -38 a7 -12 a5 -5 a12 -1 a13 -1 a5 -1 a1 -1 a2
  -1 a2 -1 a108 -33 a363 -18 a64 -2 a54 -40 a12 -116 a5 -1 a135 -19 n10 -7 a26 -6 a26 -11 a89 -3 a6
  -2 a6 -2 a6 -2 a3 -35 a12 -1 a26 -1 a19 -1 a2 -1 a15 -2 a14 -34 a123 -12 n45 -12 a53 n4 -17 n2
  -244 a29 -3 a49 -16 n27 -4 a32 n4 -9 a30 -5 a43 -5 a30 -2 a36 -4 a8 -1 a5 -42 a158 -2 n10 -6 a36
  -4 a36 -4 a40 -8 a52 -12 a11 -1 a15 -1 a7 -1 a2 -1 a11 -1 a15 -1 a7 -1 a2 -3 a52 -12 a311 -9 a22
  -10 a8 -24 a6 -1 a42 -1 a9 -69 a6 -2 a1 -1 a44 -1 a2 -3 a1 -2 a23 -2 n8 a23 -2 n7 a31 -8 n9 -48
  a19 -1 a2 -5 n5 a22 n6 -4 a26 -6 a26 -38 a56 -4 n2 a2 n16 -2 n46 a4 -1 a2 -5 a8 -1 a3 -1 a29 -10
  n9 -23 a29 n2 -1 a29 n3 -32 a8 -1 a28 -6 n5 -16 a54 -10 a22 -2 n8 a19 -5 n8 a18 -23 n7 -80 a73
  -55 a51 -13 a51 -7 n6 a40 -8 n10 -6 n10 a28 -3 a1 -5 a23 -218 n31 -1 a42 -1 a2 -3 a2 -16 a6 -50
  a3 -3 a29 n10 a1 -8 a22 -11 n4 -27 a18 -46 a21 n7 -20 a23 -9 a70 -12 n30 -1 a5 -10 a57 -9 a1 -13
  a25 -7 n10 -6 a51 -3 n10 -4 a4 -8 a35 -3 a1 -9 a64 -1 a4 -9 a2 n10 a1 -1 a1 -4 n20 -11 a18 -1 a34
  -2 a1 -6 a4 -62 a7 -1 a1 -1 a4 -1 a15 -1 a10 -7 a57 -7 n10 -6 a4 -1 a8 -2 a2 -2 a22 -1 a7 -1 a2
  -1 a5 -3 a8 -2 a2 -2 a2 -3 a1 -6 a1 -5 a7 -28 a10 -1 a1 -2 a1 -1 a38 -1 a10 -1 a1 -2 a1 -1 a4 -1
  a2 -3 a1 -1 a1 -44 a66 -1 a3 -1 a4 -5 n10 -5 a3 -30 a66 -2 a2 -1 a1 -8 n10 -166 a54 -2 a7 -25 a6
  -34 a63 -1 a1 -3 a1 -11 n10 -38 a54 -2 a1 -7 n10 -6 n20 -28 a27 -2 a14 -5 n12 -4 a7 -185 a57 -103
  a64 n19 -12 a8 -2 a1 -2 a8 -1 a2 -1 a30 -1 a2 -2 a2 -2 a4 -13 n10 -70 a8 -2 a46 -2 a6 -1 a1 -1 a2
  -27 a51 -2 a10 -17 a72 -5 a1 -18 a73 -103 a8 -88 a33 -15 n10 -6 a9 -1 a45 -1 a7 -1 a1 -15 n29 -5
  a30 -2 a22 -1 a14 -73 a7 -1 a2 -1 a44 -3 a1 -1 a2 -1 a3 -1 a1 -2 a2 -8 n10 -6 a6 -1 a2 -1 a37 -1
  a2 -1 a4 -1 a1 -7 n10 -6 a44 -4 n10 -246 a23 -9 a17 -1 a41 -3 a3 -15 n10 -86 a1 -15 n21 -43 a922
  -102 a111 -17 a196 -2636 a97 -15 a1072 -17 a6 -25 a3995 -5 a583 -6841 a47 -1 n10 -1734 a569 -7
  a31 -1 n10 -6 a79 -1 n10 -6 a30 -18 a48 -16 a4 -12 n10 -1 n7 -1 a21 -5 a19 -432 a45 -3 n10 -198
  a64 n23 -9 a25 -2 a25 -44 a75 -4 a57 -7 a17 -64 a2 -1 a1 -12 a7 -9 a7382 -41 a32 -97 a115 -8701
  a4 -1 a7 -1 a2 -1 a291 -15 a1 -29 a3 -2 a1 -14 a4 -8 a396 -2308 a107 -5 a13 -3 a9 -7 a10 -4 a1
  -4177 n10 -1478 n20 -12 n20 -108 n25 -135 a85 -1 a71 -1 a2 -2 a1 -2 a2 -2 a4 -1 a12 -1 a1 -1 a7
  -1 a65 -1 a4 -2 a8 -1 a7 -1 a28 -1 a4 -1 a5 -1 a1 -3 a7 -1 a340 -2 a25 -1 a25 -1 a31 -1 a25 -1
  a31 -1 a25 -1 a31 -1 a25 -1 a31 -1 a25 -1 a8 -2 n50 -1792 a31 -6 a6 -213 a7 -1 a17 -2 a7 -1 a2 -1
  a5 -5 a62 -33 a1 -112 a45 -10 a7 -2 n10 -4 a1 -321 a30 -18 a44 -4 n10 -470 a28 -4 n10 -214 a30 -2
  a1 n10 -197 a31 -1 a22 -8 a2 -224 a7 -1 a4 -1 a2 -1 a15 -1 a197 -2 n9 -48 a68 -3 a1 -3 a1 -4 n10
  -791 n59 -1 n3 -1 n4 -76 n45 -1 n15 -194 a4 -1 a27 -1 a2 -1 a1 -2 a1 -1 a10 -1 a4 -1 a1 -1 a1 -6
  a1 -4 a1 -1 a1 -1 a1 -1 a3 -1 a2 -1 a1 -2 a1 -1 a1 -1 a1 -1 a1 -1 a1 -1 a2 -1 a1 -2 a4 -1 a7 -1
  a4 -1 a4 -1 a1 -1 a10 -1 a17 -5 a3 -1 a5 -1 a17 -580 n13 -35 a26 -6 a26 -6 a26 -2662 n10 -1030
  a42720 -32 a4382 -2 a5774 -2 a7473 -15 a622 -2466 a542 -1506 a4939 -5 a8490 -904070"

/-- Whether a character is a letter. -/
def isLetter (c : Char) : Bool := Run.labelAt letterRuns c.toNat == "a"

/-- Whether a character is a letter or a number. -/
def isLetterOrNumber (c : Char) : Bool := Run.labelAt letterRuns c.toNat != "-"

end Unicode
end DexQuery
