import DexQuery.Unicode.Runs

/-!
# Breaks between clusters

The Unicode property `Grapheme_Cluster_Break`, as runs of code points over the whole code
space, and the names of its values. It says where a character ends, as readers
see it.
-/

namespace DexQuery
namespace Unicode

/-- The value of `Grapheme_Cluster_Break` of every code point, by runs; `-` marks those without a
value of their own. -/
def clusterBreakRuns : Array Run := Run.ofText "
  CN10 LF1 CN2 CR1 CN18 -95 CN33 -13 CN1 -594 EX112 -275 EX7 -263 EX45 -1 EX1 -1 EX2 -1 EX2 -1 EX1
  -56 PP6 -10 EX11 -1 CN1 -46 EX21 -16 EX1 -101 EX7 PP1 -1 EX6 -2 EX2 -1 EX4 -33 PP1 -1 EX1 -30
  EX27 -91 EX11 -58 EX9 -9 EX1 -24 EX4 -1 EX9 -1 EX3 -1 EX5 -43 EX3 -52 PP2 -5 EX9 -42 EX24 PP1
  EX32 SM1 -54 EX1 SM1 EX1 -1 SM3 EX8 SM4 EX1 SM2 -1 EX7 -10 EX2 -29 EX1 SM2 -56 EX1 -1 EX1 SM2 EX4
  -2 SM2 -2 SM2 EX1 -9 EX1 -10 EX2 -26 EX1 -2 EX2 SM1 -56 EX1 -1 SM3 EX2 -4 EX2 -2 EX3 -3 EX1 -30
  EX2 -3 EX1 -11 EX2 SM1 -56 EX1 -1 SM3 EX5 -1 EX2 SM1 -1 SM2 EX1 -20 EX2 -22 EX6 -1 EX1 SM2 -56
  EX1 -1 EX2 SM1 EX4 -2 SM2 -2 SM2 EX1 -7 EX3 -10 EX2 -30 EX1 -59 EX1 SM1 EX1 SM2 -3 SM3 -1 SM3 EX1
  -9 EX1 -40 EX1 SM3 EX1 -55 EX1 -1 EX3 SM4 -1 EX3 -1 EX4 -7 EX2 -11 EX2 -29 EX1 SM2 -56 EX1 -1 SM1
  EX2 SM1 EX1 SM2 -1 EX3 -1 EX4 -7 EX2 -11 EX2 -15 SM1 -12 EX2 SM2 -55 EX2 -1 EX1 SM2 EX4 -1 SM3 -1
  SM3 EX1 PP1 -8 EX1 -10 EX2 -29 EX1 SM2 -70 EX1 -4 EX1 SM2 EX3 -1 EX1 -1 SM7 EX1 -18 SM2 -61 EX1
  -1 SM1 EX7 -12 EX8 -98 EX1 -1 SM1 EX9 -11 EX7 -73 EX2 -27 EX1 -1 EX1 -1 EX1 -4 SM2 -49 EX14 SM1
  EX5 -1 EX2 -5 EX11 -1 EX36 -9 EX1 -102 EX4 SM1 EX6 -1 EX2 SM2 EX2 -23 SM2 EX2 -4 EX3 -16 EX4 -13
  EX1 -1 SM1 EX2 -6 EX1 -15 EX1 -98 L96 V72 T88 -349 EX3 -946 EX4 -28 EX3 -29 EX2 -30 EX2 -64 EX2
  SM1 EX7 SM8 EX1 SM2 EX11 -9 EX1 -45 EX3 CN1 EX1 -117 EX2 -34 EX1 -118 EX3 SM4 EX2 SM3 -4 SM2 EX1
  SM6 EX3 -219 EX2 SM2 EX1 -57 SM1 EX1 SM1 EX7 -1 EX1 -1 EX1 -2 EX8 SM6 EX10 -2 EX1 -48 EX31 -49
  EX4 SM1 -47 EX10 SM4 EX3 -38 EX9 -12 EX2 SM1 -30 SM1 EX4 SM2 EX6 -56 EX1 SM1 EX2 SM3 EX1 SM1 EX5
  -48 SM8 EX8 SM2 EX2 -152 EX3 -1 EX13 SM1 EX7 -4 EX1 -6 EX1 -2 SM1 EX2 -198 EX64 -523 CN1 EX1 ZWJ1
  CN2 -24 CN7 -49 CN16 -96 EX33 -3070 EX3 -141 EX1 -96 EX32 -554 EX6 -105 EX2 -30164 EX4 -1 EX10
  -32 EX2 -80 EX2 -272 EX1 -3 EX1 -4 EX1 -23 SM2 EX2 SM1 -4 EX1 -83 SM2 -50 SM16 EX2 -26 EX18 -13
  EX1 -38 EX8 -25 EX11 SM1 EX1 -12 L29 -3 EX3 SM1 -47 EX1 SM2 EX4 SM2 EX2 SM2 EX1 -36 EX1 -67 EX6
  SM2 EX2 SM2 EX2 -12 EX1 -8 EX1 SM1 -46 EX1 -51 EX1 -1 EX3 -2 EX2 -5 EX2 -1 EX1 -41 SM1 EX2 SM2 -5
  SM1 EX1 -236 SM2 EX1 SM2 EX1 SM2 -1 SM1 EX1 -18 LV1 LVT27 LV1 LVT27 LV1 LVT27 LV1 LVT27 LV1 LVT27
  LV1 LVT27 LV1 LVT27 LV1 LVT27 LV1 LVT27 LV1 LVT27 LV1 LVT27 LV1 LVT27 LV1 LVT27 LV1 LVT27 LV1
  LVT27 LV1 LVT27 LV1 LVT27 LV1 LVT27 LV1 LVT27 LV1 LVT27 LV1 LVT27 LV1 LVT27 LV1 LVT27 LV1 LVT27
  LV1 LVT27 LV1 LVT27 LV1 LVT27 LV1 LVT27 LV1 LVT27 LV1 LVT27 LV1 LVT27 LV1 LVT27 LV1 LVT27 LV1
  LVT27 LV1 LVT27 LV1 LVT27 LV1 LVT27 LV1 LVT27 LV1 LVT27 LV1 LVT27 LV1 LVT27 LV1 LVT27 LV1 LVT27
  LV1 LVT27 LV1 LVT27 LV1 LVT27 LV1 LVT27 LV1 LVT27 LV1 LVT27 LV1 LVT27 LV1 LVT27 LV1 LVT27 LV1
  LVT27 LV1 LVT27 LV1 LVT27 LV1 LVT27 LV1 LVT27 LV1 LVT27 LV1 LVT27 LV1 LVT27 LV1 LVT27 LV1 LVT27
  LV1 LVT27 LV1 LVT27 LV1 LVT27 LV1 LVT27 LV1 LVT27 LV1 LVT27 LV1 LVT27 LV1 LVT27 LV1 LVT27 LV1
  LVT27 LV1 LVT27 LV1 LVT27 LV1 LVT27 LV1 LVT27 LV1 LVT27 LV1 LVT27 LV1 LVT27 LV1 LVT27 LV1 LVT27
  LV1 LVT27 LV1 LVT27 LV1 LVT27 LV1 LVT27 LV1 LVT27 LV1 LVT27 LV1 LVT27 LV1 LVT27 LV1 LVT27 LV1
  LVT27 LV1 LVT27 LV1 LVT27 LV1 LVT27 LV1 LVT27 LV1 LVT27 LV1 LVT27 LV1 LVT27 LV1 LVT27 LV1 LVT27
  LV1 LVT27 LV1 LVT27 LV1 LVT27 LV1 LVT27 LV1 LVT27 LV1 LVT27 LV1 LVT27 LV1 LVT27 LV1 LVT27 LV1
  LVT27 LV1 LVT27 LV1 LVT27 LV1 LVT27 LV1 LVT27 LV1 LVT27 LV1 LVT27 LV1 LVT27 LV1 LVT27 LV1 LVT27
  LV1 LVT27 LV1 LVT27 LV1 LVT27 LV1 LVT27 LV1 LVT27 LV1 LVT27 LV1 LVT27 LV1 LVT27 LV1 LVT27 LV1
  LVT27 LV1 LVT27 LV1 LVT27 LV1 LVT27 LV1 LVT27 LV1 LVT27 LV1 LVT27 LV1 LVT27 LV1 LVT27 LV1 LVT27
  LV1 LVT27 LV1 LVT27 LV1 LVT27 LV1 LVT27 LV1 LVT27 LV1 LVT27 LV1 LVT27 LV1 LVT27 LV1 LVT27 LV1
  LVT27 LV1 LVT27 LV1 LVT27 LV1 LVT27 LV1 LVT27 LV1 LVT27 LV1 LVT27 LV1 LVT27 LV1 LVT27 LV1 LVT27
  LV1 LVT27 LV1 LVT27 LV1 LVT27 LV1 LVT27 LV1 LVT27 LV1 LVT27 LV1 LVT27 LV1 LVT27 LV1 LVT27 LV1
  LVT27 LV1 LVT27 LV1 LVT27 LV1 LVT27 LV1 LVT27 LV1 LVT27 LV1 LVT27 LV1 LVT27 LV1 LVT27 LV1 LVT27
  LV1 LVT27 LV1 LVT27 LV1 LVT27 LV1 LVT27 LV1 LVT27 LV1 LVT27 LV1 LVT27 LV1 LVT27 LV1 LVT27 LV1
  LVT27 LV1 LVT27 LV1 LVT27 LV1 LVT27 LV1 LVT27 LV1 LVT27 LV1 LVT27 LV1 LVT27 LV1 LVT27 LV1 LVT27
  LV1 LVT27 LV1 LVT27 LV1 LVT27 LV1 LVT27 LV1 LVT27 LV1 LVT27 LV1 LVT27 LV1 LVT27 LV1 LVT27 LV1
  LVT27 LV1 LVT27 LV1 LVT27 LV1 LVT27 LV1 LVT27 LV1 LVT27 LV1 LVT27 LV1 LVT27 LV1 LVT27 LV1 LVT27
  LV1 LVT27 LV1 LVT27 LV1 LVT27 LV1 LVT27 LV1 LVT27 LV1 LVT27 LV1 LVT27 LV1 LVT27 LV1 LVT27 LV1
  LVT27 LV1 LVT27 LV1 LVT27 LV1 LVT27 LV1 LVT27 LV1 LVT27 LV1 LVT27 LV1 LVT27 LV1 LVT27 LV1 LVT27
  LV1 LVT27 LV1 LVT27 LV1 LVT27 LV1 LVT27 LV1 LVT27 LV1 LVT27 LV1 LVT27 LV1 LVT27 LV1 LVT27 LV1
  LVT27 LV1 LVT27 LV1 LVT27 LV1 LVT27 LV1 LVT27 LV1 LVT27 LV1 LVT27 LV1 LVT27 LV1 LVT27 LV1 LVT27
  LV1 LVT27 LV1 LVT27 LV1 LVT27 LV1 LVT27 LV1 LVT27 LV1 LVT27 LV1 LVT27 LV1 LVT27 LV1 LVT27 LV1
  LVT27 LV1 LVT27 LV1 LVT27 LV1 LVT27 LV1 LVT27 LV1 LVT27 LV1 LVT27 LV1 LVT27 LV1 LVT27 LV1 LVT27
  LV1 LVT27 LV1 LVT27 LV1 LVT27 LV1 LVT27 LV1 LVT27 LV1 LVT27 LV1 LVT27 LV1 LVT27 LV1 LVT27 LV1
  LVT27 LV1 LVT27 LV1 LVT27 LV1 LVT27 LV1 LVT27 LV1 LVT27 LV1 LVT27 LV1 LVT27 LV1 LVT27 LV1 LVT27
  LV1 LVT27 LV1 LVT27 LV1 LVT27 LV1 LVT27 LV1 LVT27 LV1 LVT27 LV1 LVT27 LV1 LVT27 LV1 LVT27 LV1
  LVT27 LV1 LVT27 LV1 LVT27 LV1 LVT27 LV1 LVT27 LV1 LVT27 LV1 LVT27 LV1 LVT27 LV1 LVT27 LV1 LVT27
  LV1 LVT27 LV1 LVT27 LV1 LVT27 LV1 LVT27 LV1 LVT27 LV1 LVT27 LV1 LVT27 LV1 LVT27 LV1 LVT27 LV1
  LVT27 LV1 LVT27 LV1 LVT27 LV1 LVT27 LV1 LVT27 LV1 LVT27 LV1 LVT27 LV1 LVT27 LV1 LVT27 LV1 LVT27
  LV1 LVT27 LV1 LVT27 LV1 LVT27 LV1 LVT27 LV1 LVT27 LV1 LVT27 LV1 LVT27 LV1 LVT27 LV1 LVT27 LV1
  LVT27 LV1 LVT27 LV1 LVT27 LV1 LVT27 LV1 LVT27 LV1 LVT27 LV1 LVT27 LV1 LVT27 LV1 LVT27 LV1 LVT27
  LV1 LVT27 LV1 LVT27 LV1 LVT27 LV1 LVT27 LV1 LVT27 LV1 LVT27 LV1 LVT27 LV1 LVT27 LV1 LVT27 LV1
  LVT27 LV1 LVT27 LV1 LVT27 LV1 LVT27 LV1 LVT27 LV1 LVT27 LV1 LVT27 LV1 LVT27 LV1 LVT27 LV1 LVT27
  LV1 LVT27 LV1 LVT27 LV1 LVT27 LV1 LVT27 LV1 LVT27 LV1 LVT27 LV1 LVT27 LV1 LVT27 LV1 LVT27 LV1
  LVT27 LV1 LVT27 LV1 LVT27 LV1 LVT27 LV1 LVT27 LV1 LVT27 LV1 LVT27 LV1 LVT27 LV1 LVT27 LV1 LVT27
  LV1 LVT27 LV1 LVT27 LV1 LVT27 LV1 LVT27 LV1 LVT27 LV1 LVT27 LV1 LVT27 LV1 LVT27 LV1 LVT27 LV1
  LVT27 LV1 LVT27 LV1 LVT27 LV1 LVT27 LV1 LVT27 -12 V23 -4 T49 -8994 EX1 -737 EX16 -16 EX16 -207
  CN1 -158 EX2 -80 CN12 -513 EX1 -226 EX1 -149 EX5 -1670 EX3 -1 EX2 -5 EX4 -40 EX3 -4 EX1 -165 EX2
  -573 EX4 -65 EX5 -317 EX2 -79 EX4 -70 EX11 -49 EX4 -122 SM1 EX1 SM1 -53 EX15 -41 EX1 -2 EX2 -10
  EX3 SM1 -45 SM3 EX4 SM2 EX2 -2 PP1 -4 EX1 -10 PP1 -50 EX3 -36 EX5 SM1 EX8 -16 SM2 -44 EX1 -12 EX2
  SM1 -48 SM3 EX9 SM1 EX1 -1 PP2 -5 EX4 -1 SM1 EX1 -92 SM3 EX3 SM2 EX4 -6 EX1 -2 EX1 -157 EX1 SM3
  EX8 -21 EX2 SM2 -55 EX2 -1 EX1 SM1 EX1 SM4 -2 SM2 -2 SM2 EX1 -9 EX1 -10 SM2 -2 EX7 -3 EX5 -67 EX1
  SM2 EX6 -1 EX1 -2 EX1 -1 EX3 SM1 -1 SM2 EX3 PP1 EX1 -14 EX2 -82 SM3 EX8 SM2 EX3 SM1 EX1 -23 EX1
  -81 EX1 SM2 EX6 SM1 EX1 SM2 EX1 SM1 EX2 SM1 EX2 -235 EX1 SM2 EX4 -2 SM4 EX2 SM1 EX2 -27 EX2 -82
  SM3 EX8 SM2 EX1 SM1 EX2 -106 EX1 SM1 EX1 SM2 EX8 -101 EX1 SM1 EX1 -2 EX4 SM1 EX5 -256 SM3 EX9 SM1
  EX2 -245 EX1 SM5 -1 SM2 -2 EX4 PP1 SM1 PP1 SM1 EX1 -141 SM3 EX4 -2 EX2 SM4 EX1 -3 SM1 -28 EX10
  -40 EX6 SM1 PP1 EX4 -8 EX1 -9 EX6 SM2 EX3 -40 PP6 EX13 SM1 EX2 -405 SM1 EX7 -1 EX6 SM1 EX1 -82
  EX22 -1 SM1 EX7 SM1 EX2 SM1 EX2 -122 EX6 -3 EX1 -1 EX2 -1 EX7 PP1 EX1 -66 SM5 -1 EX2 -1 SM2 EX1
  SM1 EX1 -347 EX2 SM2 -9 EX2 PP1 SM1 -48 SM2 EX5 -3 SM2 EX3 -23 EX1 -5333 CN16 EX1 -6 EX15 -11464
  EX12 SM3 EX3 -2496 EX5 -59 EX7 -556 V1 -3 V4 -484 EX1 -1 SM55 -7 EX4 -81 EX1 -11 EX2 -19627 EX2
  -1 CN4 -4700 EX46 -2 EX23 -542 EX5 -3 EX6 CN8 EX8 -2 EX7 -30 EX4 -148 EX3 -1979 EX55 -4 EX50 -8
  EX1 -14 EX1 -22 EX5 -1 EX15 -1360 EX7 -1 EX17 -2 EX7 -1 EX2 -1 EX5 -100 EX1 -160 EX7 -375 EX1 -61
  EX4 -508 EX4 -254 EX2 -736 EX7 -109 EX7 -2203 RI26 -507 EX5 -789504 CN32 EX96 CN128 EX240 CN3600
  -192512"

/-- The names of each value, the label of its runs first. -/
def clusterBreakNames : List (List String) :=
  [["CN", "Control"], ["CR"], ["EX", "Extend"], ["L"], ["LF"], ["LV"], ["LVT"], ["PP", "Prepend"],
    ["RI", "Regional_Indicator"], ["SM", "SpacingMark"], ["T"], ["V"], ["ZWJ"]]

end Unicode
end DexQuery
