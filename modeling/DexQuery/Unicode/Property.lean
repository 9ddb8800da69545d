import DexQuery.Unicode.Age
import DexQuery.Unicode.CaseChange
import DexQuery.Unicode.ClusterBreak
import DexQuery.Unicode.Derived
import DexQuery.Unicode.Script
import DexQuery.Unicode.ScriptExtension
import DexQuery.Unicode.SentenceBreak

/-!
# Properties by name

A set of characters is looked up by the name of a property that its members have, or by the names
of a property and of its value for them. Case, blanks, `_`, `-` and a leading `is` do not count. The
tables are those of Unicode 16.
-/

namespace DexQuery
namespace Unicode

/-- The binary properties by their names. -/
def binaryProperties : List (List String × CharSet) :=
  [(["Alphabetic", "Alpha"], alphabetic),
    (["ASCII_Hex_Digit", "AHex"], asciiHexDigit),
    (["Bidi_Control", "Bidi_C"], bidiControl),
    (["Bidi_Mirrored", "Bidi_M"], bidiMirrored),
    (["Case_Ignorable", "CI"], caseIgnorable),
    (["Cased"], cased),
    (["Changes_When_Casefolded", "CWCF"], changesWhenCasefolded),
    (["Changes_When_Casemapped", "CWCM"], changesWhenCasemapped),
    (["Changes_When_Lowercased", "CWL"], changesWhenLowercased),
    (["Changes_When_Titlecased", "CWT"], changesWhenTitlecased),
    (["Changes_When_Uppercased", "CWU"], changesWhenUppercased),
    (["Dash"], dash),
    (["Default_Ignorable_Code_Point", "DI"], defaultIgnorable),
    (["Deprecated", "Dep"], deprecated),
    (["Diacritic", "Dia"], diacritic),
    (["Emoji"], emoji),
    (["Emoji_Component", "EComp"], emojiComponent),
    (["Emoji_Modifier", "EMod"], emojiModifier),
    (["Emoji_Modifier_Base", "EBase"], emojiModifierBase),
    (["Emoji_Presentation", "EPres"], emojiPresentation),
    (["Extended_Pictographic", "ExtPict"], extendedPictographic),
    (["Extender", "Ext"], extender),
    (["Grapheme_Base", "Gr_Base"], graphemeBase),
    (["Grapheme_Extend", "Gr_Ext"], graphemeExtend),
    (["Grapheme_Link", "Gr_Link"], graphemeLink),
    (["Hex_Digit", "Hex"], hexDigit),
    (["Hyphen"], hyphen),
    (["ID_Compat_Math_Continue"], idCompatMathContinue),
    (["ID_Compat_Math_Start"], idCompatMathStart),
    (["ID_Continue", "IDC"], idContinue),
    (["ID_Start", "IDS"], idStart),
    (["Ideographic", "Ideo"], ideographic),
    (["IDS_Binary_Operator", "IDSB"], idsBinaryOperator),
    (["IDS_Trinary_Operator", "IDST"], idsTrinaryOperator),
    (["IDS_Unary_Operator", "IDSU"], idsUnaryOperator),
    (["Join_Control", "Join_C"], joinControl),
    (["Logical_Order_Exception", "LOE"], logicalOrderException),
    (["Lowercase", "Lower"], lowercase),
    (["Math"], math),
    (["Modifier_Combining_Mark", "MCM"], modifierCombiningMark),
    (["Noncharacter_Code_Point", "NChar"], noncharacterCodePoint),
    (["Other_Alphabetic", "OAlpha"], otherAlphabetic),
    (["Other_Default_Ignorable_Code_Point", "ODI"], otherDefaultIgnorableCodePoint),
    (["Other_Grapheme_Extend", "OGr_Ext"], otherGraphemeExtend),
    (["Other_ID_Continue", "OIDC"], otherIdContinue),
    (["Other_ID_Start", "OIDS"], otherIdStart),
    (["Other_Lowercase", "OLower"], otherLowercase),
    (["Other_Math", "OMath"], otherMath),
    (["Other_Uppercase", "OUpper"], otherUppercase),
    (["Pattern_Syntax", "Pat_Syn"], patternSyntax),
    (["Pattern_White_Space", "Pat_WS"], patternWhiteSpace),
    (["Prepended_Concatenation_Mark", "PCM"], prependedConcatenationMark),
    (["Quotation_Mark", "QMark"], quotationMark),
    (["Radical"], radical),
    (["Regional_Indicator", "RI"], regionalIndicator),
    (["Sentence_Terminal", "STerm"], sentenceTerminal),
    (["Soft_Dotted", "SD"], softDotted),
    (["Terminal_Punctuation", "Term"], terminalPunctuation),
    (["Unified_Ideograph", "UIdeo"], unifiedIdeograph),
    (["Uppercase", "Upper"], uppercase),
    (["Variation_Selector", "VS"], variationSelector),
    (["White_Space", "WSpace", "space"], whiteSpace),
    (["XID_Continue", "XIDC"], xidContinue),
    (["XID_Start", "XIDS"], xidStart)]

/-! ## Names -/

/-- Lowercase ASCII without blanks, `_` and `-`. -/
def plainName (cs : List Char) : List Char :=
  (cs.filter fun c => c.toNat < 0x80 && c != ' ' && c != '_' && c != '-').map Char.toLower

/-- The form of a name that lookups compare: plain and without a leading `is`. The name `isc` is
the exception, since it is a property of its own. -/
def normalName (cs : List Char) : String :=
  match cs with
  | a :: b :: r =>
    if (a == 'i' || a == 'I') && (b == 's' || b == 'S') then
      let name := plainName r
      if name = ['c'] then "isc" else String.ofList name
    else String.ofList (plainName cs)
  | _ => String.ofList (plainName cs)

/-- Whether a normal name is one of `names`. -/
def isNameIn (names : List String) (name : String) : Bool :=
  names.any fun n => String.ofList (plainName n.toList) == name

/-! ## Lookups -/

/-- The set of a general category, by its normal name. -/
def ofCategory? (name : String) : Option CharSet :=
  if name = "any" then some CharSet.full
  else if name = "ascii" then some (CharSet.range '\x00' '\x7f')
  else if name = "assigned" then some (ofCategories ["Cn"]).compl
  else (categoryNames.find? fun e => isNameIn e.2 name).map fun e => ofCategories e.1

/-- The set of the label that stands first among the names of a value, by its normal name. -/
def ofLabel? (values : List (List String)) (runs : Array Run) (name : String) : Option CharSet :=
  (values.find? fun names => isNameIn names name).bind fun names =>
    names.head?.map fun label => CharSet.ofRuns runs (· == label)

/-- The set of a script, by its normal name. -/
def ofScript? (name : String) : Option CharSet := ofLabel? scriptNames scriptRuns name

/-- The set of the characters used with a script, by its normal name. -/
def ofScriptExtension? (name : String) : Option CharSet :=
  (scriptNames.find? fun names => isNameIn names name).bind fun names =>
    names.head?.map fun code =>
      CharSet.ofRuns scriptExtensionRuns fun label => (Text.split '_' label).contains code

/-- The set of the characters that a version of the standard has, by the normal name of it. -/
def ofAge? (name : String) : Option CharSet :=
  (ages.findIdx? fun age =>
      isNameIn [age.2, "V" ++ age.2.replace "." ""] name).map fun i =>
    let labels := (ages.take (i + 1)).map Prod.fst
    CharSet.ofRuns ageRuns labels.contains

/-- The set of a binary property, by its normal name. -/
def ofBinary? (name : String) : Option CharSet :=
  (binaryProperties.find? fun e => isNameIn e.1 name).map Prod.snd

/-- The set that a name alone stands for: a binary property, else a general category, else a
script. -/
def named? (name : List Char) : Option CharSet :=
  let name := normalName name
  ((ofBinary? name).or (ofCategory? name)).or (ofScript? name)

/-- The set of a value of a property. -/
def valued? (property value : List Char) : Option CharSet :=
  let property := normalName property
  let value := normalName value
  if isNameIn ["gc", "General_Category"] property then ofCategory? value
  else if isNameIn ["sc", "Script"] property then ofScript? value
  else if isNameIn ["scx", "Script_Extensions"] property then ofScriptExtension? value
  else if isNameIn ["age"] property then ofAge? value
  else if isNameIn ["GCB", "Grapheme_Cluster_Break"] property then
    ofLabel? clusterBreakNames clusterBreakRuns value
  else if isNameIn ["WB", "Word_Break"] property then ofLabel? wordBreakNames wordBreakRuns value
  else if isNameIn ["SB", "Sentence_Break"] property then
    ofLabel? sentenceBreakNames sentenceBreakRuns value
  else none

end Unicode
end DexQuery
