import DexQuery.Unicode.Binary
import DexQuery.Unicode.Category
import DexQuery.Unicode.WordBreak

/-!
# Derived binary properties

The Unicode properties that a character has or has not and that follow from others, by the rules
that derive them: from general categories, from the basic properties that list the exceptions, and
from the places where words end.
-/

namespace DexQuery
namespace Unicode

/-- The characters of general categories. -/
def ofCategories (codes : List String) : CharSet := CharSet.ofRuns categoryRuns codes.contains

/-- The characters with the property `Lowercase`. -/
def lowercase : CharSet := (ofCategories ["Ll"]).union otherLowercase

/-- The characters with the property `Uppercase`. -/
def uppercase : CharSet := (ofCategories ["Lu"]).union otherUppercase

/-- The characters with the property `Cased`. -/
def cased : CharSet := CharSet.unions [lowercase, uppercase, ofCategories ["Lt"]]

/-- The characters with the property `Alphabetic`. -/
def alphabetic : CharSet :=
  CharSet.unions
    [lowercase, uppercase, ofCategories ["Lu", "Ll", "Lt", "Lm", "Lo", "Nl"], otherAlphabetic]

/-- The characters with the property `Math`. -/
def math : CharSet := (ofCategories ["Sm"]).union otherMath

/-- The characters with the property `Case_Ignorable`. -/
def caseIgnorable : CharSet :=
  (ofCategories ["Mn", "Me", "Cf", "Lm", "Sk"]).union
    (CharSet.ofRuns wordBreakRuns ["ML", "MB", "SQ"].contains)

/-- What may not stand in identifiers, since it belongs to the syntax around them. -/
def syntaxChars : CharSet := patternSyntax.union patternWhiteSpace

/-- The characters with the property `ID_Start`. -/
def idStart : CharSet :=
  ((ofCategories ["Lu", "Ll", "Lt", "Lm", "Lo", "Nl"]).union otherIdStart).diff syntaxChars

/-- The characters with the property `ID_Continue`. -/
def idContinue : CharSet :=
  (CharSet.unions [idStart, ofCategories ["Mn", "Mc", "Nd", "Pc"], otherIdContinue]).diff
    syntaxChars

/-- The characters that may continue an identifier until it is normalized, and not after it. -/
def unstableContinue : CharSet :=
  CharSet.ranges
    [('\u037a', '\u037a'), ('\u309b', '\u309c'), ('\ufc5e', '\ufc63'), ('\ufdfa', '\ufdfb'),
      ('\ufe70', '\ufe70'), ('\ufe72', '\ufe72'), ('\ufe74', '\ufe74'), ('\ufe76', '\ufe76'),
      ('\ufe78', '\ufe78'), ('\ufe7a', '\ufe7a'), ('\ufe7c', '\ufe7c'), ('\ufe7e', '\ufe7e')]

/-- The characters that may begin an identifier until it is normalized, and not after it. -/
def unstableStart : CharSet :=
  unstableContinue.union
    (CharSet.ranges [('\u0e33', '\u0e33'), ('\u0eb3', '\u0eb3'), ('\uff9e', '\uff9f')])

/-- The characters with the property `XID_Start`. -/
def xidStart : CharSet := idStart.diff unstableStart

/-- The characters with the property `XID_Continue`. -/
def xidContinue : CharSet := idContinue.diff unstableContinue

/-- The characters with the property `Grapheme_Extend`. -/
def graphemeExtend : CharSet := (ofCategories ["Mn", "Me"]).union otherGraphemeExtend

/-- The characters with the property `Grapheme_Base`. -/
def graphemeBase : CharSet :=
  (CharSet.full.diff (ofCategories ["Cc", "Cf", "Cs", "Co", "Cn", "Zl", "Zp"])).diff graphemeExtend

/-- The characters of general category `Cf` that show: notes between the lines and controls of
hieroglyphs. -/
def shownFormat : CharSet :=
  CharSet.ofSpans [⟨0xFFF9, 0xFFFB⟩, ⟨0x13430, 0x1343F⟩]

/-- The characters with the property `Default_Ignorable_Code_Point`. -/
def defaultIgnorable : CharSet :=
  (CharSet.unions [otherDefaultIgnorableCodePoint, ofCategories ["Cf"], variationSelector]).diff
    (CharSet.unions [whiteSpace, shownFormat, prependedConcatenationMark])

end Unicode
end DexQuery
