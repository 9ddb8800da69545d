import DexQuery.Descriptor.Basic
import DexQuery.Text.Pieces

/-!
# Raw names, dotted names and descriptors

Conversions between the three spellings of a type's name. They accept any text; one that is no
descriptor counts as a raw name.
-/

namespace DexQuery
namespace Name

/-- The descriptor of a raw name. -/
def descriptorOfRaw (raw : String) : String := (TypeId.mk raw).text

/-- `cs` without the `L` in front and the `;` at the end, if it has both. -/
def stripDescriptor (cs : List Char) : List Char :=
  match cs with
  | 'L' :: r => if r.getLast? = some ';' then r.dropLast else cs
  | _ => cs

/-- The raw name in a descriptor, or the text itself if it is none. -/
def rawOfDescriptor (d : String) : String := String.ofList (stripDescriptor d.toList)

/-- The descriptor of a dotted name. -/
def descriptorOfDotted (dotted : String) : String :=
  descriptorOfRaw (Text.replaceChar '.' '/' dotted)

/-- The dotted name in a descriptor. -/
def dottedOfDescriptor (d : String) : String := Text.replaceChar '/' '.' (rawOfDescriptor d)

end Name
end DexQuery
