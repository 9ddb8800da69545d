import DexQuery.Text.Pieces

/-!
# Lists of element types

Parameter types stand side by side without a separator, as in `I[Ljava/lang/String;J`. An element
type is a number of `[` followed by one primitive code or by `L`, a name and `;`. Since no element
type is a proper beginning of another, a text is such a list in at most one way, which
`elements` finds from the left.
-/

namespace DexQuery

/-- Why a text is no descriptor. -/
inductive Malformation where
  | missingPrefix
  | missingTerminator
  | emptyName
  | strayCharacter
  | missingArrow
  | missingParenthesis
  | voidParameter
  | missingReturnType
  | missingColon
  | invalidFieldType
  | arrayWithoutElement
  | unterminatedObject
  | invalidTypeCode
deriving DecidableEq

/-- The wording of a malformation. -/
def Malformation.message : Malformation → String
  | .missingPrefix => "missing prefix"
  | .missingTerminator => "missing terminator"
  | .emptyName => "empty name"
  | .strayCharacter => "unexpected character in type name"
  | .missingArrow => "missing arrow separator"
  | .missingParenthesis => "missing parenthesis"
  | .voidParameter => "void parameter type"
  | .missingReturnType => "missing return type"
  | .missingColon => "missing colon"
  | .invalidFieldType => "invalid field type"
  | .arrayWithoutElement => "array without element type"
  | .unterminatedObject => "unterminated object type"
  | .invalidTypeCode => "invalid type code"

namespace TypeList

/-- The primitive type codes; `V` is meant as a return type only. -/
def primitiveCodes : List Char := ['V', 'Z', 'B', 'S', 'I', 'J', 'F', 'D']

/-- The element type at the front of a text and the text after it. -/
def element? : List Char → Except Malformation (List Char × List Char)
  | [] => .error .arrayWithoutElement
  | c :: r =>
    if c = '[' then
      match element? r with
      | .ok (t, rest) => .ok (c :: t, rest)
      | .error e => .error e
    else if c = 'L' then
      match Text.splitFirst? ';' r with
      | none => .error .unterminatedObject
      | some ([], _) => .error .emptyName
      | some (name, rest) => .ok (c :: name ++ [';'], rest)
    else if c ∈ primitiveCodes then .ok ([c], r)
    else .error .invalidTypeCode

/-- Nothing is lost by reading an element type. -/
theorem append_of_element? {cs t rest : List Char} (h : element? cs = .ok (t, rest)) :
    t ++ rest = cs ∧ t ≠ [] := by
  induction cs generalizing t with
  | nil => simp [element?] at h
  | cons c r ih =>
    unfold element? at h
    split at h
    · split at h
      · rename_i t' rest' h'
        obtain ⟨rfl, rfl⟩ := Prod.mk.inj (Except.ok.inj h)
        simp [(ih h').1]
      · simp at h
    · split at h
      · split at h
        · simp at h
        · simp at h
        · rename_i name rest' _ h'
          obtain ⟨rfl, rfl⟩ := Prod.mk.inj (Except.ok.inj h)
          simp [(Text.splitFirst?_eq_some_iff.1 h').1]
      · split at h
        · obtain ⟨rfl, rfl⟩ := Prod.mk.inj (Except.ok.inj h)
          simp
        · simp at h

theorem length_lt_of_element? {cs t rest : List Char} (h : element? cs = .ok (t, rest)) :
    rest.length < cs.length := by
  obtain ⟨h, ht⟩ := append_of_element? h
  have := List.length_pos_iff.2 ht
  rw [← h, List.length_append]
  omega

/-- The element types that a text lists. -/
def elements (cs : List Char) : Except Malformation (List (List Char)) :=
  match cs with
  | [] => .ok []
  | c :: r =>
    match _read : element? (c :: r) with
    | .error e => .error e
    | .ok (t, rest) =>
      match elements rest with
      | .error e => .error e
      | .ok ts => .ok (t :: ts)
termination_by cs.length
decreasing_by exact length_lt_of_element? _read

/-- The element types that `s` lists, as texts. -/
def split (s : String) : Except Malformation (List String) :=
  match elements s.toList with
  | .ok ts => .ok (ts.map String.ofList)
  | .error e => .error e

end TypeList
end DexQuery
