import DexQuery.Answer.Basic
import DexQuery.Descriptor.Name

/-!
# References

A reference that the engine reports has a target when it is complete; the others are left out of
the answer, each with a warning that says why.
-/

namespace DexQuery

/-- The kinds of targets. -/
inductive TargetKind where
  | type
  | method
  | field
deriving DecidableEq

/-- The word for a kind of targets. -/
def TargetKind.word : TargetKind → String
  | .type => "class"
  | .method => "method"
  | .field => "field"

/-- What a reference leads to: its descriptor, its name and the descriptor of its type. -/
structure Target where
  kind : TargetKind
  id : String
  name : String
  declaringType : String
deriving DecidableEq

/-- A target as a value. -/
def Target.toJson (t : Target) : Json :=
  .ofMembers [("kind", .string t.kind.word), ("id", .string t.id), ("name", .string t.name),
    ("declaring_type", .string t.declaringType)]

/-- Why a reference has no target. -/
inductive Untargeted where
  | noDeclaringType (kind : String)
  | incompleteMethod (declaringType : String)
  | incompleteField (declaringType : String)
  | unsupportedKind (kind : String)
deriving DecidableEq

/-- The wording of why a reference has no target. -/
def Untargeted.message : Untargeted → String
  | .noDeclaringType kind => kind ++ " reference without declaring type"
  | .incompleteMethod t => "incomplete method reference in " ++ t
  | .incompleteField t => "incomplete field reference in " ++ t
  | .unsupportedKind kind => "unsupported reference kind `" ++ kind ++ "`"

namespace Reference

/-- The target of a reference. A class without a name has that of its raw name. -/
def target (r : Reference) : Except Untargeted Target :=
  match r.declaringType with
  | none => .error (.noDeclaringType r.kind)
  | some raw =>
    let owner := TypeId.mk raw
    if r.kind = "class" then
      .ok ⟨.type, owner.text, r.name.getD owner.simpleName, owner.text⟩
    else if r.kind = "method" then
      match r.name, r.returnType with
      | some name, some ret =>
        .ok ⟨.method, (MethodId.mk owner name r.arguments ret).text, name, owner.text⟩
      | _, _ => .error (.incompleteMethod owner.text)
    else if r.kind = "field" then
      match r.name, r.fieldType with
      | some name, some type =>
        .ok ⟨.field, (FieldId.mk owner name type).text, name, owner.text⟩
      | _, _ => .error (.incompleteField owner.text)
    else .error (.unsupportedKind r.kind)

/-- The target of a reference, if it has one. -/
def target? (r : Reference) : Option Target :=
  match r.target with
  | .ok t => some t
  | .error _ => none

/-- The warning about a reference without a target. -/
def warning? (r : Reference) : Option String :=
  match r.target with
  | .ok _ => none
  | .error why => some ("skipped reference: " ++ why.message)

end Reference

namespace Session

/-- The targets of references, with the warnings about those that have none. -/
def xrefs (s : Session) (id direction : String) (rs : List Reference) : Output :=
  .warned (s.unnamedAnswer [("id", .string id), ("kind", .string "xrefs"),
    ("direction", .string direction),
    ("refs", .listOf Target.toJson (rs.filterMap Reference.target?))])
    (rs.filterMap Reference.warning?)

/-- What refers to a method. -/
def xrefsTo (s : Session) (e : Engine) (m : MethodId) : Except Abort Output := do
  let found ← askKnown (.methodNotFound m.text) (e.methodUsedBy m)
  pure (s.xrefs m.text "to" found)

/-- What a method refers to. -/
def xrefsFrom (s : Session) (e : Engine) (m : MethodId) : Except Abort Output := do
  let found ← askKnown (.methodNotFound m.text) (e.methodUses m)
  pure (s.xrefs m.text "from" found)

/-- What refers to a field. -/
def fieldXrefs (s : Session) (e : Engine) (f : FieldId) : Except Abort Output := do
  let found ← askKnown (.fieldNotFound f.text) (e.fieldUsedBy f)
  pure (s.xrefs f.text "to" found)

/-- What refers to a type. -/
def classXrefs (s : Session) (e : Engine) (t : TypeId) : Except Abort Output := do
  let found ← askKnown (.typeNotFound t.text) (e.typeUsedBy t)
  pure (s.xrefs t.text "to" found)

/-- An overridden method as a value. -/
def overrideEntry (t : Target) : Json :=
  .ofMembers [("id", .string t.id), ("name", .string t.name),
    ("declaring_type", .string t.declaringType)]

/-- The methods that a method overrides. A target that is no method is left out with a warning,
after the warnings about references without a target. -/
def overrides (s : Session) (e : Engine) (m : MethodId) : Except Abort Output := do
  let found ← askKnown (.methodNotFound m.text) (e.overrides m)
  let targets := found.filterMap Reference.target?
  let methods := targets.filter fun t => t.kind = .method
  let others := targets.filter fun t => t.kind ≠ .method
  pure (.warned (s.unnamedAnswer [("id", .string m.text),
    ("overrides", .listOf overrideEntry methods)])
    (found.filterMap Reference.warning? ++
      others.map fun t => "skipped non-method override " ++ t.id))

/-- A call of something undefined as a value. -/
def unresolvedEntry (c : UnresolvedCall) : Json :=
  .ofMembers [("parent_class", .string (Name.descriptorOfRaw c.parentClass)),
    ("name", .optString c.name), ("arg_types", .strings c.argumentTypes),
    ("return_type", .string c.returnType)]

/-- The calls of a method that lead out of the artifact. -/
def unresolved (s : Session) (e : Engine) (m : MethodId) : Except Abort Output := do
  let calls ← askKnown (.methodNotFound m.text) (e.unresolvedCalls m)
  pure (.plain (s.unnamedAnswer [("id", .string m.text), ("refs", .listOf unresolvedEntry calls)]))

end Session
end DexQuery
