import DexQuery.Proofs.Descriptor.EntityCodec
import DexQuery.Proofs.Operation.Arguments

/-!
# Calls about an entity

Most operations are about one type, method or field, whose descriptor is given in an input of its
own for each of the three kinds. A call whose input holds the descriptor of an entity is read as a
request about that entity (`Request.about?_of_ofCall`), if it is read at all; with no other argument
it is (`Request.exists_ofCall`).
-/

namespace DexQuery

namespace EntityId

/-- The names of the inputs that take the descriptor of one entity of a known kind. -/
def arguments : List String := ["type_id", "method_id", "field_id"]

/-- The name of the input that takes the descriptor of the entity. -/
def argument : EntityId → String
  | .type _ => "type_id"
  | .method _ => "method_id"
  | .field _ => "field_id"

theorem argument_mem (x : EntityId) : x.argument ∈ arguments := by
  cases x <;> simp [argument, arguments]

/-- A text is read as one entity of a kind at most. -/
theorem ReadFrom.unique {s : String} {x y : EntityId} (hx : x.ReadFrom s) (hy : y.ReadFrom s)
    (hkind : x.argument = y.argument) : x = y := by
  cases x <;> cases y
  case type.type => exact congrArg _ (Except.ok.inj (hx.symm.trans hy))
  case method.method => exact congrArg _ (Except.ok.inj (hx.symm.trans hy))
  case field.field => exact congrArg _ (Except.ok.inj (hx.symm.trans hy))
  all_goals simp [argument] at hkind

end EntityId

/-- The operation has an input with the name. -/
def Operation.takes (op : Operation) (name : String) : Bool := op.inputs.any fun i => i.name == name

example : Operation.all.filter (·.takes "type_id") =
    [.getHierarchy, .getDependencies, .listMethods, .listMethodsDetail, .listFields,
      .getAnnotations, .decompileClass, .classXrefs] := by decide

example : Operation.all.filter (·.takes "method_id") =
    [.getAnnotations, .decompileMethod, .xrefsTo, .xrefsFrom, .overrides, .unresolvedRefs] := by
  decide

example : Operation.all.filter (·.takes "field_id") = [.getAnnotations, .fieldXrefs] := by decide

namespace Request

/-- The entity that a request asks the engine about, if it is about one. -/
def about? : Request → Option EntityId
  | .hierarchy t | .dependencies t | .listMethods t | .listMethodsDetail t | .listFields t
  | .decompileClass t | .classXrefs t => some (.type t)
  | .decompileMethod m | .xrefsTo m | .xrefsFrom m | .overrides m | .unresolved m =>
    some (.method m)
  | .fieldXrefs f => some (.field f)
  | .annotations target => some target
  | _ => none

variable {args : Arguments} {op : Operation} {r : Request} {x : EntityId} {k s : String}

theorem text_of_text? (h : args.text? k = some s) : args.text k = .ok s := by
  simp only [Arguments.text, h]

theorem orMalformed_map_eq_ok_iff {α β : Type} {z : Except Malformed α} {make : α → β} {y : β} :
    (orMalformed z).map make = .ok y ↔ ∃ w, z = .ok w ∧ make w = y := by
  cases z <;> simp [orMalformed, Except.map]

/-! ## What a request is about -/

/-- What is made of the identifier in an argument is made of what its text is read as. -/
theorem of_identifier {α : Type} {parse : String → Except Malformed α} {make : α → Request}
    {text : Except Failure String} (htext : text = .ok s)
    (h : Except.map make (match text with
      | .error e => .error e
      | .ok s => orMalformed (parse s)) = .ok r) : ∃ y, parse s = .ok y ∧ make y = r := by
  subst htext
  exact orMalformed_map_eq_ok_iff.1 h

/-- The target of annotations is read from the one argument that is given for it. -/
theorem of_annotationTarget (hk : k ∈ EntityId.arguments) (hs : args.text? k = some s)
    (h : annotationTarget args = .ok x) : x.argument = k ∧ x.ReadFrom s := by
  simp only [EntityId.arguments, List.mem_cons, List.not_mem_nil, or_false] at hk
  unfold annotationTarget at h
  split at h
  · cases h
  · rename_i s' htype hmethod hfield
    obtain ⟨t, ht, rfl⟩ := orMalformed_map_eq_ok_iff.1 h
    rcases hk with rfl | rfl | rfl
    · obtain rfl := Option.some.inj (htype.symm.trans hs)
      exact ⟨rfl, ht⟩
    · cases hmethod.symm.trans hs
    · cases hfield.symm.trans hs
  · rename_i s' htype hmethod hfield
    obtain ⟨m, hm, rfl⟩ := orMalformed_map_eq_ok_iff.1 h
    rcases hk with rfl | rfl | rfl
    · cases htype.symm.trans hs
    · obtain rfl := Option.some.inj (hmethod.symm.trans hs)
      exact ⟨rfl, hm⟩
    · cases hfield.symm.trans hs
  · rename_i s' htype hmethod hfield
    obtain ⟨f, hf, rfl⟩ := orMalformed_map_eq_ok_iff.1 h
    rcases hk with rfl | rfl | rfl
    · cases htype.symm.trans hs
    · cases hmethod.symm.trans hs
    · obtain rfl := Option.some.inj (hfield.symm.trans hs)
      exact ⟨rfl, hf⟩
  · cases h

/-- What an operation reads from the descriptor of an entity is a request about it. -/
theorem about?_of_read (hk : k ∈ EntityId.arguments) (hop : op.takes k = true)
    (hs : args.text? k = some s) (h : read op args = .ok r) :
    ∃ x, r.about? = some x ∧ x.argument = k ∧ x.ReadFrom s := by
  have hk' := hk
  simp only [EntityId.arguments, List.mem_cons, List.not_mem_nil, or_false] at hk'
  by_cases hann : op = .getAnnotations
  · subst hann
    cases htarget : annotationTarget args with
    | error f =>
      simp only [read, htarget] at h
      cases h
    | ok x =>
      simp only [read, htarget] at h
      obtain rfl := Except.ok.inj h
      exact ⟨x, rfl, of_annotationTarget hk hs htarget⟩
  rcases hk' with rfl | rfl | rfl
  · cases op with
    | getHierarchy | getDependencies | listMethods | listMethodsDetail | listFields
    | decompileClass | classXrefs =>
      obtain ⟨t, ht, rfl⟩ := of_identifier (text_of_text? hs) h
      exact ⟨.type t, rfl, rfl, ht⟩
    | getAnnotations => exact absurd rfl hann
    | _ => exact absurd hop (by decide)
  · cases op with
    | decompileMethod | xrefsTo | xrefsFrom | overrides | unresolvedRefs =>
      obtain ⟨m, hm, rfl⟩ := of_identifier (text_of_text? hs) h
      exact ⟨.method m, rfl, rfl, hm⟩
    | getAnnotations => exact absurd rfl hann
    | _ => exact absurd hop (by decide)
  · cases op with
    | fieldXrefs =>
      obtain ⟨f, hf, rfl⟩ := of_identifier (text_of_text? hs) h
      exact ⟨.field f, rfl, rfl, hf⟩
    | getAnnotations => exact absurd rfl hann
    | _ => exact absurd hop (by decide)

/-- **A call with the descriptor of an entity is a request about that entity**, whatever else is
among its arguments, if it is read at all. -/
theorem about?_of_ofCall {args : Json} (hx : x.ReadFrom x.text)
    (hop : op.takes x.argument = true) (hs : args.member? x.argument = some (.string x.text))
    (h : ofCall op.name args = .ok r) : r.about? = some x := by
  obtain ⟨op', checked, hop', hchecked, hread⟩ := ofCall_eq_ok_iff.1 h
  obtain rfl := Except.ok.inj ((resolve_name op).symm.trans hop')
  have hget : Keyed.get? x.argument checked = some (.string x.text) := by
    rw [Arguments.get?_of_validate hchecked fun i _ _ => .inr ⟨_, hs, nofun⟩, hs]
  have htext : checked.text? x.argument = some x.text := by
    rw [Arguments.text?, hget]
    rfl
  obtain ⟨y, hy, hkind, hfrom⟩ := about?_of_read x.argument_mem hop htext hread
  rw [hy, hfrom.unique hx hkind]

/-! ## Calls that are read -/

theorem validate_alone (hk : k ∈ EntityId.arguments) (hop : op.takes k = true) :
    Arguments.validate op (.object [(k, .string s)]) = .ok [(k, .string s)] := by
  simp only [EntityId.arguments, List.mem_cons, List.not_mem_nil, or_false] at hk
  rcases hk with rfl | rfl | rfl <;>
    (cases op <;> first | exact absurd hop (by decide) | rfl)

/-- The descriptor of an entity is enough of arguments. -/
theorem exists_ofCall (hx : x.ReadFrom x.text) (hop : op.takes x.argument = true) :
    ∃ r, ofCall op.name (.ofMembers [(x.argument, .string x.text)]) = .ok r := by
  have hread : ∃ r, read op [(x.argument, .string x.text)] = .ok r := by
    cases x with
    | type t =>
      have ht : orMalformed (TypeId.read t.text) = .ok t := orMalformed_eq_ok_iff.2 hx
      have hkind : op.takes "type_id" = true := hop
      cases op with
      | getHierarchy | getDependencies | listMethods | listMethodsDetail | listFields
      | decompileClass | classXrefs => exact ⟨_, congrArg (Except.map _) ht⟩
      | getAnnotations =>
        exact ⟨_, congrArg (fun z => (z.map EntityId.type).map annotations) ht⟩
      | _ => exact absurd hkind (by decide)
    | method m =>
      have hm : orMalformed (MethodId.read m.text) = .ok m := orMalformed_eq_ok_iff.2 hx
      have hkind : op.takes "method_id" = true := hop
      cases op with
      | decompileMethod | xrefsTo | xrefsFrom | overrides | unresolvedRefs =>
        exact ⟨_, congrArg (Except.map _) hm⟩
      | getAnnotations =>
        exact ⟨_, congrArg (fun z => (z.map EntityId.method).map annotations) hm⟩
      | _ => exact absurd hkind (by decide)
    | field f =>
      have hf : orMalformed (FieldId.read f.text) = .ok f := orMalformed_eq_ok_iff.2 hx
      have hkind : op.takes "field_id" = true := hop
      cases op with
      | fieldXrefs => exact ⟨_, congrArg (Except.map _) hf⟩
      | getAnnotations =>
        exact ⟨_, congrArg (fun z => (z.map EntityId.field).map annotations) hf⟩
      | _ => exact absurd hkind (by decide)
  obtain ⟨r, hr⟩ := hread
  exact ⟨r, ofCall_eq_ok_iff.2 ⟨op, _, resolve_name op, validate_alone x.argument_mem hop, hr⟩⟩

end Request
end DexQuery
