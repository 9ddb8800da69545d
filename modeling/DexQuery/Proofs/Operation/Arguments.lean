import DexQuery.Proofs.Operation.Reading

/-!
# Arguments that are given

Checking arguments fills in defaults for the inputs that are absent and touches no other argument.
So what is read from the checked arguments under the name of a required input, or of one that is
given, is what the caller wrote there (`Arguments.get?_of_validate`).
-/

namespace DexQuery
namespace Arguments

/-- The argument is there, and not null. -/
def Given (given : Arguments) (k : String) : Prop := ∃ v, Keyed.get? k given = some v ∧ v ≠ .null

variable {given built built' checked : Arguments} {i : Input} {k : String}

/-- An input that is absent is not required, and its own argument is all that changes. -/
theorem get?_of_absent (h : checkInput.absent i built = .ok built')
    (hk : i.name = k → i.required = true) : Keyed.get? k built' = Keyed.get? k built := by
  unfold checkInput.absent at h
  split at h
  · cases h
  · rename_i hoptional
    have hne : i.name ≠ k := fun hname => hoptional (hk hname)
    split at h
    · obtain rfl := Except.ok.inj h
      exact Keyed.get?_erase_of_ne hne _
    · obtain rfl := Except.ok.inj h
      exact Keyed.get?_insert_of_ne hne ..

theorem get?_of_checkInput (h : checkInput given i built = .ok built')
    (hk : i.name = k → i.required = true ∨ Given given k) :
    Keyed.get? k built' = Keyed.get? k built := by
  unfold checkInput at h
  split at h
  · rename_i hnone
    refine get?_of_absent h fun hname => (hk hname).resolve_right ?_
    rintro ⟨v, hv, -⟩
    rw [← hname, hnone] at hv
    cases hv
  · rename_i hnull
    refine get?_of_absent h fun hname => (hk hname).resolve_right ?_
    rintro ⟨v, hv, hne⟩
    rw [← hname, hnull] at hv
    exact hne (Option.some.inj hv).symm
  · split at h
    · rw [Except.ok.inj h]
    · cases h

theorem get?_of_checkInputs {is : List Input} (h : checkInputs given is built = .ok checked)
    (hk : ∀ i ∈ is, i.name = k → i.required = true ∨ Given given k) :
    Keyed.get? k checked = Keyed.get? k built := by
  induction is generalizing built with
  | nil => rw [Except.ok.inj h]
  | cons i is ih =>
    unfold checkInputs at h
    split at h
    · cases h
    · rename_i built' hbuilt
      obtain ⟨hi, his⟩ := List.forall_mem_cons.1 hk
      exact (ih h his).trans (get?_of_checkInput hbuilt hi)

/-- **Checking leaves what is given alone**, and what is not given of what is required it refuses:
under each such name the checked arguments have the argument of the call. -/
theorem get?_of_validate {op : Operation} {args : Json} (h : validate op args = .ok checked)
    (hk : ∀ i ∈ op.inputs, i.name = k →
      i.required = true ∨ ∃ v, args.member? k = some v ∧ v ≠ .null) :
    Keyed.get? k checked = args.member? k := by
  cases args with
  | object given => exact get?_of_checkInputs h hk
  | _ => cases h

theorem text_eq_ok_iff {args : Arguments} {name s : String} :
    args.text name = .ok s ↔ Keyed.get? name args = some (.string s) := by
  unfold text text?
  cases Keyed.get? name args with
  | none => simp
  | some v => cases v <;> simp [Json.asString?]

end Arguments

theorem orMalformed_eq_ok_iff {α : Type} {x : Except Malformed α} {y : α} :
    orMalformed x = .ok y ↔ x = .ok y := by
  cases x <;> simp [orMalformed]

namespace Request

/-- The entity whose alias a request changes, if it changes one. -/
def renamed? : Request → Option EntityId
  | .rename id _ => some id
  | .removeRename id => some id
  | _ => none

/-- The operations that are declared to write are those whose requests change an alias. -/
theorem isWrite_operation (r : Request) : r.operation.declaration.isWrite = r.renamed?.isSome := by
  cases r <;> rfl

theorem entityArg_eq_ok_iff {args : Arguments} {name : String} {id : EntityId} :
    entityArg args name = .ok id ↔
      ∃ s, Keyed.get? name args = some (.string s) ∧ EntityId.read s = .ok id := by
  unfold entityArg
  cases h : args.text name with
  | error f =>
    simp only [reduceCtorEq, false_iff, not_exists, not_and]
    intro s hs
    rw [Arguments.text_eq_ok_iff.2 hs] at h
    cases h
  | ok s =>
    have hs := Arguments.text_eq_ok_iff.1 h
    simp [hs, orMalformed_eq_ok_iff]

/-- A renaming gives the entity in the argument `id` the trimmed text of the argument `alias`, of
which something must be left. -/
theorem renameOf_eq_ok {args : Arguments} {r : Request} (h : renameOf args = .ok r) :
    ∃ id given, r = .rename id (String.ofList (Text.trim given.toList)) ∧
      args.text "alias" = .ok given ∧ Text.trim given.toList ≠ [] ∧
      entityArg args "id" = .ok id := by
  unfold renameOf at h
  cases hgiven : args.text "alias" with
  | error f =>
    rw [hgiven] at h
    cases h
  | ok given =>
    cases hid : entityArg args "id" with
    | error f =>
      simp only [hgiven, hid, bind, Except.bind] at h
      split at h <;> cases h
    | ok id =>
      simp only [hgiven, hid, bind, Except.bind, pure, Except.pure] at h
      split at h
      · cases h
      · rename_i hne
        exact ⟨id, given, (Except.ok.inj h).symm, rfl, by simpa using hne, rfl⟩

theorem ofCall_eq_ok_iff {method : String} {args : Json} {r : Request} :
    ofCall method args = .ok r ↔ ∃ op checked, resolve method = .ok op ∧
      Arguments.validate op args = .ok checked ∧ read op checked = .ok r := by
  unfold ofCall
  cases hop : resolve method with
  | error f => simp
  | ok op =>
    cases hchecked : Arguments.validate op args with
    | error f => simp [hchecked]
    | ok checked => simp [hchecked]

theorem entityArg_of_read {op : Operation} {checked : Arguments} {r : Request} {target : EntityId}
    (h : read op checked = .ok r) (htarget : r.renamed? = some target) :
    entityArg checked "id" = .ok target := by
  have hwrites : op.declaration.isWrite = true := by
    rw [← (reads_read checked op).value h, isWrite_operation, htarget]
    rfl
  cases op with
  | rename =>
    obtain ⟨id, given, rfl, -, -, hid⟩ := renameOf_eq_ok h
    rw [hid, Option.some.inj htarget]
  | removeRename =>
    cases hid : entityArg checked "id" with
    | error f =>
      simp only [read, hid] at h
      cases h
    | ok id =>
      simp only [read, hid] at h
      obtain rfl := Except.ok.inj h
      rw [Option.some.inj htarget]
  | _ => cases hwrites

/-- The entity is the one that the call names. -/
theorem renamed?_of_ofCall {method : String} {args : Json} {r : Request} {target : EntityId}
    (h : ofCall method args = .ok r) (htarget : r.renamed? = some target) :
    ∃ text, args.member? "id" = some (.string text) ∧ EntityId.read text = .ok target := by
  obtain ⟨op, checked, -, hchecked, hread⟩ := ofCall_eq_ok_iff.1 h
  obtain ⟨text, htext, hid⟩ := entityArg_eq_ok_iff.1 (entityArg_of_read hread htarget)
  refine ⟨text, ?_, hid⟩
  rw [← htext, Arguments.get?_of_validate hchecked]
  intro i hi hname
  refine .inl ?_
  revert i
  cases op <;> decide

end Request
end DexQuery
