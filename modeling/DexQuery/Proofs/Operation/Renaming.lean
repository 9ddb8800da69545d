import DexQuery.Alias.Store
import DexQuery.Proofs.Descriptor.EntityCodec
import DexQuery.Proofs.Keyed
import DexQuery.Proofs.Operation.Arguments
import DexQuery.Proofs.Text.Blank
import Mathlib.Data.List.Induction

/-!
# Renamings

What calls have done to the names of entities is a list of renamings, and what the names are by then
is found by going through it (`Renaming.names`), with no store in sight. The renaming that a call
asks for is read off its arguments (`Renaming.ofCall?`), and it is the one that the request of the
call asks for (`Request.renaming?_of_ofCall`). A store that follows the list row by row shows the
same names (`Renaming.get?_store`).
-/

namespace DexQuery

/-- A change of the names given to entities. -/
inductive Renaming where
  | give (id : EntityId) (name : String)
  | take (id : EntityId)
deriving DecidableEq

/-- The names given to entities, by descriptor. -/
abbrev Names := String → Option Label

namespace Renaming

/-! ## Names after renamings -/

/-- The names after a change: an entity that is given a name has it from then on, with its kind. -/
def apply (m : Names) : Renaming → Names
  | .give id name => Function.update m id.text (some ⟨id.kind, name⟩)
  | .take id => Function.update m id.text none

/-- The names after changes one after the other, where there were none before. -/
def names (log : List Renaming) : Names := log.foldl apply fun _ => none

theorem names_concat (log : List Renaming) (g : Renaming) :
    names (log ++ [g]) = apply (names log) g := by
  rw [names, names, List.foldl_append]
  rfl

/-- The change is about an entity that is read from its descriptor, and a name it gives is not empty
and has no blank at either end. -/
inductive Proper : Renaming → Prop
  | give {id : EntityId} {name : String} (read : EntityId.read id.text = .ok id)
      (trimmed : Text.Trimmed name.toList) : Proper (.give id name)
  | take {id : EntityId} (read : EntityId.read id.text = .ok id) : Proper (.take id)

/-- Every name is one that a proper change can have given: the key is the descriptor of what it is
read as, the kind is the kind of that, and the name itself is trimmed. -/
def WellNamed (m : Names) : Prop :=
  ∀ k l, m k = some l → ∃ x, EntityId.read k = .ok x ∧ x.text = k ∧ l.kind = x.kind ∧
    Text.Trimmed l.name.toList

theorem WellNamed.apply {m : Names} (h : WellNamed m) {g : Renaming} (hg : g.Proper) :
    WellNamed (apply m g) := by
  intro k l hl
  cases hg with
  | @give id name hread htrimmed =>
    by_cases hk : k = id.text
    · subst hk
      obtain rfl : (⟨id.kind, name⟩ : Label) = l := by simpa [Renaming.apply] using hl
      exact ⟨id, hread, rfl, rfl, htrimmed⟩
    · rw [Renaming.apply, Function.update_of_ne hk] at hl
      exact h k l hl
  | @take id hread =>
    by_cases hk : k = id.text
    · subst hk
      simp [Renaming.apply] at hl
    · rw [Renaming.apply, Function.update_of_ne hk] at hl
      exact h k l hl

/-- Proper changes leave well-formed names. -/
theorem wellNamed_names {log : List Renaming} (h : ∀ g ∈ log, g.Proper) :
    WellNamed (names log) := by
  induction log using List.reverseRecOn with
  | nil => exact fun _ _ hl => nomatch hl
  | append_singleton log g ih =>
    rw [names_concat]
    exact (ih fun g' hg' => h g' (List.mem_append_left _ hg')).apply (h g (by simp))

/-! ## Rows after renamings -/

/-- What a change does to the rows of a store. -/
def store (rows : List (String × Label)) : Renaming → List (String × Label)
  | .give id name => Keyed.insert id.text ⟨id.kind, name⟩ rows
  | .take id => Keyed.erase id.text rows

theorem ascending_store {rows : List (String × Label)} (h : Keyed.Ascending rows)
    (g : Renaming) : Keyed.Ascending (g.store rows) := by
  cases g with
  | give id name => exact h.insert ..
  | take id => exact h.erase _

/-- The rows after a change show the names after it. -/
theorem get?_store {rows : List (String × Label)} {m : Names}
    (h : ∀ k, Keyed.get? k rows = m k) (g : Renaming) (k : String) :
    Keyed.get? k (g.store rows) = apply m g k := by
  obtain rfl : (fun k => Keyed.get? k rows) = m := funext h
  cases g with
  | give id name => exact Keyed.get?_insert ..
  | take id => exact Keyed.get?_erase ..

/-! ## Calls that rename -/

/-- The entity whose descriptor is the argument `id`. -/
def entity? (args : Json) : Option EntityId :=
  ((args.member? "id").bind Json.asString?).bind fun s => (EntityId.read s).toOption

/-- What a call asks to be done to the names, as its arguments say. -/
def ofCall? (method : String) (args : Json) : Option Renaming :=
  if method = "rename" then
    (entity? args).bind fun id => ((args.member? "alias").bind Json.asString?).map fun name =>
      .give id (String.ofList (Text.trim name.toList))
  else if method = "remove_rename" then (entity? args).map .take
  else none

theorem entity?_eq_some_iff {args : Json} {id : EntityId} : entity? args = some id ↔
    ∃ text, args.member? "id" = some (.string text) ∧ EntityId.read text = .ok id := by
  have hasString : ∀ {j : Json} {s : String}, j.asString? = some s ↔ j = .string s := by
    intro j s
    cases j <;> simp [Json.asString?]
  have htoOption : ∀ {x : Except Malformed EntityId}, x.toOption = some id ↔ x = .ok id := by
    intro x
    cases x <;> simp [Except.toOption]
  simp only [entity?, Option.bind_eq_some_iff, hasString, htoOption]
  constructor
  · rintro ⟨text, ⟨_, htext, rfl⟩, hid⟩
    exact ⟨text, htext, hid⟩
  · rintro ⟨text, htext, hid⟩
    exact ⟨text, ⟨_, htext, rfl⟩, hid⟩

end Renaming

namespace Request

/-- What a request asks to be done to the names, if it asks for anything. -/
def renaming? : Request → Option Renaming
  | .rename id name => some (.give id name)
  | .removeRename id => some (.take id)
  | _ => none

/-- The name that a call gives is the trimmed text of its argument `alias`. -/
theorem name_of_ofCall_rename {method : String} {args : Json} {id : EntityId} {name : String}
    (h : ofCall method args = .ok (.rename id name)) :
    ∃ given, args.member? "alias" = some (.string given) ∧
      name = String.ofList (Text.trim given.toList) ∧ Text.trim given.toList ≠ [] := by
  obtain ⟨op, checked, hop, hchecked, hread⟩ := ofCall_eq_ok_iff.1 h
  obtain rfl : Operation.rename = op := Except.ok.inj ((resolve_of_ofCall h).symm.trans hop)
  obtain ⟨id', given, heq, hgiven, hne, -⟩ := renameOf_eq_ok hread
  obtain ⟨rfl, rfl⟩ := Request.rename.inj heq
  refine ⟨given, ?_, rfl, hne⟩
  rw [← Arguments.text_eq_ok_iff.1 hgiven, Arguments.get?_of_validate hchecked]
  exact fun i hi _ => .inl (by revert i; decide)

/-- **A request asks for the renaming that the arguments of its call say.** -/
theorem renaming?_of_ofCall {method : String} {args : Json} {r : Request}
    (h : ofCall method args = .ok r) : r.renaming? = Renaming.ofCall? method args := by
  have hmethod : r.operation.name = method := name_of_ofCall h
  cases r with
  | rename id name =>
    subst hmethod
    obtain ⟨text, htext, hid⟩ := renamed?_of_ofCall h rfl
    obtain ⟨given, hgiven, rfl, -⟩ := name_of_ofCall_rename h
    have hrename : (rename id (String.ofList (Text.trim given.toList))).operation.name = "rename" :=
      rfl
    have hentity := Renaming.entity?_eq_some_iff.2 ⟨text, htext, hid⟩
    simp only [hrename, Renaming.ofCall?, if_true, hentity, hgiven, Option.bind_some,
      Json.asString?, Option.map_some]
    rfl
  | removeRename id =>
    subst hmethod
    have hentity := Renaming.entity?_eq_some_iff.2 (renamed?_of_ofCall h rfl)
    exact (congrArg (Option.map Renaming.take) hentity).symm
  | _ =>
    subst hmethod
    rfl

/-- A renaming that is read is proper. -/
theorem proper_of_ofCall {method : String} {args : Json} {r : Request} {g : Renaming}
    (h : ofCall method args = .ok r) (hg : r.renaming? = some g) : g.Proper := by
  cases r with
  | rename id name =>
    obtain rfl := Option.some.inj hg
    obtain ⟨text, -, hid⟩ := renamed?_of_ofCall h rfl
    obtain ⟨given, -, rfl, hne⟩ := name_of_ofCall_rename h
    refine .give (EntityId.read_text_of_read hid) ?_
    rw [String.toList_ofList]
    exact Text.trimmed_trim hne
  | removeRename id =>
    obtain rfl := Option.some.inj hg
    obtain ⟨text, -, hid⟩ := renamed?_of_ofCall h rfl
    exact .take (EntityId.read_text_of_read hid)
  | _ => cases hg

/-- A call that asks for a name to be taken away is read, whatever else is among its arguments. -/
theorem ofCall_of_take {args : Json} {id : EntityId}
    (h : Renaming.ofCall? "remove_rename" args = some (.take id)) :
    ofCall "remove_rename" args = .ok (.removeRename id) := by
  obtain ⟨id', hentity, hid'⟩ := Option.map_eq_some_iff.1 h
  obtain rfl := Renaming.take.inj hid'
  obtain ⟨text, htext, hid⟩ := Renaming.entity?_eq_some_iff.1 hentity
  cases args with
  | object given =>
    have hget : Keyed.get? "id" given = some (.string text) := htext
    have hvalid : Arguments.validate .removeRename (.object given) = .ok given := by
      change Arguments.checkInputs given [Operation.entityInput] given = .ok given
      simp only [Arguments.checkInputs, Arguments.checkInput, Operation.entityInput,
        Operation.requiredText, hget, InputKind.accepts, if_true]
    have harg : entityArg given "id" = .ok id' := entityArg_eq_ok_iff.2 ⟨text, hget, hid⟩
    exact ofCall_eq_ok_iff.2 ⟨.removeRename, given, rfl, hvalid,
      congrArg (Except.map removeRename) harg⟩
  | _ => cases htext

/-- A list of the names is asked for by any object of arguments. -/
theorem ofCall_listRenames (members : List (String × Json)) :
    ofCall "list_renames" (.object members) = .ok .listRenames := rfl

end Request
end DexQuery
