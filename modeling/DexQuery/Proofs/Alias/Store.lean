import DexQuery.Alias.Store
import DexQuery.Proofs.Keyed
import DexQuery.Proofs.Text.ByteOrder

/-!
# A store is a durable map

The stores that are opened at one place, each on the file that the one before it has left, are used
one after the other. What they show at any time is told without a store: the aliases are the fold of
the changes since the file was last made (`AliasStore.history`, `AliasStore.contents`), and there is
no file from a release until a store is opened again.

An action changes the rows of a connected store as it changes that map and does nothing to a store
that has been released (`AliasStore.Refines.perform`), so every run of actions ends with a store
that shows the map or, released, is refused everything (`AliasStore.follows_history`).
-/

namespace DexQuery
namespace AliasStore

/-! ## Actions -/

/-- What is done with the stores at a place. -/
inductive Action where
  | upsert (id kind name : String)
  | remove (id : String)
  | get (id : String)
  | list
  | release
  | reopen

/-- The store after an action; a new one that is opened takes the place of the old one. -/
def perform (a : AliasStore) : Action → AliasStore
  | .upsert id kind name => (a.upsert id kind name).2
  | .remove id => (a.remove id).2
  | .get _ => a
  | .list => a
  | .release => a.release
  | .reopen => a.reopen

/-- The store after actions one after the other. -/
def performAll (a : AliasStore) (actions : List Action) : AliasStore := actions.foldl perform a

/-! ## The map that a file holds -/

/-- A change of one entry of a map. -/
inductive Change where
  | set (id : String) (label : Label)
  | unset (id : String)

/-- The map after a change. -/
def Change.apply (m : String → Option Label) : Change → String → Option Label
  | .set id label => Function.update m id (some label)
  | .unset id => Function.update m id none

/-- The map after changes one after the other, where it was empty before. -/
def contents (changes : List Change) : String → Option Label :=
  changes.foldl Change.apply fun _ => none

theorem contents_concat (changes : List Change) (c : Change) :
    contents (changes ++ [c]) = c.apply (contents changes) := by
  rw [contents, contents, List.foldl_append]
  rfl

/-- The change that an action makes in a file. -/
def Action.change? : Action → Option Change
  | .upsert id kind name => some (.set id ⟨kind, name⟩)
  | .remove id => some (.unset id)
  | _ => none

/-- The changes since the file was made, none if there is no file: an action adds to those before
it. -/
def Action.record (log : Option (List Change)) : Action → Option (List Change)
  | .release => none
  | .reopen => some (log.getD [])
  | x => log.map fun changes => changes ++ x.change?.toList

/-- The changes since the file was last made, for actions after a store was opened on a new one. -/
def history (actions : List Action) : Option (List Change) :=
  actions.foldl Action.record (some [])

/-! ## What a store shows -/

/-- The store is connected to its file, which holds the map. -/
structure Shows (a : AliasStore) (m : String → Option Label) : Prop where
  file : a.hasFile = true
  /-- The list holds every entry of the map once, in the order of the bytes of the identifiers. -/
  listed : ∃ rows, a.entries = .ok rows ∧
    rows.Pairwise (fun r r' => Text.bytes r.1 < Text.bytes r'.1) ∧
    ∀ id label, (id, label) ∈ rows ↔ m id = some label
  found : ∀ id, a.get? id = .ok ((m id).map Label.name)
  attached : ∀ id kind name, (a.upsert id kind name).1 = .ok ()
  /-- Taking an alias away reports whether there was one. -/
  removed : ∀ id, (a.remove id).1 = .ok (m id).isSome
  /-- A new store on the file is the same. -/
  reopened : a.reopen = a

/-- The store has been released: its file is gone, it is refused everything and makes nothing, a
second release does nothing, and a new store in its place starts from the empty map. -/
structure Ended (a : AliasStore) : Prop where
  file : a.hasFile = false
  listed : a.entries = .error .sessionClosed
  found : ∀ id, a.get? id = .error .sessionClosed
  attached : ∀ id kind name, a.upsert id kind name = (.error .sessionClosed, a)
  removed : ∀ id, a.remove id = (.error .sessionClosed, a)
  released : a.release = a
  reopened : a.reopen.Shows fun _ => none

/-- The store shows the map after the changes, or has ended if there is no file. -/
def Follows (a : AliasStore) : Option (List Change) → Prop
  | some changes => a.Shows (contents changes)
  | none => a.Ended

/-! ## Rows and changes -/

/-- The rows of the store, if it is connected, are the map after the changes. -/
inductive Refines : AliasStore → Option (List Change) → Prop where
  | connected {rows : List (String × Label)} {changes : List Change}
      (ascending : Keyed.Ascending rows) (found : (Keyed.get? · rows) = contents changes) :
      Refines ⟨some rows, true⟩ (some changes)
  | released : Refines absent none

namespace Refines

variable {a : AliasStore} {log : Option (List Change)}

theorem fresh : Refines AliasStore.fresh (some []) :=
  .connected Keyed.ascending_nil rfl

/-- An action does to the rows what it does to the map. -/
theorem perform (h : Refines a log) (x : Action) : Refines (a.perform x) (x.record log) := by
  cases h with
  | released =>
    cases x with
    | reopen => exact .fresh
    | _ => exact .released
  | @connected rows changes ascending found =>
    have hkeep : Refines ⟨some rows, true⟩ (some (changes ++ [])) := by
      rw [List.append_nil]
      exact .connected ascending found
    cases x with
    | upsert id kind name =>
      show Refines ⟨some (Keyed.insert id ⟨kind, name⟩ rows), true⟩
        (some (changes ++ [.set id ⟨kind, name⟩]))
      refine .connected (ascending.insert ..) ?_
      rw [contents_concat, ← found]
      exact funext fun k => Keyed.get?_insert ..
    | remove id =>
      show Refines ⟨some (Keyed.erase id rows), true⟩ (some (changes ++ [.unset id]))
      refine .connected (ascending.erase _) ?_
      rw [contents_concat, ← found]
      exact funext fun k => Keyed.get?_erase ..
    | get id => exact hkeep
    | list => exact hkeep
    | release => exact .released
    | reopen => exact .connected ascending found

theorem performAll (h : Refines a log) (actions : List Action) :
    Refines (a.performAll actions) (actions.foldl Action.record log) := by
  induction actions generalizing a log with
  | nil => exact h
  | cons x actions ih => exact ih (h.perform x)

theorem shows {changes : List Change} (h : Refines a (some changes)) :
    a.Shows (contents changes) := by
  cases h with
  | @connected rows _ ascending found =>
    have hget : ∀ id, Keyed.get? id rows = contents changes id := congrFun found
    exact
      { file := rfl
        listed := ⟨rows, rfl, ascending.imp Text.bytes_lt_iff.2, fun id label => by
          rw [ascending.mem_iff, hget]⟩
        found := fun id => by rw [← hget]; rfl
        attached := fun _ _ _ => rfl
        removed := fun id => by rw [← hget]; rfl
        reopened := rfl }

theorem follows (h : Refines a log) : a.Follows log := by
  cases log with
  | some changes => exact h.shows
  | none =>
    cases h
    exact
      { file := rfl
        listed := rfl
        found := fun _ => rfl
        attached := fun _ _ _ => rfl
        removed := fun _ => rfl
        released := rfl
        reopened := Refines.fresh.shows }

end Refines

/-- **A store is a durable map.** Whatever is done with the stores at a place, in whatever order,
one that is open shows the fold of the changes since its file was last made, and one that has been
released has no file and is refused everything. -/
theorem follows_history (actions : List Action) :
    (fresh.performAll actions).Follows (history actions) :=
  (Refines.fresh.performAll actions).follows

/-- What is asked of a store that has been released is lost, and a new one starts again. -/
example : history [.upsert "b" "type" "B", .upsert "a" "type" "A", .reopen, .remove "b", .release,
    .release, .upsert "c" "type" "C", .reopen, .upsert "d" "type" "D"] =
      some [.set "d" ⟨"type", "D"⟩] := rfl

end AliasStore
end DexQuery
