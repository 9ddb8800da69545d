import DexQuery.Engine.Snapshot
import DexQuery.Proofs.Answer.Grouping
import DexQuery.Proofs.Answer.PackageTree
import DexQuery.Proofs.Descriptor.MethodCodec
import DexQuery.Proofs.Session.Uncached

/-!
# Exports in another order

Two exports without a repeated name that differ in the order of their types alone have engines that
differ in the order of the list of types alone (`Export.Artifact.Reordered.engine_eq`). The four
questions that look at this list sort it, look a name up in it or build the packages from it, so no
question tells the engines apart (`Session.runOnUncached_types`).

Sessions about the two differ in more: in their ids, and in what they were loaded from. As long as
they have the same aliases and the same provenance, an answer shows nothing of this but the id
(`Session.anonymous_runOnUncached`). One request, for the information about the session itself,
shows all of it.
-/

namespace DexQuery

/-! ## Engines -/

namespace Export.Artifact

/-- Without a repeated name, the type that is asked about is found from the front as well. -/
theorem entry?_eq_find? {a : Artifact} (h : (a.types.map fun t => t.summary.rawName).Nodup)
    (rawName : String) : a.entry? rawName = a.types.find? fun t => t.summary.rawName == rawName :=
  (find?_eq_of_perm (List.reverse_perm a.types).symm h rawName).symm

/-- No name is repeated among the types of an export, and the other is the same with its types in
another order. -/
structure Reordered (a b : Artifact) : Prop where
  distinct : (a.types.map fun t => t.summary.rawName).Nodup
  perm : a.types.Perm b.types
  rest : b = { a with types := b.types }

namespace Reordered

variable {a b : Artifact}

theorem entry?_eq (h : a.Reordered b) (rawName : String) :
    b.entry? rawName = a.entry? rawName := by
  rw [entry?_eq_find? h.distinct, entry?_eq_find? ((h.perm.map _).nodup_iff.1 h.distinct)]
  exact (find?_eq_of_perm h.perm h.distinct rawName).symm

/-- The engines differ in the order of the list of types alone. -/
theorem engine_eq (h : a.Reordered b) :
    b.engine = { a.engine with types := .ok (b.types.map (·.summary)) } := by
  have hentry : b.entry? = a.entry? := funext h.entry?_eq
  have hmethod : b.method? = a.method? := funext fun m => by rw [method?, method?, hentry]
  have hfield : b.field? = a.field? := funext fun f => by rw [field?, field?, hentry]
  unfold engine
  rw [hentry, hmethod, hfield, h.rest]

end Reordered
end Export.Artifact

/-! ## Lists of types -/

variable {ts ts' : List TypeSummary} {s t : Session} {e : Engine}

theorem TypeId.text_injective : Function.Injective TypeId.text := by
  intro x y h
  have hchars := congrArg String.toList h
  rw [TypeId.toList_text, TypeId.toList_text] at hchars
  have hraw : x.raw.toList = y.raw.toList := by simpa using hchars
  cases x
  cases y
  exact congrArg TypeId.mk (String.toList_inj.1 hraw)

namespace Session

theorem sortedTypes_of_perm (h : ts.Perm ts') (hd : (ts.map (·.rawName)).Nodup) :
    sortedTypes ts = sortedTypes ts' :=
  mergeSort_eq_of_perm h fun _ hx _ hy hkey =>
    List.inj_on_of_nodup_map hd hx hy (TypeId.mk.inj (TypeId.text_injective hkey))

theorem accessFlagsOf_of_perm (h : ts.Perm ts') (hd : (ts.map (·.rawName)).Nodup)
    (rawName : String) : accessFlagsOf rawName ts = accessFlagsOf rawName ts' := by
  unfold accessFlagsOf
  rw [find?_eq_of_perm h hd rawName]

theorem searchOrder_of_perm (h : ts.Perm ts') (hd : (ts.map (·.rawName)).Nodup) :
    StringSearch.searchOrder ts = StringSearch.searchOrder ts' :=
  congrArg (List.map _) (mergeSort_eq_of_perm h fun _ hx _ hy => List.inj_on_of_nodup_map hd hx hy)

end Session

/-! ### Searching

A search asks the engine for the list of types once and not again for any of the types. -/

namespace StringSearch

variable (q : StringSearch) (e : Engine) (types : Reply (List TypeSummary))

theorem rangesOf_types (t : TypeId) (unit : String) (ms : List MethodModel) :
    rangesOf { e with types := types } t unit ms = rangesOf e t unit ms := by
  induction ms with
  | nil => rfl
  | cons m ms ih => simp only [rangesOf, ih]

theorem scanTypeUncached_types (t : TypeId) :
    q.scanTypeUncached { e with types := types } t = q.scanTypeUncached e t := by
  have hattribution : ∀ unit, attribution { e with types := types } t unit =
      attribution e t unit := fun unit => by
    simp only [attribution, methodRanges, rangesOf_types]
  simp only [scanTypeUncached, hattribution]
  rfl

theorem scanTypesUncached_types (l : List TypeId) :
    q.scanTypesUncached { e with types := types } l = q.scanTypesUncached e l := by
  induction l with
  | nil => rfl
  | cons t l ih => rw [scanTypesUncached, scanTypesUncached, scanTypeUncached_types, ih]

end StringSearch

namespace Session

/-- **No question tells the order of the types**, unless a name is repeated among them. -/
theorem runOnUncached_types (he : e.types = .ok ts) (h : ts.Perm ts')
    (hd : (ts.map (·.rawName)).Nodup) (s : Session) (r : Request) :
    s.runOnUncached { e with types := .ok ts' } r = s.runOnUncached e r := by
  cases r with
  | listTypes =>
    simp only [runOnUncached, runOn, Result.pure, listTypes, he, ask, bind, Except.bind,
      sortedTypes_of_perm h hd]
  | listPackages =>
    have hnames : (ts.map fun t => TypeId.mk t.rawName).Perm (ts'.map fun t => ⟨t.rawName⟩) :=
      h.map _
    have hshown := Package.toJson_ofTypes_of_perm hnames
    have hlength := congrArg List.length hshown
    rw [List.length_map, List.length_map] at hlength
    simp only [runOnUncached, runOn, Result.pure, listPackages, he, ask, bind, Except.bind,
      Json.listOf, hshown, hlength]
  | hierarchy t =>
    simp only [runOnUncached, runOn, Result.pure, hierarchy, he, ask, bind, Except.bind,
      accessFlagsOf_of_perm h hd]
  | searchStrings q =>
    simp only [runOnUncached, searchStringsUncached, he, ask, searchOrder_of_perm h hd,
      q.scanTypesUncached_types]
  | _ => rfl

end Session

/-- No request tells the engines apart. -/
def Engine.Interchangeable (e e' : Engine) : Prop :=
  ∀ (s : Session) (r : Request), s.runOnUncached e' r = s.runOnUncached e r

theorem Export.Artifact.Reordered.interchangeable {a b : Export.Artifact} (h : a.Reordered b) :
    a.engine.Interchangeable b.engine := by
  have hnames : ((a.types.map (·.summary)).map (·.rawName)).Nodup := by
    rw [List.map_map]
    exact h.distinct
  intro s r
  rw [h.engine_eq]
  exact Session.runOnUncached_types rfl (h.perm.map _) hnames s r

/-! ## Sessions about the same -/

/-- A value without the id of a session. -/
def Json.anonymous : Json → Json
  | .object ms => .object (Keyed.erase "session_id" ms)
  | j => j

/-- An answer without the id of its session, and without its warnings. -/
def Output.anonymous (o : Output) : Output := ⟨o.data.anonymous, [], o.truncated⟩

/-- But for a key, two maps of lists of entries are the same if the lists are the same but for the
entry of that key in front. -/
theorem Keyed.erase_ofList_cons {α : Type} (k : String) (x y : α) (l : List (String × α)) :
    erase k (ofList ((k, x) :: l)) = erase k (ofList ((k, y) :: l)) := by
  refine ((ascending_ofList _).erase k).ext ((ascending_ofList _).erase k) fun j => ?_
  by_cases hj : k = j
  · subst hj
    rw [get?_erase_self, get?_erase_self]
  · rw [get?_erase_of_ne hj, get?_erase_of_ne hj]
    refine get?_insertAll_congr (l := l) ?_
    rw [get?_insert_of_ne hj, get?_insert_of_ne hj]

theorem map_bind_congr {α β ε γ : Type} {x : Except ε α} {f g : α → Except ε β} {view : β → γ}
    (h : ∀ v, (f v).map view = (g v).map view) : (x >>= f).map view = (x >>= g).map view := by
  cases x with
  | error a => rfl
  | ok v => exact h v

namespace Session

/-- The sessions have the same aliases, and answers with the same words on where they come from. -/
structure Counterpart (s t : Session) : Prop where
  aliases : t.aliases = s.aliases
  provenance : t.provenance = s.provenance

namespace Counterpart

variable {members : List (String × Json)}

theorem labels (h : s.Counterpart t) : t.labels = s.labels := by
  simp only [Session.labels, h.aliases]

theorem unnamedAnswer (h : s.Counterpart t) :
    t.unnamedAnswer members = s.unnamedAnswer members := by
  simp only [Session.unnamedAnswer, h.provenance]

theorem answer (h : s.Counterpart t) :
    (t.answer members).anonymous = (s.answer members).anonymous := by
  rw [Session.answer, h.provenance]
  exact congrArg Json.object (Keyed.erase_ofList_cons ..)

end Counterpart

variable (h : s.Counterpart t) (e : Engine)
include h

theorem aliases_runOnUncached (r : Request) :
    (t.runOnUncached e r).2 = (s.runOnUncached e r).2 := by
  cases r with
  | rename id name => simp only [runOnUncached, runOn, Result.ofAliases, rename, h.aliases]
  | removeRename id =>
    simp only [runOnUncached, runOn, Result.ofAliases, removeRename, h.aliases]
  | _ => exact h.aliases

/-- **An answer names nothing of its session but the id**, unless it is about the session. -/
theorem anonymous_runOnUncached {r : Request} (hr : r ≠ .sessionInfo) :
    (t.runOnUncached e r).1.map Output.anonymous =
      (s.runOnUncached e r).1.map Output.anonymous := by
  have hanswer : ∀ {members warnings truncated},
      (Except.ok ⟨t.answer members, warnings, truncated⟩ : Except Abort Output).map
          Output.anonymous =
        (Except.ok ⟨s.answer members, warnings, truncated⟩ : Except Abort Output).map
          Output.anonymous := by
    intro members warnings truncated
    simp only [Except.map, Output.anonymous, h.answer]
  cases r with
  | listTypes =>
    simp only [runOnUncached, runOn, Result.pure, listTypes, h.labels]
    exact map_bind_congr fun _ => map_bind_congr fun _ => hanswer
  | listMethods t | listFields t =>
    simp only [runOnUncached, runOn, Result.pure, listMethods, listFields, h.labels]
    exact map_bind_congr fun _ => map_bind_congr fun _ => hanswer
  | hierarchy t =>
    exact map_bind_congr fun _ => map_bind_congr fun _ => hanswer
  | listPackages | dependencies _ | listMethodsDetail _ | manifest | listResources
  | resourceContent _ | errorReport => exact map_bind_congr fun _ => hanswer
  | annotations target | xrefsTo m | xrefsFrom m | fieldXrefs f | classXrefs t | overrides m
  | unresolved m =>
    simp only [runOnUncached, runOn, Result.pure, annotations, xrefsTo, xrefsFrom, fieldXrefs,
      classXrefs, overrides, unresolved, xrefs, h.unnamedAnswer]
  | decompileMethod m =>
    simp only [runOnUncached, decompileMethodUncached, methodAnswer, h.unnamedAnswer]
  | decompileClass c =>
    simp only [runOnUncached, decompileClassUncached]
    cases ask (e.unitText .source c) with
    | error a => rfl
    | ok found =>
      cases found with
      | some java => exact hanswer
      | none =>
        simp only
        cases askKnown (.typeNotFound c.text) (e.hierarchy c) with
        | error a => rfl
        | ok _ => exact hanswer
  | searchStrings q =>
    simp only [runOnUncached, searchStringsUncached]
    cases ask e.types with
    | error a => rfl
    | ok types =>
      simp only
      cases q.scanTypesUncached e (StringSearch.searchOrder types) with
      | error a => rfl
      | ok found => exact hanswer
  | rename id name => simp only [runOnUncached, runOn, Result.ofAliases, rename, h.aliases]
  | removeRename id =>
    simp only [runOnUncached, runOn, Result.ofAliases, removeRename, h.aliases]
  | listRenames =>
    simp only [runOnUncached, runOn, Result.pure, listRenames, h.aliases]
    cases s.aliases.entries with
    | error f => rfl
    | ok rows =>
      exact congrArg (fun ms => Except.ok (Output.mk (.object ms) [] false))
        (Keyed.erase_ofList_cons ..)
  | sessionInfo => exact absurd rfl hr

end Session
end DexQuery
