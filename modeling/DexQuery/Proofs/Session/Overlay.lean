import DexQuery.Proofs.Answer.Overlay
import DexQuery.Proofs.Operation.Reading

/-!
# Sessions that differ in their aliases

Of two sessions that differ only in what their alias stores hold (`Session.Relabelled`), a request
gets the same answer unless it shows aliases (`Session.Relabelled.run_eq`), and if it lists entries,
the same answer but for the aliases of the entries (`Session.Relabelled.run_unlabelled`), which are
those of the session (`Session.run_shows`). What a request leaves differs only in the aliases again
(`Session.Relabelled.run`).

The requests that never touch the store are dealt with at once: the store of the session makes no
difference to them, not even whether there is one (`Session.runOn_relabel`). So a request to a
session whose aliases cannot be read fails by the engine, or because the session is closed
(`Session.runOn_error`).
-/

namespace DexQuery

/-! ## Operations -/

/-- Whether an operation shows aliases, or whether there is one. -/
def Operation.showsAliases : Operation → Bool
  | .listTypes | .listMethods | .listFields | .listRenames | .removeRename => true
  | _ => false

/-- The key of the entries in the answers of an operation that lists entries with their aliases. -/
def Operation.entriesKey? : Operation → Option String
  | .listTypes => some "types"
  | .listMethods => some "methods"
  | .listFields => some "fields"
  | _ => none

/-- Whether a request reads or changes aliases. -/
def Request.needsAliases : Request → Bool
  | .listTypes | .listMethods _ | .listFields _ | .rename _ _ | .removeRename _ | .listRenames =>
    true
  | _ => false

/-- A request that shows no aliases has no need of them, or sets one. -/
theorem Request.of_not_showsAliases {r : Request} (h : r.operation.showsAliases = false) :
    r.needsAliases = false ∨ ∃ id name, r = .rename id name := by
  cases r with
  | listTypes | listMethods _ | listFields _ | removeRename _ | listRenames => cases h
  | rename id name => exact .inr ⟨id, name, rfl⟩
  | _ => exact .inl rfl

/-- A request that lists entries is one of three. -/
theorem Request.of_entriesKey? {r : Request} {key : String}
    (h : r.operation.entriesKey? = some key) :
    (r = .listTypes ∧ key = "types") ∨ (∃ t, r = .listMethods t ∧ key = "methods") ∨
      ∃ t, r = .listFields t ∧ key = "fields" := by
  cases r with
  | listTypes => exact .inl ⟨rfl, (Option.some.inj h).symm⟩
  | listMethods t => exact .inr (.inl ⟨t, rfl, (Option.some.inj h).symm⟩)
  | listFields t => exact .inr (.inr ⟨t, rfl, (Option.some.inj h).symm⟩)
  | _ => cases h

theorem Request.needsAliases_of_entriesKey? {r : Request} {key : String}
    (h : r.operation.entriesKey? = some key) : r.needsAliases = true := by
  rcases Request.of_entriesKey? h with ⟨rfl, -⟩ | ⟨t, rfl, -⟩ | ⟨t, rfl, -⟩ <;> rfl

/-! ## Alias stores -/

namespace AliasStore

/-- The stores differ at most in what they hold: both have a file or none, and both are connected
to it or none. -/
def Alike (a b : AliasStore) : Prop := a.connected = b.connected ∧ a.hasFile = b.hasFile

variable {a b : AliasStore}

theorem rows_error {f : Failure} (h : a.rows = .error f) : f = .sessionClosed := by
  unfold rows at h
  split at h
  · cases h
  · exact (Except.error.inj h).symm

namespace Alike

theorem symm (h : a.Alike b) : b.Alike a := ⟨h.1.symm, h.2.symm⟩

theorem trans {c : AliasStore} (h : a.Alike b) (h' : b.Alike c) : a.Alike c :=
  ⟨h.1.trans h'.1, h.2.trans h'.2⟩

theorem rows (h : a.Alike b) : (∃ labels labels', a.rows = .ok labels ∧ b.rows = .ok labels') ∨
    a.rows = .error .sessionClosed ∧ b.rows = .error .sessionClosed := by
  obtain ⟨file, connected⟩ := a
  obtain ⟨file', connected'⟩ := b
  obtain ⟨rfl, hfile⟩ : connected = connected' ∧ file.isSome = file'.isSome := h
  cases file with
  | none =>
    cases file' with
    | none => cases connected <;> exact .inr ⟨rfl, rfl⟩
    | some _ => cases hfile
  | some labels =>
    cases file' with
    | none => cases hfile
    | some labels' =>
      cases connected with
      | false => exact .inr ⟨rfl, rfl⟩
      | true => exact .inl ⟨labels, labels', rfl, rfl⟩

end Alike

/-- A store that can be read is connected to a file. -/
theorem rows_ok {labels : List (String × Label)} (h : a.rows = .ok labels) :
    a = ⟨some labels, true⟩ := by
  obtain ⟨file, connected⟩ := a
  unfold rows at h
  split at h
  · rename_i hconnected hfile
    obtain rfl := Except.ok.inj h
    rw [show connected = true from hconnected, show file = some _ from hfile]
  · cases h

theorem alike_upsert (a : AliasStore) (id kind name : String) :
    a.Alike (a.upsert id kind name).2 := by
  unfold upsert
  split
  · exact ⟨rfl, rfl⟩
  · rename_i labels h
    rw [rows_ok h]
    exact ⟨rfl, rfl⟩

theorem alike_remove (a : AliasStore) (id : String) : a.Alike (a.remove id).2 := by
  unfold remove
  split
  · exact ⟨rfl, rfl⟩
  · rename_i labels h
    rw [rows_ok h]
    exact ⟨rfl, rfl⟩

end AliasStore

/-! ## Requests without aliases -/

/-- The session with another alias store. -/
def Session.relabel (s : Session) (a : AliasStore) : Session := { s with aliases := a }

theorem StringSearch.scanTypes_relabel (q : StringSearch) (s : Session) (a : AliasStore)
    (e : Engine) (ts : List TypeId) (files : Files.Tree) :
    q.scanTypes (s.relabel a) e ts files = q.scanTypes s e ts files := by
  induction ts generalizing files with
  | nil => rfl
  | cons t ts ih =>
    have hscan : q.scanType (s.relabel a) e t files = q.scanType s e t files := rfl
    simp only [scanTypes, hscan, ih]

namespace Session

variable (s : Session) (a : AliasStore) (e : Engine) (files : Files.Tree) {r : Request}

theorem searchStrings_relabel (q : StringSearch) :
    (s.relabel a).searchStrings e q files = s.searchStrings e q files := by
  simp only [searchStrings, q.scanTypes_relabel]
  rfl

/-- **What needs no aliases does not see them.** -/
theorem runOn_relabel (h : r.needsAliases = false) :
    ((s.relabel a).runOn e files r).answer = (s.runOn e files r).answer := by
  cases r with
  | listTypes | listMethods _ | listFields _ | rename _ _ | removeRename _ | listRenames => cases h
  | searchStrings q => exact congrArg Prod.fst (s.searchStrings_relabel a e files q)
  | _ => rfl

theorem runOn_relabel_files (r : Request) :
    ((s.relabel a).runOn e files r).files = (s.runOn e files r).files := by
  cases r with
  | searchStrings q => exact congrArg Prod.snd (s.searchStrings_relabel a e files q)
  | _ => rfl

variable {s}

/-- What needs aliases that cannot be read is refused. -/
theorem runOn_closed (hrows : s.aliases.rows = .error .sessionClosed)
    (h : r.needsAliases = true) : (s.runOn e files r).answer = .error (.failed .sessionClosed) := by
  have hlabels : s.labels = .error (.failed .sessionClosed) := by
    simp only [labels, AliasStore.entries, hrows]
  cases r with
  | listTypes => simp only [runOn, Result.pure, listTypes, hlabels, bind, Except.bind]
  | listMethods t => simp only [runOn, Result.pure, listMethods, hlabels, bind, Except.bind]
  | listFields t => simp only [runOn, Result.pure, listFields, hlabels, bind, Except.bind]
  | rename id name =>
    simp only [runOn, Result.ofAliases, rename, AliasStore.upsert, hrows, ofStore]
  | removeRename id =>
    simp only [runOn, Result.ofAliases, removeRename, AliasStore.remove, hrows, ofStore]
  | listRenames => simp only [runOn, Result.pure, listRenames, AliasStore.entries, hrows, ofStore]
  | _ => cases h

/-- A request fails by the engine, or because the session is closed. -/
theorem runOn_error {abort : Abort} (h : (s.runOn e files r).answer = .error abort) :
    abort.failure.OfEngine ∨ abort.failure = .sessionClosed := by
  cases hrows : s.aliases.rows with
  | ok labels => exact .inl (runOn_fails e files hrows r abort h)
  | error f =>
    obtain rfl := AliasStore.rows_error hrows
    cases hneeds : r.needsAliases with
    | false =>
      have hopen : (s.relabel .fresh).aliases.rows = .ok [] := rfl
      exact .inl (runOn_fails e files hopen r abort ((s.runOn_relabel _ e files hneeds).trans h))
    | true =>
      obtain rfl := Except.error.inj ((runOn_closed e files hrows hneeds).symm.trans h)
      exact .inr rfl

/-- A request that lists entries is answered, where there are aliases, by a list of things that the
session has no part in, and the entries of the list overlay the aliases. -/
theorem exists_overlay {key : String} (h : r.operation.entriesKey? = some key) :
    ∃ (α : Type) (before : List (String × Json)) (entry : List (String × Label) → α → Json)
      (ident : α → String) (found : Except Abort (List α)), Overlays entry ident ∧
      Keyed.mapValues (Json.mapItems Json.withoutAlias) before = before ∧
      ∀ {s : Session} {labels : List (String × Label)}, s.aliases.rows = .ok labels →
        (s.runOn e files r).answer = s.overlay before key entry labels found := by
  rcases Request.of_entriesKey? h with ⟨rfl, rfl⟩ | ⟨t, rfl, rfl⟩ | ⟨t, rfl, rfl⟩
  · exact ⟨_, _, _, _, _, typeEntry_overlays, rfl, listTypes_eq_overlay⟩
  · exact ⟨_, _, _, _, _, methodEntry_overlays t, rfl, fun h => listMethods_eq_overlay h t⟩
  · exact ⟨_, _, _, _, _, fieldEntry_overlays t, rfl, fun h => listFields_eq_overlay h t⟩

/-! ## Sessions that differ in their aliases -/

/-- The session `t` is `s` with what its alias store holds replaced. -/
def Relabelled (s t : Session) : Prop := ∃ a, s.aliases.Alike a ∧ t = s.relabel a

namespace Relabelled

variable {t : Session} {key : String}

/-- **A request that shows no aliases gets the same answer whatever they are.** -/
theorem runOn_eq (h : s.Relabelled t) (hr : r.operation.showsAliases = false) :
    (s.runOn e files r).answer = (t.runOn e files r).answer := by
  obtain ⟨a, halike, rfl⟩ := h
  rcases Request.of_not_showsAliases hr with hneeds | ⟨id, name, rfl⟩
  · exact (s.runOn_relabel a e files hneeds).symm
  · rcases halike.rows with ⟨labels, labels', hs, ht⟩ | ⟨hs, ht⟩
    · have ht' : (s.relabel a).aliases.rows = .ok labels' := ht
      simp only [runOn, Result.ofAliases, rename, AliasStore.upsert, hs, ht']
    · exact (runOn_closed e files hs rfl).trans (runOn_closed e files ht rfl).symm

/-- **A request that lists entries gets the same answer but for their aliases.** -/
theorem runOn_unlabelled (h : s.Relabelled t) (hr : r.operation.entriesKey? = some key) :
    (s.runOn e files r).answer.map Output.unlabelled =
      (t.runOn e files r).answer.map Output.unlabelled := by
  obtain ⟨a, halike, rfl⟩ := h
  rcases halike.rows with ⟨labels, labels', hs, ht⟩ | ⟨hs, ht⟩
  · have ht' : (s.relabel a).aliases.rows = .ok labels' := ht
    obtain ⟨α, before, entry, ident, found, hentry, hbefore, hlist⟩ := exists_overlay e files hr
    rw [hlist hs, hlist ht', overlay_unlabelled hentry hbefore, overlay_unlabelled hentry hbefore]
    rfl
  · have hneeds := Request.needsAliases_of_entriesKey? hr
    rw [runOn_closed e files hs hneeds, runOn_closed e files ht hneeds]

/-- What a request leaves differs only in the aliases. -/
theorem runOn_alike (h : s.Relabelled t) (r : Request) :
    (s.runOn e files r).aliases.Alike (t.runOn e files r).aliases ∧
      (s.runOn e files r).files = (t.runOn e files r).files := by
  obtain ⟨a, halike, rfl⟩ := h
  refine ⟨?_, (s.runOn_relabel_files a e files r).symm⟩
  cases r with
  | rename id name =>
    exact ((s.aliases.alike_upsert id.text id.kind name).symm.trans halike).trans
      (a.alike_upsert id.text id.kind name)
  | removeRename id =>
    exact ((s.aliases.alike_remove id.text).symm.trans halike).trans (a.alike_remove id.text)
  | _ => exact halike

end Relabelled

/-- **The entries of a list show the aliases of the session.** -/
theorem runOn_shows {key : String} (hr : r.operation.entriesKey? = some key) {out : Output}
    (h : (s.runOn e files r).answer = .ok out) : ∃ labels items, s.aliases.rows = .ok labels ∧
      out.data.member? key = some (.array items) ∧ ∀ item ∈ items, item.Shows labels := by
  cases hrows : s.aliases.rows with
  | error f =>
    obtain rfl := AliasStore.rows_error hrows
    rw [runOn_closed e files hrows (Request.needsAliases_of_entriesKey? hr)] at h
    cases h
  | ok labels =>
    obtain ⟨α, before, entry, ident, found, hentry, -, hlist⟩ := exists_overlay e files hr
    obtain ⟨items, hitems, hshow⟩ := overlay_shows hentry ((hlist hrows).symm.trans h)
    exact ⟨labels, items, rfl, hitems, hshow⟩

/-! ## Running requests -/

theorem mapError_eq_ok_iff {x : Except Abort Output} {out : Output} :
    x.mapError Abort.failure = .ok out ↔ x = .ok out := by
  cases x with
  | error abort => exact ⟨fun h => (nomatch h), fun h => (nomatch h)⟩
  | ok out' =>
    exact ⟨fun h => congrArg Except.ok (Except.ok.inj h),
      fun h => congrArg Except.ok (Except.ok.inj h)⟩

theorem mapError_eq_error_iff {x : Except Abort Output} {f : Failure} :
    x.mapError Abort.failure = .error f ↔ ∃ abort, x = .error abort ∧ abort.failure = f := by
  cases x with
  | error abort =>
    refine ⟨fun h => ⟨abort, rfl, Except.error.inj h⟩, ?_⟩
    rintro ⟨abort', h, rfl⟩
    exact congrArg (Except.mapError Abort.failure) h
  | ok out =>
    refine ⟨fun h => (nomatch h), ?_⟩
    rintro ⟨abort, h, -⟩
    cases h

theorem run_of_none (h : s.engine = none) (files : Files.Tree) (r : Request) :
    s.run files r = (.error .sessionClosed, s, files) := by
  simp only [run, h]

/-- An answer is one of the engine. -/
theorem answer_of_run_eq_ok {out : Output} (h : (s.run files r).1 = .ok out) :
    ∃ e, (s.runOn e files r).answer = .ok out := by
  cases he : s.engine with
  | none =>
    rw [run_of_none he] at h
    cases h
  | some e =>
    rw [run_of_engine he] at h
    exact ⟨e, mapError_eq_ok_iff.1 h⟩

/-- A failure means that the session is closed, or comes from what breaks off the answer of the
engine. -/
theorem abort_of_run_eq_error {f : Failure} (h : (s.run files r).1 = .error f) :
    f = .sessionClosed ∨ ∃ e abort, (s.runOn e files r).answer = .error abort ∧
      abort.failure = f := by
  cases he : s.engine with
  | none =>
    rw [run_of_none he] at h
    exact .inl (Except.error.inj h).symm
  | some e =>
    rw [run_of_engine he] at h
    exact .inr ⟨e, mapError_eq_error_iff.1 h⟩

/-- The entries of a list that a request gives show the aliases of the session. -/
theorem run_shows {key : String} (hr : r.operation.entriesKey? = some key) {out : Output}
    (h : (s.run files r).1 = .ok out) : ∃ labels items, s.aliases.rows = .ok labels ∧
      out.data.member? key = some (.array items) ∧ ∀ item ∈ items, item.Shows labels := by
  obtain ⟨e, hanswer⟩ := answer_of_run_eq_ok files h
  exact runOn_shows e files hr hanswer

/-- A request that is run fails by the engine, or because the session is closed. -/
theorem run_error {f : Failure} (h : (s.run files r).1 = .error f) :
    f.OfEngine ∨ f = .sessionClosed := by
  rcases abort_of_run_eq_error files h with hclosed | ⟨e, abort, hanswer, rfl⟩
  · exact .inr hclosed
  · exact runOn_error e files hanswer

namespace Relabelled

variable {t : Session}

theorem touch (h : s.Relabelled t) (now : Nat) : (s.touch now).Relabelled (t.touch now) := by
  obtain ⟨a, halike, rfl⟩ := h
  exact ⟨a, halike, rfl⟩

theorem engine (h : s.Relabelled t) : t.engine = s.engine := by
  obtain ⟨a, -, rfl⟩ := h
  rfl

theorem run_eq (h : s.Relabelled t) (hr : r.operation.showsAliases = false) :
    (s.run files r).1 = (t.run files r).1 := by
  cases he : s.engine with
  | none => rw [run_of_none he, run_of_none (h.engine.trans he)]
  | some e =>
    rw [run_of_engine he, run_of_engine (h.engine.trans he)]
    exact congrArg (Except.mapError _) (h.runOn_eq e files hr)

theorem run_unlabelled {key : String} (h : s.Relabelled t)
    (hr : r.operation.entriesKey? = some key) :
    (s.run files r).1.map Output.unlabelled = (t.run files r).1.map Output.unlabelled := by
  have hswap : ∀ x : Except Abort Output, (x.mapError Abort.failure).map Output.unlabelled =
      (x.map Output.unlabelled).mapError Abort.failure := by
    intro x
    cases x <;> rfl
  cases he : s.engine with
  | none => rw [run_of_none he, run_of_none (h.engine.trans he)]
  | some e =>
    rw [run_of_engine he, run_of_engine (h.engine.trans he), hswap, hswap,
      h.runOn_unlabelled e files hr]

/-- What a request that is run leaves differs only in the aliases. -/
theorem run (h : s.Relabelled t) (r : Request) :
    (s.run files r).2.1.Relabelled (t.run files r).2.1 ∧
      (s.run files r).2.2 = (t.run files r).2.2 := by
  cases he : s.engine with
  | none =>
    rw [run_of_none he, run_of_none (h.engine.trans he)]
    exact ⟨h, rfl⟩
  | some e =>
    obtain ⟨hafter, hfiles⟩ := h.runOn_alike e files r
    rw [run_of_engine he, run_of_engine (h.engine.trans he)]
    obtain ⟨a, -, rfl⟩ := h
    exact ⟨⟨_, hafter, rfl⟩, hfiles⟩

end Relabelled

end Session
end DexQuery
