import DexQuery.Proofs.Operation.Arguments
import DexQuery.Proofs.Service.Refusal
import DexQuery.Proofs.Service.Overlay

/-!
# What calls write

An operation is declared to write or not to. One that is not leaves every alias store as it is, and
so does every call that fails; one that is changes, where it succeeds, one entry of one store, which
is that of the entity named in the call (`Service.dispatch_honest`). No call registers, closes or
revives a session.

The agreement of two stores at all identifiers but one is `AliasStore.AgreesOff`. What a call does
to a service at all is said by `Service.call_effect`.
-/

namespace DexQuery

/-! ## Stores that differ in one entry -/

/-- The stores have the same rows, in the same order, but for the one of `k`. -/
structure AliasStore.AgreesOff (k : String) (a a' : AliasStore) : Prop where
  connected : a'.connected = a.connected
  others : a'.file.map (Keyed.erase k) = a.file.map (Keyed.erase k)

namespace AliasStore

theorem AgreesOff.refl (k : String) (a : AliasStore) : a.AgreesOff k a := ⟨rfl, rfl⟩

theorem file_of_rows {a : AliasStore} {rows : List (String × Label)} (h : a.rows = .ok rows) :
    a.file = some rows := by
  unfold AliasStore.rows at h
  split at h
  · rename_i hfile
    rw [hfile, Except.ok.inj h]
  · cases h

theorem agreesOff_upsert (a : AliasStore) (id kind name : String) :
    a.AgreesOff id (a.upsert id kind name).2 := by
  unfold upsert
  split
  · exact .refl id a
  · rename_i rows hrows
    refine ⟨rfl, ?_⟩
    rw [file_of_rows hrows]
    exact congrArg some (Keyed.erase_insert_self ..)

theorem agreesOff_remove (a : AliasStore) (id : String) : a.AgreesOff id (a.remove id).2 := by
  unfold remove
  split
  · exact .refl id a
  · rename_i rows hrows
    refine ⟨rfl, ?_⟩
    rw [file_of_rows hrows]
    exact congrArg some (Keyed.erase_of_get?_eq_none (Keyed.get?_erase_self ..))

/-- Every other identifier has the alias it had. -/
theorem AgreesOff.get? {k : String} {a a' : AliasStore} (h : a.AgreesOff k a') {id : String}
    (hne : id ≠ k) : a'.get? id = a.get? id := by
  obtain ⟨file, connected⟩ := a
  obtain ⟨file', connected'⟩ := a'
  obtain ⟨rfl, hothers⟩ := h
  cases file with
  | none =>
    obtain rfl : file' = none := by simpa using hothers
    rfl
  | some rows =>
    obtain ⟨rows', rfl, hrows⟩ := Option.map_eq_some_iff.1 hothers
    have hget : Keyed.get? id rows' = Keyed.get? id rows := by
      rw [← Keyed.get?_erase_of_ne (Ne.symm hne) rows', hrows,
        Keyed.get?_erase_of_ne (Ne.symm hne) rows]
    cases connected' with
    | false => rfl
    | true => exact congrArg Except.ok (congrArg (Option.map Label.name) hget)

end AliasStore

/-! ## Requests -/

namespace Session

variable {s : Session} {e : Engine} {files : Files.Tree} {r : Request}

/-- A request that renames nothing leaves the aliases alone. -/
theorem runOn_aliases_of_read (h : r.renamed? = none) :
    (s.runOn e files r).aliases = s.aliases := by
  cases r <;> first | rfl | cases h

/-- A request that fails leaves the aliases alone. -/
theorem runOn_aliases_of_error {a : Abort} (h : (s.runOn e files r).answer = .error a) :
    (s.runOn e files r).aliases = s.aliases := by
  cases r with
  | rename id name =>
    simp only [runOn, Result.ofAliases, rename, AliasStore.upsert] at h ⊢
    cases hrows : s.aliases.rows with
    | error f => rfl
    | ok rows =>
      simp only [hrows] at h
      cases h
  | removeRename id =>
    simp only [runOn, Result.ofAliases, removeRename, AliasStore.remove] at h ⊢
    cases hrows : s.aliases.rows with
    | error f => rfl
    | ok rows =>
      simp only [hrows] at h
      cases h
  | _ => rfl

/-- A request changes no entry but that of the entity it renames. -/
theorem runOn_aliases_agreesOff {target : EntityId} (h : r.renamed? = some target) :
    s.aliases.AgreesOff target.text (s.runOn e files r).aliases := by
  cases r with
  | rename id name =>
    obtain rfl := Option.some.inj h
    exact s.aliases.agreesOff_upsert ..
  | removeRename id =>
    obtain rfl := Option.some.inj h
    exact s.aliases.agreesOff_remove ..
  | _ => cases h

/-- What running a request does to the session: at most its aliases change, and they do so only
where the request succeeds. -/
theorem run_effect (s : Session) (files : Files.Tree) (r : Request) :
    ∃ aliases, (s.run files r).2.1 = { s with aliases := aliases } ∧
      (r.renamed? = none → aliases = s.aliases) ∧
      (∀ f, (s.run files r).1 = .error f → aliases = s.aliases) ∧
      ∀ target, r.renamed? = some target → s.aliases.AgreesOff target.text aliases := by
  obtain he | ⟨e, he⟩ := s.engine.eq_none_or_eq_some
  · rw [run_of_none he]
    exact ⟨s.aliases, rfl, fun _ => rfl, fun _ _ => rfl, fun _ _ => .refl ..⟩
  · rw [run_of_engine he]
    refine ⟨_, rfl, runOn_aliases_of_read, fun f hf => ?_, fun _ => runOn_aliases_agreesOff⟩
    obtain ⟨a, ha, -⟩ := mapError_eq_error_iff.1 hf
    exact runOn_aliases_of_error ha

end Session

/-! ## Calls -/

namespace Service

variable {v : Service} {p : Nat} {s s' : Session}

/-- What a call does: nothing if it cannot be read or finds no session, and else it touches the
session it finds and changes the aliases of that one at most. -/
theorem call_effect (v : Service) (id method : String) (args : Json) :
    (∃ f, v.call id method args = (.error f, v)) ∨
      ∃ r p s aliases files, Request.ofCall method args = .ok r ∧ v.found? id = some (p, s) ∧
        (v.call id method args).2 =
          { v.setSession p { s.touch v.clock with aliases := aliases } with
            files := files, clock := v.clock + 1 } ∧
        (r.renamed? = none → aliases = s.aliases) ∧
        (∀ f, (v.call id method args).1 = .error f → aliases = s.aliases) ∧
        ∀ target, r.renamed? = some target → s.aliases.AgreesOff target.text aliases := by
  cases hr : Request.ofCall method args with
  | error f => exact .inl ⟨f, call_of_unread hr⟩
  | ok r =>
    cases hf : v.found? id with
    | none => exact .inl ⟨_, call_of_not_found hr hf⟩
    | some found =>
      obtain ⟨p, s⟩ := found
      obtain ⟨aliases, hsession, hread, herror, hwrite⟩ :=
        (s.touch v.clock).run_effect v.files r
      refine .inr ⟨r, p, s, aliases, ((s.touch v.clock).run v.files r).2.2, rfl, rfl, ?_, hread,
        fun f h => ?_, hwrite⟩
      · rw [call_of_found hr hf, hsession]
      · rw [call_of_found hr hf] at h
        exact herror f h

/-- What is the same of a session and the one that replaces it is the same of all. -/
theorem map_setSession {α : Type} (f : Session → α) (hs : v.session? p = some s)
    (hf : f s' = f s) : (v.setSession p s').loaded.map f = v.loaded.map f := by
  obtain ⟨hlt, hget⟩ := List.getElem?_eq_some_iff.1 hs
  have hmap : p < (v.loaded.map f).length := by rwa [List.length_map]
  have hsame : f s' = (v.loaded.map f)[p] := by
    rw [List.getElem_map, hget, hf]
  rw [setSession, List.map_set, hsame, List.set_getElem_self]

/-- The same sessions are registered under the same ids, and each is at the stage it was. -/
structure SameLives (v v' : Service) : Prop where
  registered : v'.registered = v.registered
  stages : v'.loaded.map (fun s => (s.id, s.status)) = v.loaded.map fun s => (s.id, s.status)

/-- All alias stores are the same. -/
def SameAliases (v v' : Service) : Prop :=
  v'.loaded.map Session.aliases = v.loaded.map Session.aliases

/-- The alias stores are the same but for one entry: in the store of the session with the id, that
of the entity which the arguments name. -/
def RenamesAtMost (v v' : Service) (id : String) (args : Json) : Prop :=
  ∃ p s s' text target, v.found? id = some (p, s) ∧
    args.member? "id" = some (.string text) ∧ EntityId.read text = .ok target ∧
    v'.session? p = some s' ∧ s.aliases.AgreesOff target.text s'.aliases ∧
    ∀ q, q ≠ p → (v'.session? q).map Session.aliases = (v.session? q).map Session.aliases

/-- A call of the operation changes what its declaration lets it change. -/
structure Honest (v : Service) (id : String) (op : Operation) (args : Json) : Prop where
  /-- No call registers a session or takes it away, or changes its stage. -/
  lives : v.SameLives (v.dispatch id op.name args).2
  /-- An operation that is not declared to write leaves all aliases alone, however it ends. -/
  reads : op.declaration.isWrite = false → v.SameAliases (v.dispatch id op.name args).2
  /-- So does every call that fails. -/
  failed : (v.dispatch id op.name args).1.ok = false →
    v.SameAliases (v.dispatch id op.name args).2
  /-- A call that writes and succeeds changes the entry of the entity it names at most. -/
  writes : op.declaration.isWrite = true → (v.dispatch id op.name args).1.ok = true →
    v.RenamesAtMost (v.dispatch id op.name args).2 id args

theorem ok_dispatch_eq_false_iff {id method : String} {args : Json} :
    (v.dispatch id method args).1.ok = false ↔ ∃ f, (v.call id method args).1 = .error f := by
  simp only [dispatch]
  cases (v.call id method args).1 with
  | error f => simp [Envelope.ofResult, Envelope.failure]
  | ok out => simp [Envelope.ofResult, Envelope.success]

/-- A call that fails and leaves the service as it is is honest. -/
theorem Honest.of_unchanged {op : Operation} {id : String} {args : Json} {f : Failure}
    (h : v.call id op.name args = (.error f, v)) : v.Honest id op args := by
  have hsame : (v.dispatch id op.name args).2 = v := congrArg Prod.snd h
  have hfails : (v.dispatch id op.name args).1.ok = false :=
    ok_dispatch_eq_false_iff.2 ⟨f, by rw [h]⟩
  have haliases : v.SameAliases (v.dispatch id op.name args).2 := by
    rw [hsame]
    rfl
  refine ⟨?_, fun _ => haliases, fun _ => haliases, fun _ hok => ?_⟩
  · rw [hsame]
    exact ⟨rfl, rfl⟩
  · rw [hfails] at hok
    cases hok

/-- **The declaration of what writes is honest**: in every state, for every session and whatever the
arguments, a call changes no more than its operation says. -/
theorem dispatch_honest (v : Service) (id : String) (op : Operation) (args : Json) :
    v.Honest id op args := by
  have hstate : (v.dispatch id op.name args).2 = (v.call id op.name args).2 := rfl
  rcases v.call_effect id op.name args with
    ⟨f, hcall⟩ | ⟨r, p, s, aliases, files, hr, hfound, hcall, hread, herror, hwrite⟩
  · exact .of_unchanged hcall
  · obtain ⟨-, hs⟩ := found?_eq_some_iff.1 hfound
    rw [← Request.operation_of_ofCall hr]
    rw [← Request.operation_of_ofCall hr] at hstate hcall herror
    have hsame : aliases = s.aliases → v.SameAliases (v.dispatch id r.operation.name args).2 := by
      rintro rfl
      rw [hstate, hcall]
      exact map_setSession Session.aliases hs rfl
    constructor
    · rw [hstate, hcall]
      exact ⟨rfl, map_setSession (fun s => (s.id, s.status)) hs rfl⟩
    · rw [Request.isWrite_operation]
      intro h
      exact hsame (hread (Option.isNone_iff_eq_none.1 (Option.isSome_eq_false_iff.1 h)))
    · intro h
      obtain ⟨f, hf⟩ := ok_dispatch_eq_false_iff.1 h
      exact hsame (herror f hf)
    · intro hwrites _
      rw [Request.isWrite_operation] at hwrites
      obtain ⟨target, htarget⟩ := Option.isSome_iff_exists.1 hwrites
      obtain ⟨text, htext, hid⟩ := Request.renamed?_of_ofCall hr htarget
      refine ⟨p, s, { s.touch v.clock with aliases := aliases }, text, target, hfound, htext, hid,
        ?_, hwrite target htarget, fun q hq => ?_⟩
      · rw [hstate, hcall]
        exact session?_setSession_self (session?_lt hs) _
      · rw [hstate, hcall]
        exact congrArg (Option.map Session.aliases) (session?_setSession_of_ne (Ne.symm hq) _)

/-- A type is given an alias: the call succeeds, and the store of the one session has changed in the
entry of that type at most. -/
theorem dispatch_honest_sample :
    let args : Json := .object [("alias", .string "Main"), ("id", .string "Lp/A;")]
    (sampleLoaded.dispatch "" "rename" args).1.ok = true ∧
      sampleLoaded.SameLives (sampleLoaded.dispatch "" "rename" args).2 ∧
      sampleLoaded.RenamesAtMost (sampleLoaded.dispatch "" "rename" args).2 "" args := by
  intro args
  have hok : (sampleLoaded.dispatch "" "rename" args).1.ok = true := by decide +kernel
  have honest := dispatch_honest sampleLoaded "" .rename args
  exact ⟨hok, honest.lives, honest.writes rfl hok⟩

end Service
end DexQuery
