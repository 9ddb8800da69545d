import DexQuery.Proofs.Operation.Renaming
import DexQuery.Proofs.Service.Atomic
import DexQuery.Proofs.Text.ByteOrder

/-!
# The names of a session are the fold of its renamings

A service keeps the names of a session in the rows of a store. What the rows are after any commands
follows from the calls alone: of the calls on the session take those that succeed and ask for a
renaming, in order (`Service.renamings`), and apply one after the other. That the rows show these
names (`Service.Recorded`) is kept by every command, and it is what the session tells of its names
(`Service.showsNames_performAll`).

A session that is held may be handed requests that no call has read, so the names such requests give
need not be well formed. They are left out here.
-/

namespace DexQuery

/-! ## Requests -/

namespace Session

variable {s : Session} {e : Engine} {files : Files.Tree} {rows : List (String × Label)}
  {r : Request} {g : Renaming}

/-- A request that asks for a renaming makes it in the rows, and no other changes them. -/
theorem rows_runOn (h : s.aliases.rows = .ok rows) (r : Request) :
    (s.runOn e files r).aliases.rows = .ok (r.renaming?.elim rows (·.store rows)) := by
  have hstore := AliasStore.rows_ok h
  cases r with
  | rename id name =>
    simp only [runOn, Result.ofAliases, Session.rename, AliasStore.upsert, hstore]
    rfl
  | removeRename id =>
    simp only [runOn, Result.ofAliases, Session.removeRename, AliasStore.remove, hstore]
    rfl
  | _ => exact h

/-- A request that asks for a renaming succeeds where the rows can be read. -/
theorem answer_runOn_of_renaming (h : s.aliases.rows = .ok rows) (hr : r.renaming? = some g) :
    ∃ out, (s.runOn e files r).answer = .ok out := by
  cases r with
  | rename id name =>
    simp only [runOn, Result.ofAliases, Session.rename, AliasStore.upsert, h]
    exact ⟨_, rfl⟩
  | removeRename id =>
    simp only [runOn, Result.ofAliases, Session.removeRename, AliasStore.remove, h]
    exact ⟨_, rfl⟩
  | _ => cases hr

end Session

/-- A store that has been released cannot be read. -/
theorem AliasStore.rows_release (a : AliasStore) : a.release.rows = .error .sessionClosed := by
  obtain ⟨file, connected⟩ := a
  cases connected <;> rfl

namespace Service

variable {v v' : Service} {id : String} {log : List Renaming} {p : Nat} {s : Session}

/-! ## Renamings of a session -/

/-- Whether the command is a request to a session that is held. -/
def Command.isHeld : Command → Bool
  | .held .. => true
  | _ => false

/-- The renaming that a command makes in the session with the id: what it asks for, if it is a call
on that session and succeeds. -/
def renamedBy (v : Service) (id : String) : Command → Option Renaming
  | .dispatch id' method args =>
    if id' = id ∧ (v.dispatch id method args).1.ok = true then Renaming.ofCall? method args
    else none
  | _ => none

/-- The renamings that commands make in the session with the id, one after the other. -/
def renamings (v : Service) (id : String) : List Command → List Renaming
  | [] => []
  | c :: cs => (v.renamedBy id c).toList ++ (v.perform c).renamings id cs

theorem renamedBy_eq_none_of_failed {method : String} {args : Json}
    (h : (v.dispatch id method args).1.ok = false) (id' : String) :
    v.renamedBy id' (.dispatch id method args) = none := by
  refine if_neg ?_
  rintro ⟨rfl, hok⟩
  rw [h] at hok
  cases hok

/-- In a session that is in use, a call makes the renaming that its request asks for. -/
theorem renamedBy_of_found (hv : v.Consistent) {method : String} {args : Json} {r : Request}
    (hr : Request.ofCall method args = .ok r) (hf : v.found? id = some (p, s)) :
    v.renamedBy id (.dispatch id method args) = r.renaming? := by
  cases hg : r.renaming? with
  | none =>
    rw [renamedBy, ← Request.renaming?_of_ofCall hr, hg, ite_self]
  | some g =>
    have hlive := hv.live_of_found hf
    obtain ⟨rows, hrows⟩ := hlive.rows
    obtain ⟨e, he⟩ := Option.isSome_iff_exists.1 hlive.engine
    obtain ⟨out, hout⟩ : ∃ out, ((s.touch v.clock).runOn e v.files r).answer = .ok out :=
      Session.answer_runOn_of_renaming hrows hg
    have hcall : (v.call id method args).1 = .ok out := by
      rw [(call_of_live hf hlive he hr).1, hout]
      rfl
    have hok : (v.dispatch id method args).1.ok = true := by
      simp only [dispatch, hcall, Envelope.ofResult, Envelope.success]
    rw [renamedBy, if_pos ⟨rfl, hok⟩, ← Request.renaming?_of_ofCall hr, hg]

/-! ## Rows that show the renamings -/

/-- The rows of the session with the id show what the renamings give, and there have been none as
long as the id has not been given away. -/
structure Recorded (v : Service) (id : String) (log : List Renaming) : Prop where
  proper : ∀ g ∈ log, g.Proper
  given : log ≠ [] → ∃ n < v.loaded.length, v.setup.ids n = id
  rows : ∀ p s rows, v.session? p = some s → s.id = id → s.aliases.rows = .ok rows →
    Keyed.Ascending rows ∧ ∀ k, Keyed.get? k rows = Renaming.names log k

namespace Recorded

theorem start (setup : Setup) (files : Files.Tree) (clock : Nat) (id : String) :
    (Service.start setup files clock).Recorded id [] where
  proper := by simp
  given h := absurd rfl h
  rows p s rows hs := by simp [session?, Service.start] at hs

/-- Where the sessions with the id can be read, they have the rows they had. -/
theorem of_rows (h : v.Recorded id log) (hsetup : v'.setup = v.setup)
    (hlength : v'.loaded.length = v.loaded.length)
    (hrows : ∀ p s rows, v'.session? p = some s → s.id = id → s.aliases.rows = .ok rows →
      ∃ s₀, v.session? p = some s₀ ∧ s₀.id = id ∧ s₀.aliases.rows = .ok rows) :
    v'.Recorded id log where
  proper := h.proper
  given hne := by
    rw [hsetup, hlength]
    exact h.given hne
  rows p s rows hs hid hr := by
    obtain ⟨s₀, hs₀, hid₀, hr₀⟩ := hrows p s rows hs hid hr
    exact h.rows p s₀ rows hs₀ hid₀ hr₀

theorem close (h : v.Recorded id log) (id' : String) : (v.close id').2.Recorded id log := by
  refine h.of_rows (close_setup v id') (length_close v id') fun p s rows hs hid hr => ?_
  rcases session?_close hs with hs | ⟨s₀, -, rfl⟩
  · exact ⟨s, hs, hid, hr⟩
  · rw [Session.close, AliasStore.rows_release] at hr
    cases hr

theorem closeEach (h : v.Recorded id log) (ids : List String) :
    (ids.foldl (fun v id => (v.close id).2) v).Recorded id log := by
  induction ids generalizing v with
  | nil => exact h
  | cons id' ids ih => exact ih (h.close id')

/-- A session that is new has no names yet, and its id has not been given away before. -/
theorem load (hv : v.Consistent) (h : v.Recorded id log) (path : String) (settings : Settings) :
    (v.load path settings).2.Recorded id log := by
  cases hload : v.load path settings with
  | mk result v' =>
    cases result with
    | error f =>
      obtain ⟨files, rfl⟩ := load_error hload
      exact h.of_rows rfl rfl fun p s rows hs hid hr => ⟨s, hs, hid, hr⟩
    | ok s =>
      obtain ⟨bytes, engine, count, files, -, -, -, rfl, rfl⟩ := load_ok hload
      refine ⟨h.proper, fun hne => ?_, fun p t rows ht hid hr => ?_⟩
      · obtain ⟨n, hn, hnid⟩ := h.given hne
        exact ⟨n, by simp [register]; omega, hnid⟩
      · rcases session?_register ht with ⟨-, rfl⟩ | ht
        · have hfresh : log = [] := by
            by_contra hne
            obtain ⟨n, hn, hnid⟩ := h.given hne
            exact absurd (hv.distinct (hnid.trans hid.symm)) (Nat.ne_of_lt hn)
          subst hfresh
          obtain rfl : [] = rows := Except.ok.inj hr
          exact ⟨Keyed.ascending_nil, fun _ => rfl⟩
        · exact h.rows p t rows ht hid hr

/-- What a request asks for is added to the renamings and made in the rows. -/
theorem get?_elim {rows : List (String × Label)} (hascending : Keyed.Ascending rows)
    (hget : ∀ k, Keyed.get? k rows = Renaming.names log k) (g? : Option Renaming) :
    Keyed.Ascending (g?.elim rows (·.store rows)) ∧
      ∀ k, Keyed.get? k (g?.elim rows (·.store rows)) = Renaming.names (log ++ g?.toList) k := by
  cases g? with
  | none =>
    rw [Option.toList_none, List.append_nil]
    exact ⟨hascending, hget⟩
  | some g =>
    rw [Option.toList_some, Renaming.names_concat]
    exact ⟨g.ascending_store hascending, g.get?_store hget⟩

/-- A call on a session in use makes in its rows what the request asks for. -/
theorem call_rows (hv : v.Consistent) {method : String} {args : Json} {r : Request}
    (hr : Request.ofCall method args = .ok r) (hf : v.found? id = some (p, s)) :
    ∃ s' rows files, (v.call id method args).2 =
        { v.setSession p s' with files := files, clock := v.clock + 1 } ∧ s'.id = s.id ∧
      s.aliases.rows = .ok rows ∧
      s'.aliases.rows = .ok (r.renaming?.elim rows (·.store rows)) := by
  have hlive := hv.live_of_found hf
  obtain ⟨rows, hrows⟩ := hlive.rows
  obtain ⟨e, he⟩ := Option.isSome_iff_exists.1 hlive.engine
  refine ⟨((s.touch v.clock).run v.files r).2.1, rows, ((s.touch v.clock).run v.files r).2.2,
    ?_, ?_, hrows, ?_⟩
  · rw [call_of_found hr hf]
  · exact ((s.touch v.clock).sameStage_run v.files r).id
  · rw [Session.run_of_engine (s := s.touch v.clock) he]
    exact Session.rows_runOn (s := s.touch v.clock) hrows r

theorem dispatch (hv : v.Consistent) (h : v.Recorded id log) (id' method : String) (args : Json) :
    (v.dispatch id' method args).2.Recorded id
      (log ++ (v.renamedBy id (.dispatch id' method args)).toList) := by
  have hstate : (v.dispatch id' method args).2 = (v.call id' method args).2 := rfl
  -- A call that is not read or finds no session fails and leaves the service as it is.
  have hrefused : ∀ f, v.call id' method args = (.error f, v) →
      (v.dispatch id' method args).2.Recorded id
        (log ++ (v.renamedBy id (.dispatch id' method args)).toList) := by
    intro f hcall
    have hfails : (v.dispatch id' method args).1.ok = false :=
      ok_dispatch_eq_false_iff.2 ⟨f, by rw [hcall]⟩
    rw [renamedBy_eq_none_of_failed hfails, Option.toList_none, List.append_nil, hstate, hcall]
    exact h
  cases hr : Request.ofCall method args with
  | error f => exact hrefused f (call_of_unread hr)
  | ok r =>
    cases hf : v.found? id' with
    | none => exact hrefused _ (call_of_not_found hr hf)
    | some found =>
      obtain ⟨p, s⟩ := found
      obtain ⟨-, hs⟩ := found?_eq_some_iff.1 hf
      have hsid : s.id = id' := hv.entries.id_of_found hf
      obtain ⟨s', rows, files, hcall, hid', hrows, hrows'⟩ := call_rows hv hr hf
      rw [hstate, hcall]
      by_cases hid : id' = id
      · subst hid
        rw [renamedBy_of_found hv hr hf]
        refine ⟨fun g hg => ?_, fun _ => ?_, fun q t trows ht htid htrows => ?_⟩
        · rcases List.mem_append.1 hg with hg | hg
          · exact h.proper g hg
          · exact Request.proper_of_ofCall hr (Option.mem_toList.1 hg)
        · exact ⟨p, by simpa [setSession] using session?_lt hs, (hv.ids p s hs).symm.trans hsid⟩
        · by_cases hq : p = q
          · subst hq
            obtain rfl : s' = t :=
              Option.some.inj ((session?_setSession_self (session?_lt hs) s').symm.trans ht)
            obtain rfl := Except.ok.inj (hrows'.symm.trans htrows)
            obtain ⟨hascending, hget⟩ := h.rows p s rows hs hsid hrows
            exact get?_elim hascending hget r.renaming?
          · have ht' : v.session? q = some t := (session?_setSession_of_ne hq s').symm.trans ht
            exact absurd (hv.place_unique hs ht' (hsid.trans htid.symm)) hq
      · have hnone : v.renamedBy id (.dispatch id' method args) = none :=
          if_neg fun hand => hid hand.1
        rw [hnone, Option.toList_none, List.append_nil]
        refine h.of_rows rfl (List.length_set ..) fun q t trows ht htid htrows => ?_
        by_cases hq : p = q
        · subst hq
          obtain rfl : s' = t :=
            Option.some.inj ((session?_setSession_self (session?_lt hs) s').symm.trans ht)
          exact absurd (hsid.symm.trans (hid'.symm.trans htid)) hid
        · exact ⟨t, (session?_setSession_of_ne hq s').symm.trans ht, htid, htrows⟩

/-- A command that makes no renaming in the session adds none. -/
theorem of_none {c : Command} (h : v'.Recorded id log) (hc : v.renamedBy id c = none) :
    v'.Recorded id (log ++ (v.renamedBy id c).toList) := by
  rw [hc, Option.toList_none, List.append_nil]
  exact h

/-- Every command but a request to a session that is held keeps the rows what the renamings give. -/
theorem perform (hv : v.Consistent) (h : v.Recorded id log) {c : Command}
    (hc : c.isHeld = false) : (v.perform c).Recorded id (log ++ (v.renamedBy id c).toList) := by
  cases c with
  | dispatch id' method args => exact h.dispatch hv id' method args
  | load path settings => exact (h.load hv path settings).of_none rfl
  | held place r => cases hc
  | close id' => exact (h.close id').of_none rfl
  | closeAll => exact (h.closeEach (Keyed.keys v.registered)).of_none rfl
  | change files =>
    have hsame : ({ v with files := files } : Service).Recorded id log :=
      h.of_rows rfl rfl fun p s rows hs hid hr => ⟨s, hs, hid, hr⟩
    exact hsame.of_none rfl

theorem performAll (hv : v.Consistent) (h : v.Recorded id log) {cs : List Command}
    (hcs : ∀ c ∈ cs, c.isHeld = false) :
    (v.performAll cs).Recorded id (log ++ v.renamings id cs) := by
  induction cs generalizing v log with
  | nil =>
    rw [renamings, List.append_nil]
    exact h
  | cons c cs ih =>
    obtain ⟨hc, hcs⟩ := List.forall_mem_cons.1 hcs
    rw [renamings, ← List.append_assoc]
    exact ih (hv.perform c) (h.perform hv hc) hcs

end Recorded

/-! ## What a session tells of its names -/

/-- The open session with the id tells that its names are `m`. -/
structure ShowsNames (v : Service) (id : String) (m : Names) : Prop where
  /-- The list holds every name once, in the order of the bytes of the descriptors. -/
  listed : ∀ members, ∃ rows : List (String × Label),
    (v.dispatch id "list_renames" (.object members)).1 =
        .success "list_renames" (.object members) (.plain (.ofMembers
          [("session_id", .string id), ("renames", .listOf Session.renameEntry rows)])) ∧
      rows.Pairwise (fun a b => Text.bytes a.1 < Text.bytes b.1) ∧
      ∀ k l, (k, l) ∈ rows ↔ m k = some l
  /-- Taking a name away reports whether there was one. -/
  removed : ∀ args target, Renaming.ofCall? "remove_rename" args = some (.take target) →
    (v.dispatch id "remove_rename" args).1 =
      .success "remove_rename" args (.plain (.ofMembers [("id", .string target.text),
        ("removed", .bool (m target.text).isSome),
        ("status", .string (if (m target.text).isSome then "ok" else "not_found"))]))
  /-- Keys are descriptors that are read as what they are descriptors of, kinds are those of what
  is read, and names are trimmed and not empty. -/
  wellNamed : Renaming.WellNamed m

theorem Recorded.showsNames (hv : v.Consistent) (h : v.Recorded id log)
    (hopen : v.place? id ≠ none) : v.ShowsNames id (Renaming.names log) := by
  obtain ⟨p, hp⟩ := Option.ne_none_iff_exists'.1 hopen
  obtain ⟨s, hs, hsid, hlive⟩ := hv.live_of_place hp
  have hf : v.found? id = some (p, s) := found?_eq_some_iff.2 ⟨hp, hs⟩
  obtain ⟨e, he⟩ := Option.isSome_iff_exists.1 hlive.engine
  obtain ⟨rows, hrows⟩ := hlive.rows
  obtain ⟨hascending, hget⟩ := h.rows p s rows hs hsid hrows
  refine ⟨fun members => ⟨rows, ?_, ?_, fun k l => ?_⟩, fun args target htake => ?_,
    Renaming.wellNamed_names h.proper⟩
  · have hcall := (call_of_live hf hlive he (Request.ofCall_listRenames members)).1
    have hlist : (s.touch v.clock).listRenames = .ok (.plain (.ofMembers
        [("session_id", .string id), ("renames", .listOf Session.renameEntry rows)])) := by
      rw [← hsid]
      exact congrArg (Session.ofStore _) hrows
    simp only [Service.dispatch, hcall, Session.runOn, Session.Result.pure, hlist]
    rfl
  · exact hascending.imp Text.bytes_lt_iff.2
  · rw [hascending.mem_iff, hget]
  · have hcall := (call_of_live hf hlive he (Request.ofCall_of_take htake)).1
    have hcontains : Keyed.contains target.text rows =
        (Renaming.names log target.text).isSome := by rw [Keyed.contains, hget]
    have hrows' : (s.touch v.clock).aliases.rows = .ok rows := hrows
    simp only [Service.dispatch, hcall, Session.runOn, Session.Result.ofAliases,
      Session.removeRename, AliasStore.remove, hrows', hcontains]
    rfl

/-- **The names of a session are the fold of its renamings.** After any commands, of which none is a
request to a session that is held, an open session lists exactly the names that come from the
successful renamings of that session, in order; a call that takes a name away reports whether there
was one; and every name is well formed. -/
theorem showsNames_performAll {setup : Setup} (hids : Function.Injective setup.ids)
    (files : Files.Tree) (clock : Nat) {cs : List Command} (hcs : ∀ c ∈ cs, c.isHeld = false)
    {id : String} (hopen : ((start setup files clock).performAll cs).place? id ≠ none) :
    ((start setup files clock).performAll cs).ShowsNames id
      (Renaming.names ((start setup files clock).renamings id cs)) := by
  have hv := Consistent.start hids files clock
  have h := (Recorded.start setup files clock id).performAll hv hcs
  exact h.showsNames (hv.performAll cs) hopen

/-- A session is loaded, and calls are made on it that rename a type, fail to, rename a field and
take the name of the type away. -/
def sampleRenames : List Command :=
  [.load "a" .default,
    .dispatch "" "rename" (.object [("alias", .string " Main\n"), ("id", .string "Lp/A;")]),
    .dispatch "" "rename" (.object [("alias", .string " "), ("id", .string "Lp/A;")]),
    .dispatch "" "rename" (.object [("alias", .string "tag"), ("id", .string "Lp/A;->t:I")]),
    .dispatch "" "remove_rename" (.object [("id", .string "Lp/A;")])]

/-- Of the four calls three have renamed something, and the session tells what they leave. -/
theorem showsNames_sample :
    (∀ c ∈ sampleRenames, c.isHeld = false) ∧
      (sample.performAll sampleRenames).place? "" ≠ none ∧
      sample.renamings "" sampleRenames =
        [.give (.type ⟨"p/A"⟩) "Main", .give (.field ⟨⟨"p/A"⟩, "t", "I"⟩) "tag",
          .take (.type ⟨"p/A"⟩)] ∧
      (sample.performAll sampleRenames).ShowsNames ""
        (Renaming.names (sample.renamings "" sampleRenames)) := by
  have hcs : ∀ c ∈ sampleRenames, c.isHeld = false := by
    simp [sampleRenames, Command.isHeld]
  have hopen : (sample.performAll sampleRenames).place? "" ≠ none := by decide +kernel
  exact ⟨hcs, hopen, by decide +kernel, showsNames_performAll sampleSetup_ids _ 0 hcs hopen⟩

end Service
end DexQuery
