import DexQuery.Proofs.Service.Consistency
import DexQuery.Engine.Snapshot

/-!
# The life of a session

Each session ever loaded is open or closed, and never both: open in the registry, by its status, by
its alias file and by the answers of its engine, or closed in all four respects at once. It is
closed once and for good, and the list of sessions and the closing of all agree with this.

The two situations are told apart by the stage of the session alone (`Consistent.isOpen_iff`,
`Consistent.isClosed_iff`), so what a command does to them is read off what it does to stages.
-/

namespace DexQuery
namespace Service

/-- Where the file of a session's alias store belongs. -/
def aliasPath (v : Service) (s : Session) : Files.Path := v.setup.aliasDir ++ [aliasFileName s.id]

/-- The session at a place is open: its id leads to it, it is active, its alias file exists, and a
caller who holds it is answered by its engine and never told that it is closed. -/
structure IsOpen (v : Service) (place : Nat) (s : Session) : Prop where
  session : v.session? place = some s
  registered : v.place? s.id = some place
  status : s.status = .active
  aliasFile : s.aliases.hasFile = true
  aliasNode : v.node? (v.aliasPath s) = some (.file aliasFileBytes)
  runs : ∃ e, s.engine = some e ∧ ∀ r,
    (v.runAt place r).1 = (s.runOn e v.files r).answer.mapError Abort.failure
  answers : ∀ r, (v.runAt place r).1 ≠ .error .sessionClosed

/-- The session at a place is closed: no id leads to it, its id is unknown, its status says so, its
alias file is gone, with at most somebody else's file in its place, and whatever a caller who holds
it asks fails as not found and changes nothing. -/
structure IsClosed (v : Service) (place : Nat) (s : Session) : Prop where
  session : v.session? place = some s
  unregistered : ∀ id, v.place? id ≠ some place
  unknown : v.place? s.id = none
  status : s.status = .closed
  aliasFile : s.aliases.hasFile = false
  aliasNode : v.node? (v.aliasPath s) = v.files.node? (v.aliasPath s)
  refuses : ∀ r, ∃ f, v.runAt place r = (.error f, v) ∧ f.code = .notFound

theorem aliasFileName_injective {id id' : String} (h : aliasFileName id = aliasFileName id') :
    id = id' := by
  have hlist := congrArg String.toList h
  simp only [aliasFileName, String.toList_append] at hlist
  exact String.toList_inj.1 (List.append_cancel_right hlist)

/-- A session with a file has it in the alias directory. -/
theorem node?_aliasPath {v : Service} {p : Nat} {s : Session} (hs : v.session? p = some s)
    (hfile : s.aliases.hasFile = true) :
    v.node? (v.aliasPath s) = some (.file aliasFileBytes) := by
  refine if_pos (List.any_eq_true.2 ⟨s, List.mem_of_getElem? hs, ?_⟩)
  rw [hfile, aliasPath]
  simp

namespace Consistent

variable {v : Service}

/-! ## Open and closed -/

/-- Where a session without a file would have it, no other session has one either. -/
theorem node?_aliasPath (h : v.Consistent) {p : Nat} {s : Session} (hs : v.session? p = some s)
    (hfile : s.aliases.hasFile = false) :
    v.node? (v.aliasPath s) = v.files.node? (v.aliasPath s) := by
  refine if_neg fun hany => ?_
  obtain ⟨t, ht, hat⟩ := List.any_eq_true.1 hany
  obtain ⟨hfile', heq⟩ := Bool.and_eq_true_iff.1 hat
  obtain ⟨q, hq⟩ := List.mem_iff_getElem?.1 ht
  have hname : aliasFileName s.id = aliasFileName t.id := by
    have := List.append_cancel_left (eq_of_beq heq)
    exact List.singleton_inj.1 this
  have hpq : p = q := h.place_unique hs hq (aliasFileName_injective hname)
  subst hpq
  obtain rfl := Option.some.inj (hs.symm.trans hq)
  exact absurd (hfile.symm.trans hfile') (by decide)

theorem isOpen_iff (h : v.Consistent) {p : Nat} {s : Session} :
    v.IsOpen p s ↔ v.session? p = some s ∧ s.Live := by
  constructor
  · intro ho
    refine ⟨ho.session, ?_⟩
    rcases h.stages p s ho.session with ⟨-, hl⟩ | ⟨hp, -⟩
    · exact hl
    · exact absurd ho.registered hp
  · rintro ⟨hs, hl⟩
    have hp : v.place? s.id = some p := by
      rcases h.stages p s hs with ⟨hp, -⟩ | ⟨-, hd⟩
      · exact hp
      · exact absurd (hl.active.symm.trans hd.closed) (by decide)
    obtain ⟨e, he⟩ := Option.isSome_iff_exists.1 hl.engine
    obtain ⟨rows, hrows⟩ := hl.aliases
    have hfile : s.aliases.hasFile = true := by rw [hrows]; rfl
    have hruns : ∀ r, (v.runAt p r).1 = (s.runOn e v.files r).answer.mapError Abort.failure :=
      fun r => by rw [runAt_eq hs, Session.run_of_engine he]
    refine ⟨hs, hp, hl.active, hfile, Service.node?_aliasPath hs hfile, ⟨e, he, hruns⟩,
      fun r hclosed => ?_⟩
    obtain ⟨rows', hrows'⟩ := hl.rows
    rw [hruns] at hclosed
    cases ha : (s.runOn e v.files r).answer with
    | ok out =>
      rw [ha] at hclosed
      cases hclosed
    | error a =>
      rw [ha] at hclosed
      exact (Session.runOn_fails e v.files hrows' r a ha).ne_closed (Except.error.inj hclosed)

theorem isClosed_iff (h : v.Consistent) {p : Nat} {s : Session} :
    v.IsClosed p s ↔ v.session? p = some s ∧ s.Dead := by
  constructor
  · intro hc
    refine ⟨hc.session, ?_⟩
    rcases h.stages p s hc.session with ⟨hp, -⟩ | ⟨-, hd⟩
    · exact absurd hp (hc.unregistered s.id)
    · exact hd
  · rintro ⟨hs, hd⟩
    have hun : ∀ id, v.place? id ≠ some p := by
      intro id hp
      obtain ⟨t, ht, -, hl⟩ := h.live_of_place hp
      obtain rfl := Option.some.inj (hs.symm.trans ht)
      exact absurd (hl.active.symm.trans hd.closed) (by decide)
    have hunknown : v.place? s.id = none := by
      refine Option.eq_none_iff_forall_ne_some.2 fun q hq => ?_
      obtain ⟨t, ht, hid, -⟩ := h.live_of_place hq
      exact hun s.id (h.place_unique ht hs hid ▸ hq)
    have hfile : s.aliases.hasFile = false := by rw [hd.aliases]; rfl
    refine ⟨hs, hun, hunknown, hd.closed, hfile, h.node?_aliasPath hs hfile, fun r => ?_⟩
    refine ⟨.sessionClosed, ?_, rfl⟩
    rw [runAt_eq hs, Session.run_of_dead hd, setSession_self hs]

/-- The registry leads to open sessions only. -/
theorem isOpen_of_place (h : v.Consistent) {id : String} {p : Nat} (hp : v.place? id = some p) :
    ∃ s, v.IsOpen p s ∧ s.id = id := by
  obtain ⟨s, hs, hid, hl⟩ := h.live_of_place hp
  exact ⟨s, h.isOpen_iff.2 ⟨hs, hl⟩, hid⟩

theorem place_ne_of_dead (h : v.Consistent) {p : Nat} {s : Session} (hs : v.session? p = some s)
    (hd : s.Dead) (id : String) : v.place? id ≠ some p :=
  (h.isClosed_iff.2 ⟨hs, hd⟩).unregistered id

/-! ## What commands do to the two situations -/

theorem session_closeEach_of_dead (h : v.Consistent) {p : Nat} {s : Session}
    (hs : v.session? p = some s) (hd : s.Dead) (ids : List String) :
    (ids.foldl (fun v id => (v.close id).2) v).session? p = some s := by
  induction ids generalizing v with
  | nil => exact hs
  | cons id ids ih =>
    refine ih (h.close id) ?_
    rw [session?_close_of_ne (h.place_ne_of_dead hs hd id), hs]

theorem session_load {v' : Service} {path : String} {settings : Settings}
    {result : Except Failure Session} (hload : v.load path settings = (result, v')) {p : Nat}
    {s : Session} (hs : v.session? p = some s) : v'.session? p = some s := by
  cases result with
  | error f =>
    obtain ⟨files, rfl⟩ := load_error hload
    exact hs
  | ok t =>
    obtain ⟨bytes, engine, count, files, -, -, -, rfl, rfl⟩ := load_ok hload
    have hs' : ({ v with files := files } : Service).session? p = some s := hs
    rw [session?_register_of_lt (session?_lt hs'), hs']

/-- A session that has ended never comes back, whatever is asked of the service. -/
theorem dead_perform (h : v.Consistent) {p : Nat} {s : Session} (hs : v.session? p = some s)
    (hd : s.Dead) (c : Command) : ∃ s', (v.perform c).session? p = some s' ∧ s'.Dead := by
  have hkeeps : ∀ {v' : Service}, v.Keeps v' → ∃ s', v'.session? p = some s' ∧ s'.Dead := by
    intro v' hk
    obtain ⟨s', hs', hstage⟩ := hk.sessions p s hs
    exact ⟨s', hs', hstage.dead hd⟩
  cases c with
  | load path settings => exact ⟨s, session_load rfl hs, hd⟩
  | dispatch id method args => exact hkeeps (keeps_call v id method args)
  | held place r => exact hkeeps (keeps_runAt v place r)
  | close id => exact ⟨s, (session?_close_of_ne (h.place_ne_of_dead hs hd id)).trans hs, hd⟩
  | closeAll => exact ⟨s, h.session_closeEach_of_dead hs hd _, hd⟩
  | change files => exact ⟨s, hs, hd⟩

theorem isClosed_performAll (h : v.Consistent) {p : Nat} {s : Session} (hc : v.IsClosed p s)
    (cs : List Command) : ∃ s', (v.performAll cs).IsClosed p s' := by
  induction cs generalizing v s with
  | nil => exact ⟨s, hc⟩
  | cons c cs ih =>
    obtain ⟨hs, hd⟩ := h.isClosed_iff.1 hc
    obtain ⟨s', hs', hd'⟩ := h.dead_perform hs hd c
    exact ih (h.perform c) ((h.perform c).isClosed_iff.2 ⟨hs', hd'⟩)

/-- An open session is closed by closing it or closing all, and by nothing else. -/
theorem isOpen_perform (h : v.Consistent) {p : Nat} {s : Session} (ho : v.IsOpen p s)
    {c : Command} (hclose : c ≠ .close s.id) (hall : c ≠ .closeAll) :
    ∃ s', (v.perform c).IsOpen p s' := by
  obtain ⟨hs, hl⟩ := h.isOpen_iff.1 ho
  have hkeeps : ∀ {v' : Service}, v.Keeps v' → ∃ s', v'.session? p = some s' ∧ s'.Live := by
    intro v' hk
    obtain ⟨s', hs', hstage⟩ := hk.sessions p s hs
    exact ⟨s', hs', hstage.live hl⟩
  have hlive : ∃ s', (v.perform c).session? p = some s' ∧ s'.Live := by
    cases c with
    | load path settings => exact ⟨s, session_load rfl hs, hl⟩
    | dispatch id method args => exact hkeeps (keeps_call v id method args)
    | held place r => exact hkeeps (keeps_runAt v place r)
    | close id =>
      have hne : v.place? id ≠ some p := by
        intro hp
        obtain ⟨t, ht, rfl⟩ := h.entries id p hp
        obtain rfl := Option.some.inj (hs.symm.trans ht)
        exact hclose rfl
      exact ⟨s, (session?_close_of_ne hne).trans hs, hl⟩
    | closeAll => exact absurd rfl hall
    | change files => exact ⟨s, hs, hl⟩
  obtain ⟨s', hs', hl'⟩ := hlive
  exact ⟨s', (h.perform c).isOpen_iff.2 ⟨hs', hl'⟩⟩

/-! ## Closing, closing all and listing -/

/-- Closing an id says yes exactly when it takes the session with that id from open to closed. -/
theorem close_eq_true_iff (h : v.Consistent) (id : String) :
    (v.close id).1 = true ↔
      ∃ p s, s.id = id ∧ v.IsOpen p s ∧ ∃ s', (v.close id).2.IsClosed p s' := by
  constructor
  · intro htrue
    cases hid : v.place? id with
    | none =>
      rw [close_of_none hid] at htrue
      cases htrue
    | some p =>
      obtain ⟨s, ho, hsid⟩ := h.isOpen_of_place hid
      obtain ⟨hs, hl⟩ := h.isOpen_iff.1 ho
      refine ⟨p, s, hsid, ho, s.close, ?_⟩
      exact (h.close id).isClosed_iff.2 ⟨session?_close_self hid hs, hl.close⟩
  · rintro ⟨p, s, rfl, ho, -⟩
    rw [close_of_some ho.registered]

theorem mem_registered_close (h : v.Consistent) {id : String} {e : String × Nat}
    (he : e ∈ (v.close id).2.registered) : e ∈ v.registered ∧ e.1 ≠ id := by
  cases hid : v.place? id with
  | none =>
    rw [close_of_none hid] at he
    refine ⟨he, ?_⟩
    rintro rfl
    have hget : v.place? e.1 = some e.2 := h.ascending.get?_of_mem he
    rw [hid] at hget
    cases hget
  | some p =>
    rw [close_of_some hid] at he
    simpa [Keyed.erase] using he

theorem mem_registered_closeEach (h : v.Consistent) {ids : List String} {e : String × Nat}
    (he : e ∈ (ids.foldl (fun v id => (v.close id).2) v).registered) :
    e ∈ v.registered ∧ e.1 ∉ ids := by
  induction ids generalizing v with
  | nil => exact ⟨he, List.not_mem_nil⟩
  | cons id ids ih =>
    obtain ⟨hmem, hids⟩ := ih (h.close id) he
    obtain ⟨hv, hne⟩ := h.mem_registered_close hmem
    exact ⟨hv, fun hmem => (List.mem_cons.1 hmem).elim hne hids⟩

theorem closeAll_registered (h : v.Consistent) : v.closeAll.registered = [] := by
  refine List.eq_nil_iff_forall_not_mem.2 fun e he => ?_
  obtain ⟨hv, hkeys⟩ := h.mem_registered_closeEach he
  exact hkeys (List.mem_map_of_mem hv)

/-- The places that the registry leads to: each once, and just those of open sessions. -/
theorem mem_places_iff (h : v.Consistent) {p : Nat} :
    p ∈ v.registered.map (·.2) ↔ ∃ s, v.IsOpen p s := by
  constructor
  · intro hp
    obtain ⟨⟨id, q⟩, he, rfl⟩ := List.mem_map.1 hp
    obtain ⟨s, ho, -⟩ := h.isOpen_of_place (h.ascending.get?_of_mem he)
    exact ⟨s, ho⟩
  · rintro ⟨s, ho⟩
    exact List.mem_map.2 ⟨(s.id, p), Keyed.mem_of_get? ho.registered, rfl⟩

theorem places_nodup (h : v.Consistent) : (v.registered.map (·.2)).Nodup := by
  rw [List.Nodup, List.pairwise_map]
  refine h.ascending.imp_of_mem fun {a b} ha hb hlt heq => ?_
  obtain ⟨s, hs, hsa⟩ := h.entries a.1 a.2 (h.ascending.get?_of_mem ha)
  obtain ⟨t, ht, htb⟩ := h.entries b.1 b.2 (h.ascending.get?_of_mem hb)
  rw [heq] at hs
  obtain rfl := Option.some.inj (hs.symm.trans ht)
  rw [← hsa, htb] at hlt
  exact String.lt_irrefl b.1 hlt

/-- The list of open sessions is, up to order, the sessions at the places of the registry. -/
theorem openSessions_perm (h : v.Consistent) :
    (v.openSessions.map some).Perm ((v.registered.map (·.2)).map v.session?) := by
  have hsome : ∀ l : List (String × Nat), (∀ e ∈ l, e ∈ v.registered) →
      (l.filterMap fun e => v.session? e.2).map some = (l.map (·.2)).map v.session? := by
    intro l hl
    induction l with
    | nil => rfl
    | cons e l ih =>
      have he : e ∈ v.registered := hl e (List.mem_cons_self ..)
      obtain ⟨s, hs, -⟩ := h.entries e.1 e.2 (h.ascending.get?_of_mem he)
      have htail := ih fun e' he' => hl e' (List.mem_cons_of_mem _ he')
      simp only [List.filterMap_cons, hs, List.map_cons, htail]
  rw [← hsome v.registered fun _ he => he]
  exact (List.mergeSort_perm _ _).map some

end Consistent

/-! ## The lifecycle -/

/-- What holds of the sessions of a service and of every way to go on from there. -/
structure Lifecycle (v : Service) : Prop where
  /-- A session that was ever loaded is open or closed, and not both. -/
  situation : ∀ p, p < v.loaded.length →
    ((∃ s, v.IsOpen p s) ∧ ¬ ∃ s, v.IsClosed p s) ∨ ((∃ s, v.IsClosed p s) ∧ ¬ ∃ s, v.IsOpen p s)
  /-- What is closed stays closed through all that follows. -/
  closedForGood : ∀ p s, v.IsClosed p s → ∀ cs, ∃ s', (v.performAll cs).IsClosed p s'
  /-- What is open stays open until it is closed by its id or with all others. -/
  openUntilClosed : ∀ p s, v.IsOpen p s → ∀ c, c ≠ .close s.id → c ≠ .closeAll →
    ∃ s', (v.perform c).IsOpen p s'
  /-- Closing says yes exactly when it takes the session with the id from open to closed. -/
  close : ∀ id, (v.close id).1 = true ↔
    ∃ p s, s.id = id ∧ v.IsOpen p s ∧ ∃ s', (v.close id).2.IsClosed p s'
  /-- The list of sessions has each open session once and no others. -/
  list : ∃ places : List Nat, places.Nodup ∧ (∀ p, p ∈ places ↔ ∃ s, v.IsOpen p s) ∧
    (v.openSessions.map some).Perm (places.map v.session?)
  /-- Closing all leaves nothing registered and nothing open. -/
  closeAll : v.closeAll.registered = [] ∧
    ∀ p, p < v.loaded.length → ∃ s, v.closeAll.IsClosed p s
  /-- A load that fails, at whatever stage, adds no session. -/
  loadFails : ∀ path settings f v', v.load path settings = (.error f, v') →
    v'.registered = v.registered ∧ v'.loaded = v.loaded
  /-- A load that succeeds gives one more session, which is open. -/
  loadSucceeds : ∀ path settings s v', v.load path settings = (.ok s, v') →
    v'.loaded.length = v.loaded.length + 1 ∧ ∃ s', v'.IsOpen v.loaded.length s' ∧ s'.id = s.id

namespace Consistent

variable {v : Service}

theorem situation (h : v.Consistent) {p : Nat} (hp : p < v.loaded.length) :
    ((∃ s, v.IsOpen p s) ∧ ¬ ∃ s, v.IsClosed p s) ∨
      ((∃ s, v.IsClosed p s) ∧ ¬ ∃ s, v.IsOpen p s) := by
  have hs : v.session? p = some v.loaded[p] := List.getElem?_eq_getElem hp
  have hnot : ∀ s t, v.IsOpen p s → ¬ v.IsClosed p t := fun s t ho hc =>
    hc.unregistered s.id ho.registered
  rcases h.stages p _ hs with ⟨-, hl⟩ | ⟨-, hd⟩
  · have ho := h.isOpen_iff.2 ⟨hs, hl⟩
    exact .inl ⟨⟨_, ho⟩, fun ⟨t, hc⟩ => hnot _ t ho hc⟩
  · have hc := h.isClosed_iff.2 ⟨hs, hd⟩
    exact .inr ⟨⟨_, hc⟩, fun ⟨t, ho⟩ => hnot t _ ho hc⟩

theorem closeAll_isClosed (h : v.Consistent) {p : Nat} (hp : p < v.loaded.length) :
    ∃ s, v.closeAll.IsClosed p s := by
  have hall : v.closeAll.Consistent := h.perform .closeAll
  have hp' : p < v.closeAll.loaded.length := by rwa [closeAll, length_closeEach]
  have hs : v.closeAll.session? p = some v.closeAll.loaded[p] := List.getElem?_eq_getElem hp'
  rcases hall.stages p _ hs with ⟨hreg, -⟩ | ⟨-, hd⟩
  · have hmem := Keyed.mem_of_get? hreg
    rw [h.closeAll_registered] at hmem
    cases hmem
  · exact ⟨_, hall.isClosed_iff.2 ⟨hs, hd⟩⟩

/-- The session that a load has registered is open. -/
theorem isOpen_load (h : v.Consistent) {path : String} {settings : Settings} {s : Session}
    {v' : Service} (hload : v.load path settings = (.ok s, v')) :
    v'.loaded.length = v.loaded.length + 1 ∧ ∃ s', v'.IsOpen v.loaded.length s' ∧ s'.id = s.id := by
  have hv' : v'.Consistent := by
    have := h.load path settings
    rwa [hload] at this
  obtain ⟨bytes, engine, count, files, -, -, -, rfl, rfl⟩ := load_ok hload
  have hs := session?_register_self { v with files := files }
    (v.newSession path bytes settings engine count)
  exact ⟨by simp [Service.register], _, hv'.isOpen_iff.2 ⟨hs, rfl, rfl, [], rfl⟩, rfl⟩

/-- Whatever agrees in the registry and in the stages of sessions goes through the lifecycle. -/
theorem lifecycle (h : v.Consistent) : v.Lifecycle where
  situation p hp := h.situation hp
  closedForGood p s hc cs := h.isClosed_performAll hc cs
  openUntilClosed p s ho c hclose hall := h.isOpen_perform ho hclose hall
  close id := h.close_eq_true_iff id
  list := ⟨_, h.places_nodup, fun _ => h.mem_places_iff, h.openSessions_perm⟩
  closeAll := ⟨h.closeAll_registered, fun _ hp => h.closeAll_isClosed hp⟩
  loadFails path settings f v' hload := by
    obtain ⟨files, rfl⟩ := load_error hload
    exact ⟨rfl, rfl⟩
  loadSucceeds path settings s v' hload := h.isOpen_load hload

end Consistent

/-- **Sessions go from open to closed, once and in all respects together**, under whatever commands
come in whatever order and however they end. -/
theorem lifecycle_performAll {setup : Setup} (hids : Function.Injective setup.ids)
    (files : Files.Tree) (clock : Nat) (cs : List Command) :
    ((start setup files clock).performAll cs).Lifecycle :=
  ((Consistent.start hids files clock).performAll cs).lifecycle

/-! ### A sample -/

/-- A setup for exports, with the alias directory inside the cache and ids `""`, `"x"`, `"xx"` and
so on. -/
def sampleSetup : Setup where
  factory := Export.factory
  cache := ⟨"/c", ["c"]⟩
  aliasDirText := "/c/aliases"
  aliasDir := ["c", "aliases"]
  home := none
  cwd := []
  ids n := String.ofList (List.replicate n 'x')

theorem sampleSetup_ids : Function.Injective sampleSetup.ids := by
  intro m n h
  have hlist := congrArg String.toList h
  simp only [sampleSetup, String.toList_ofList] at hlist
  simpa using congrArg List.length hlist

/-- An export with two types, of which the second has a name that no cache entry can have. -/
def sampleExport : String :=
  "\x7b\"engine_version\":\"1\",\"types\":[\x7b\"raw_name\":\"p/A\",\"source\":\"class A\"\x7d," ++
    "\x7b\"raw_name\":\"p//B\",\"source\":\"class B\"\x7d]\x7d"

/-- Files among which there is an export of the name `a`. -/
def sampleFiles : Files.Tree := ⟨[(["a"], .file sampleExport.toUTF8)]⟩

/-- A service that has loaded nothing yet. -/
def sample : Service := .start sampleSetup sampleFiles 0

/-- Two sessions are loaded and a third load fails; one session is closed, twice, while it is still
held. -/
theorem lifecycle_sample :
    Function.Injective sampleSetup.ids ∧
      (sample.performAll [.load "a" .default, .load "b" .default, .load "a" .default, .close "",
        .held 0 .sessionInfo, .close ""]).Lifecycle ∧
      ((sample.performAll [.load "a" .default, .load "b" .default, .load "a" .default, .close "",
        .held 0 .sessionInfo, .close ""]).openSessions.map (·.id)) = ["x"] :=
  ⟨sampleSetup_ids, lifecycle_performAll sampleSetup_ids _ 0 _, by decide +kernel⟩

end Service
end DexQuery
