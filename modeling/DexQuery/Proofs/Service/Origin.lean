import DexQuery.Proofs.Cache.Key
import DexQuery.Proofs.Service.Consistency
import DexQuery.Proofs.Service.Writes

/-!
# What sessions with one cache key are about

A session is made by one load, from the bytes that the artifact has at that moment, the version that
the engine of these bytes reports and the settings it is loaded with: its `Origin`. What a session
says of these is its `Stamp`. No other command changes a stamp, so the stamps of the sessions of a
service are those of the origins, in the order of loading (`stamps_perform`, `stamps_performAll`).

The key of a session is the digest of a text that determines the digest of the bytes, the version
and the settings. Hence two sessions with one key have one origin, or there are two different
messages at hand with one digest (`Origin.eq_or_collide`).
-/

namespace DexQuery

/-! ## Origins and stamps -/

/-- What a session is made from. -/
structure Origin where
  bytes : ByteArray
  version : String
  settings : Settings

instance : DecidableEq Origin
  | ⟨bytes, version, settings⟩, ⟨bytes', version', settings'⟩ =>
    decidable_of_iff (bytes.data = bytes'.data ∧ version = version' ∧ settings = settings')
      (by rw [Origin.mk.injEq, ByteArray.ext_iff])

/-- What a session says of its origin. -/
structure Stamp where
  artifactHash : String
  engineVersion : String
  settings : Settings
  cacheKey : String

def Session.stamp (s : Session) : Stamp :=
  ⟨s.artifactHash, s.engineVersion, s.settings, s.cacheKey⟩

namespace Origin

/-- The text that the cache key is the digest of. -/
def keyText (o : Origin) : String :=
  CacheKey.material (Sha256.hex o.bytes) o.version o.settings

def stamp (o : Origin) : Stamp :=
  ⟨Sha256.hex o.bytes, o.version, o.settings, CacheKey.of (Sha256.hex o.bytes) o.version o.settings⟩

/-- The digests that could make the key of one origin that of another. -/
def Collide (o o' : Origin) : Prop :=
  Sha256.Collide o.bytes o'.bytes ∨ Sha256.Collide o.keyText.toUTF8 o'.keyText.toUTF8

/-- Origins with one key are equal unless digests collide: first the texts of the keys are equal,
then the digests of the artifacts, then the artifacts. -/
theorem eq_or_collide {o o' : Origin} (h : o.stamp.cacheKey = o'.stamp.cacheKey) :
    o = o' ∨ o.Collide o' := by
  obtain htext | hcollide := Sha256.eq_or_collide h
  · have hparts := (CacheKey.material_eq_iff (Sha256.bar_notMem_hex _)
      (Sha256.bar_notMem_hex _)).1 (String.toByteArray_inj.1 htext)
    obtain ⟨hhash, hversion, hsettings⟩ := hparts
    obtain hbytes | hcollide := Sha256.eq_or_collide hhash
    · cases o
      cases o'
      rw [mk.injEq]
      exact .inl ⟨hbytes, hversion, hsettings⟩
    · exact .inr (.inl hcollide)
  · exact .inr (.inr hcollide)

end Origin

namespace Service

variable {v : Service}

/-! ## Origins of a run -/

/-- What a load makes a session from, if it makes one. -/
def origin? (v : Service) (path : String) (settings : Settings) : Option Origin :=
  match v.artifactBytes path with
  | .error _ => none
  | .ok bytes =>
    match v.buildEngine path bytes settings with
    | .error _ => none
    | .ok (engine, _) =>
      match v.files.makeDirs v.setup.aliasDir with
      | (.error _, _) => none
      | (.ok (), _) => some ⟨bytes, engine.version, settings⟩

/-- The origin of the session that a command makes, if it makes one. -/
def originOf? (v : Service) : Command → Option Origin
  | .load path settings => v.origin? path settings
  | _ => none

/-- The origins of the sessions that a run makes, in the order of loading. -/
def origins (v : Service) : List Command → List Origin
  | [] => []
  | c :: cs => (v.originOf? c).toList ++ origins (v.perform c) cs

/-! ## Stamps of a run -/

/-- What the sessions of a service say of their origins, in the order of loading. -/
def stamps (v : Service) : List Stamp := v.loaded.map Session.stamp

theorem stamps_setSession {p : Nat} {s s' : Session} (hs : v.session? p = some s)
    (h : s'.stamp = s.stamp) : (v.setSession p s').stamps = v.stamps :=
  map_setSession Session.stamp hs h

/-- A session that a load makes says what it was made from. -/
theorem stamps_load (v : Service) (path : String) (settings : Settings) :
    (v.load path settings).2.stamps =
      v.stamps ++ (v.origin? path settings).toList.map Origin.stamp := by
  simp only [load, origin?]
  cases v.artifactBytes path with
  | error f => exact (List.append_nil _).symm
  | ok bytes =>
    dsimp only
    cases v.buildEngine path bytes settings with
    | error f => exact (List.append_nil _).symm
    | ok built =>
      dsimp only
      cases v.files.makeDirs v.setup.aliasDir with
      | mk made files =>
        cases made with
        | error e => exact (List.append_nil _).symm
        | ok _ => exact List.map_append

theorem stamps_call (v : Service) (id method : String) (args : Json) :
    (v.call id method args).2.stamps = v.stamps := by
  rcases v.call_effect id method args with
    ⟨f, hcall⟩ | ⟨r, p, s, aliases, files, -, hfound, hcall, -⟩
  · rw [hcall]
  · rw [hcall]
    exact stamps_setSession (found?_eq_some_iff.1 hfound).2 rfl

theorem stamps_runAt (v : Service) (p : Nat) (r : Request) :
    (v.runAt p r).2.stamps = v.stamps := by
  cases hs : v.session? p with
  | none => simp only [runAt, hs]
  | some s =>
    obtain ⟨aliases, hsession, -⟩ := s.run_effect v.files r
    rw [runAt_eq hs, hsession]
    exact stamps_setSession hs rfl

theorem stamps_close (v : Service) (id : String) : (v.close id).2.stamps = v.stamps := by
  cases hid : v.place? id with
  | none => rw [close_of_none hid]
  | some p =>
    rw [close_of_some hid]
    cases hs : v.session? p with
    | none =>
      exact congrArg (List.map Session.stamp)
        (List.modify_eq_self (List.getElem?_eq_none_iff.1 hs))
    | some s =>
      have hset : v.loaded.modify p Session.close = (v.setSession p s.close).loaded := by
        rw [List.modify_eq_set_getElem?, show v.loaded[p]? = some s from hs]
        rfl
      exact (congrArg (List.map Session.stamp) hset).trans (stamps_setSession hs rfl)

theorem stamps_closeEach (v : Service) (ids : List String) :
    (ids.foldl (fun v id => (v.close id).2) v).stamps = v.stamps := by
  induction ids generalizing v with
  | nil => rfl
  | cons id ids ih => exact (ih (v.close id).2).trans (stamps_close v id)

/-- Only a load that makes a session adds a stamp, and no command changes one. -/
theorem stamps_perform (v : Service) (c : Command) :
    (v.perform c).stamps = v.stamps ++ (v.originOf? c).toList.map Origin.stamp := by
  cases c with
  | load path settings => exact stamps_load v path settings
  | dispatch id method args =>
    exact (stamps_call v id method args).trans (List.append_nil _).symm
  | held place r => exact (stamps_runAt v place r).trans (List.append_nil _).symm
  | close id => exact (stamps_close v id).trans (List.append_nil _).symm
  | closeAll => exact (stamps_closeEach v _).trans (List.append_nil _).symm
  | change files => exact (List.append_nil _).symm

theorem stamps_performAll (v : Service) (cs : List Command) :
    (v.performAll cs).stamps = v.stamps ++ (v.origins cs).map Origin.stamp := by
  induction cs generalizing v with
  | nil => exact (List.append_nil _).symm
  | cons c cs ih =>
    calc (v.performAll (c :: cs)).stamps
      _ = (v.perform c).stamps ++ ((v.perform c).origins cs).map Origin.stamp := ih (v.perform c)
      _ = v.stamps ++ (v.origins (c :: cs)).map Origin.stamp := by
        rw [stamps_perform, origins, List.map_append, List.append_assoc]

/-- A session of a service that began with none was made by a load of the run. -/
theorem exists_origin {cs : List Command} {p : Nat} {s : Session} (hv : v.loaded = [])
    (hs : (v.performAll cs).session? p = some s) :
    ∃ o, (v.origins cs)[p]? = some o ∧ s.stamp = o.stamp := by
  have hstamps : (v.performAll cs).stamps = (v.origins cs).map Origin.stamp := by
    rw [stamps_performAll, stamps, hv, List.map_nil, List.nil_append]
  have hat : (v.performAll cs).stamps[p]? = some s.stamp := by
    rw [stamps, List.getElem?_map, show (v.performAll cs).loaded[p]? = some s from hs,
      Option.map_some]
  rw [hstamps, List.getElem?_map] at hat
  obtain ⟨o, ho, hstamp⟩ := Option.map_eq_some_iff.1 hat
  exact ⟨o, ho, hstamp.symm⟩

/-! ## Sessions with one key -/

/-- **Cache keys keep apart what they stand for**: the text of a key determines its three parts as
long as the hashes hold no bar, and the version may be any text. So sessions of two runs, be they
runs of one service or of several, have one key only if they were made from the same bytes, engine
version and settings, or digests collide. -/
theorem cacheKeys_apart :
    (∀ (hash hash' version version' : String) (settings settings' : Settings),
      '|' ∉ hash.toList → '|' ∉ hash'.toList →
        (CacheKey.material hash version settings = CacheKey.material hash' version' settings' ↔
          (hash, version, settings) = (hash', version', settings'))) ∧
    ∀ (v v' : Service) (cs cs' : List Command) (p p' : Nat) (s s' : Session),
      v.loaded = [] → v'.loaded = [] →
      (v.performAll cs).session? p = some s → (v'.performAll cs').session? p' = some s' →
      s.cacheKey = s'.cacheKey →
        '|' ∉ s.artifactHash.toList ∧ '|' ∉ s'.artifactHash.toList ∧
          ∃ o o', (v.origins cs)[p]? = some o ∧ (v'.origins cs')[p']? = some o' ∧
            s.stamp = o.stamp ∧ s'.stamp = o'.stamp ∧ (o = o' ∨ o.Collide o') := by
  refine ⟨fun hash hash' version version' settings settings' h h' => ?_,
    fun v v' cs cs' p p' s s' hv hv' hs hs' hkey => ?_⟩
  · rw [CacheKey.material_eq_iff h h', Prod.mk.injEq, Prod.mk.injEq]
  · obtain ⟨o, ho, hstamp⟩ := exists_origin hv hs
    obtain ⟨o', ho', hstamp'⟩ := exists_origin hv' hs'
    have hhash : s.artifactHash = Sha256.hex o.bytes := congrArg Stamp.artifactHash hstamp
    have hhash' : s'.artifactHash = Sha256.hex o'.bytes := congrArg Stamp.artifactHash hstamp'
    have hkeys : o.stamp.cacheKey = o'.stamp.cacheKey := by
      rw [← hstamp, ← hstamp']
      exact hkey
    rw [hhash, hhash']
    exact ⟨Sha256.bar_notMem_hex _, Sha256.bar_notMem_hex _, o, o', ho, ho', hstamp, hstamp',
      Origin.eq_or_collide hkeys⟩

/-- The version may have bars in it; and an artifact that is loaded twice gives two sessions with
one key. -/
theorem cacheKeys_apart_sample :
    CacheKey.material "0a" "1|2" .default ≠ CacheKey.material "0a" "1" .default ∧
      ∃ s s', (sample.performAll [.load "a" .default, .load "a" .default]).session? 0 = some s ∧
        (sample.performAll [.load "a" .default, .load "a" .default]).session? 1 = some s' ∧
        s.cacheKey = s'.cacheKey ∧
        ∃ o o', (sample.origins [.load "a" .default, .load "a" .default])[0]? = some o ∧
          (sample.origins [.load "a" .default, .load "a" .default])[1]? = some o' ∧
          s.stamp = o.stamp ∧ s'.stamp = o'.stamp ∧ (o = o' ∨ o.Collide o') := by
  have hloaded :
      ((sample.performAll [.load "a" .default, .load "a" .default]).session? 0).isSome ∧
        ((sample.performAll [.load "a" .default, .load "a" .default]).session? 1).isSome := by
    decide +kernel
  have horigins : (sample.origins [.load "a" .default, .load "a" .default])[0]? =
      (sample.origins [.load "a" .default, .load "a" .default])[1]? := by decide +kernel
  obtain ⟨hfirst, hsecond⟩ := hloaded
  obtain ⟨s, hs⟩ := Option.isSome_iff_exists.1 hfirst
  obtain ⟨s', hs'⟩ := Option.isSome_iff_exists.1 hsecond
  have hkey : s.cacheKey = s'.cacheKey := by
    obtain ⟨o, ho, hstamp⟩ := exists_origin rfl hs
    obtain ⟨o', ho', hstamp'⟩ := exists_origin rfl hs'
    obtain rfl : o = o' := Option.some.inj (ho.symm.trans (horigins.trans ho'))
    exact congrArg Stamp.cacheKey (hstamp.trans hstamp'.symm)
  obtain ⟨htexts, hsessions⟩ := cacheKeys_apart
  obtain ⟨-, -, horigin⟩ := hsessions _ _ _ _ _ _ s s' rfl rfl hs hs' hkey
  refine ⟨fun h => ?_, s, s', hs, hs', hkey, horigin⟩
  have hparts := (htexts "0a" "0a" "1|2" "1" .default .default (by decide) (by decide)).1 h
  exact absurd (Prod.mk.inj (Prod.mk.inj hparts).2).1 (by decide)

end Service
end DexQuery
