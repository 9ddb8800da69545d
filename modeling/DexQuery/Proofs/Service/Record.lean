import DexQuery.Proofs.Service.Course
import DexQuery.Proofs.Service.Listing
import DexQuery.Proofs.Session.Record

/-!
# One record for each type

What a session tells of a type of an export, at any time in its course, comes from one record: the
last entry of the export with the name of the type, with the access flags of the first
(`answersFrom_record`). Where no name is repeated this is the one entry of the type. Where one is,
it need not be any entry of the export (`not_answersFrom_twofold`).
-/

namespace DexQuery

/-! ## Sessions with another engine -/

namespace Session

theorem runOnUncached_withEngine (s : Session) (e e' : Engine) {r : Request}
    (hr : r ≠ .sessionInfo) : (s.withEngine e').runOnUncached e r = s.runOnUncached e r := by
  cases r with
  | sessionInfo => exact absurd rfl hr
  | _ => rfl

/-- An engine that gives the same answer gives the same reply. -/
theorem reply_withEngine {s : Session} {e e' : Engine} (he : s.engine = some e) {method : String}
    {args : Json} {r : Request} (hr : Request.ofCall method args = .ok r) (hinfo : r ≠ .sessionInfo)
    (hsame : s.runOnUncached e' r = s.runOnUncached e r) :
    ((s.withEngine e').reply method args).1 = (s.reply method args).1 := by
  have hreply : (s.withEngine e').runUncached r =
      ((s.runOnUncached e r).1.mapError Abort.failure,
        { s.withEngine e' with aliases := (s.runOnUncached e r).2 }) := by
    rw [runUncached_of_engine rfl, runOnUncached_withEngine s e' e' hinfo, hsame]
  simp only [reply, hr, hreply, runUncached_of_engine he]

/-! ## What is told of a declaration -/

/-- The members that tell how the type of an entry is declared. -/
def declared (t : TypeId) (e : Export.Entry) : List (String × Json) :=
  [("type_id", .string t.text),
    ("super_class", .optString (e.hierarchy.superClass.map Name.descriptorOfRaw)),
    ("interfaces", .strings (descriptors e.hierarchy.interfaces)),
    ("inner_classes", .strings (descriptors e.hierarchy.innerClasses)),
    ("access_flags", .strings e.summary.accessFlags),
    ("generic_parameters", .strings e.hierarchy.genericParameters),
    ("generic_super_class", .optString e.hierarchy.genericSuperClass),
    ("generic_interfaces", .strings e.hierarchy.genericInterfaces)]

variable {t : TypeId}

theorem keys_declared (t : TypeId) (e : Export.Entry) :
    ("session_id" :: "provenance" :: Keyed.keys (declared t e)).Nodup := by
  have hkeys : ["session_id", "provenance", "type_id", "super_class", "interfaces", "inner_classes",
      "access_flags", "generic_parameters", "generic_super_class", "generic_interfaces"].Nodup := by
    decide +kernel
  exact hkeys

theorem hierarchy_sole (s : Session) (a : Export.Artifact) {e : Export.Entry}
    (ht : t = ⟨e.summary.rawName⟩) :
    s.hierarchy (a.sole e).engine t = .ok (.plain (s.answer (declared t e))) := by
  have hknown : (a.sole e).engine.hierarchy t = .ok (some e.hierarchy) := by
    simp only [Export.Artifact.engine, Export.Artifact.entry?_sole ht, Option.map_some]
  have htypes : (a.sole e).engine.types = .ok [e.summary] := rfl
  have hflags : accessFlagsOf t.raw [e.summary] = e.summary.accessFlags := by
    rw [ht]
    simp [accessFlagsOf]
  simp only [hierarchy, hknown, htypes, askKnown, ask, bind, Except.bind, hflags]
  rfl

theorem reply_hierarchy {s : Session} {e : Engine} (he : s.engine = some e) {out : Output}
    (hout : s.hierarchy e t = .ok out) {method : String} {args : Json}
    (hr : Request.ofCall method args = .ok (.hierarchy t)) :
    (s.reply method args).1.data = some out.data := by
  simp only [reply, hr, runUncached_of_engine he, runOnUncached, runOn, Result.pure, hout]
  rfl

end Session

namespace Service

/-! ## Answers from one entry -/

/-- In the end of the course a call about the type or a member of it is answered, but for warnings,
as if the export held the entry alone. -/
def Course.AnswersFrom (c : Course) (t : TypeId) (e : Export.Entry) : Prop :=
  ∃ p s v, c.closing.access c.id = some (p, s, v) ∧ ∀ method args r x,
    Request.ofCall method args = .ok r → r.about? = some x → x.owner = t →
      (c.closing.dispatch c.id method args).1.silent =
        ((s.withEngine (c.artifact.sole e).engine).reply method args).1.silent

theorem Course.answersFrom_of_record? (c : Course) {t : TypeId} {e : Export.Entry}
    (h : c.artifact.record? t.raw = some e) : c.AnswersFrom t e := by
  obtain ⟨p, s, v, haccess, hengine, hanswer⟩ := c.dispatch_closing
  refine ⟨p, s, v, haccess, fun method args r x hr hx howner => ?_⟩
  subst howner
  have hinfo : r ≠ .sessionInfo := by
    rintro rfl
    cases hx
  have hsame := Session.runOnUncached_agreesAt (Export.Artifact.agreesAt_sole h) hx s
  rw [hanswer, Session.reply_withEngine hengine hr hinfo hsame]

/-- Two entries that answer all calls about a type agree in what is told of its declaration. -/
theorem Course.AnswersFrom.declared_eq {c : Course} {t : TypeId} {e e' : Export.Entry}
    (h : c.AnswersFrom t e) (h' : c.AnswersFrom t e') (ht : t = ⟨e.summary.rawName⟩)
    (ht' : t = ⟨e'.summary.rawName⟩) {method : String} {args : Json}
    (hr : Request.ofCall method args = .ok (.hierarchy t)) {k : String} {x x' : Json}
    (hx : (k, x) ∈ Session.declared t e) (hx' : (k, x') ∈ Session.declared t e') : x = x' := by
  obtain ⟨p, s, v, haccess, hanswers⟩ := h
  obtain ⟨p', s', v', haccess', hanswers'⟩ := h'
  obtain ⟨-, hs⟩ := Prod.mk.inj (Option.some.inj (haccess.symm.trans haccess'))
  obtain rfl := (Prod.mk.inj hs).1
  have hsilent := (hanswers method args _ (.type t) hr rfl rfl).symm.trans
    (hanswers' method args _ (.type t) hr rfl rfl)
  have hdata : ((s.withEngine (c.artifact.sole e).engine).reply method args).1.data =
      ((s.withEngine (c.artifact.sole e').engine).reply method args).1.data :=
    (congrArg Envelope.data hsilent :)
  rw [Session.reply_hierarchy rfl (Session.hierarchy_sole _ _ ht) hr,
    Session.reply_hierarchy rfl (Session.hierarchy_sole _ _ ht') hr] at hdata
  have hsame : s.answer (Session.declared t e) = s.answer (Session.declared t e') :=
    Option.some.inj hdata
  have hmember := member?_answer (s := s) hx (Session.keys_declared t e)
  rw [hsame, member?_answer hx' (Session.keys_declared t e')] at hmember
  exact (Option.some.inj hmember).symm

/-- The access flags of a type in the list of types are those of the first entry. -/
theorem accessFlagsOf_of_find? {a : Export.Artifact} {rawName : String} {first : Export.Entry}
    (h : a.types.find? (fun t => t.summary.rawName == rawName) = some first) :
    Session.accessFlagsOf rawName (a.types.map (·.summary)) = first.summary.accessFlags := by
  have hfound : (a.types.map (·.summary)).find? (fun t => t.rawName == rawName) =
      some first.summary := by
    rw [List.find?_map]
    exact congrArg (Option.map _) h
  simp only [Session.accessFlagsOf, hfound]

/-- **One record for each type.** What is told of a type that is known, at any time, is what the
last entry with its name tells, with the access flags of the first. If no name is repeated, this is
what one entry tells. -/
theorem answersFrom_record (c : Course) {t : TypeId} (h : (c.artifact.entry? t.raw).isSome = true) :
    ∃ first last, c.artifact.types.find? (fun e => e.summary.rawName == t.raw) = some first ∧
      c.artifact.entry? t.raw = some last ∧
      c.AnswersFrom t (last.flagged first.summary.accessFlags) ∧
      ((c.artifact.types.map fun e => e.summary.rawName).Nodup → c.AnswersFrom t last) := by
  obtain ⟨last, hlast⟩ := Option.isSome_iff_exists.1 h
  obtain ⟨hmem, hname⟩ := Export.Artifact.of_entry? hlast
  obtain ⟨first, hfirst⟩ := Option.isSome_iff_exists.1
    (List.find?_isSome (p := fun e : Export.Entry => e.summary.rawName == t.raw) |>.2
      ⟨last, hmem, by simp [hname]⟩)
  have hrecord : c.artifact.record? t.raw = some (last.flagged first.summary.accessFlags) := by
    rw [Export.Artifact.record?, hlast, accessFlagsOf_of_find? hfirst]
    rfl
  have hanswers := c.answersFrom_of_record? hrecord
  refine ⟨first, last, hfirst, hlast, hanswers, fun hdistinct => ?_⟩
  have hsame := (Export.Artifact.entry?_eq_find? hdistinct t.raw).trans hfirst
  obtain rfl := Option.some.inj (hlast.symm.trans hsame)
  exact hanswers

/-! ### A sample -/

/-- An export with two types of one name. -/
def twofoldExport : String :=
  "\x7b\"engine_version\":\"1\",\"types\":[\x7b\"raw_name\":\"A\",\"super_class\":\"X\"\x7d," ++
    "\x7b\"raw_name\":\"A\",\"access_flags\":[\"public\"]\x7d]\x7d"

/-- What it is read as. -/
def twofoldArtifact : Export.Artifact :=
  bareArtifact [bareEntry "A" [] (some "X") none, bareEntry "A" ["public"] none none]

-- The text is read in two steps, since to compute the whole at once takes far longer.
theorem read_twofoldExport :
    Export.Artifact.read? twofoldExport.toUTF8 = some twofoldArtifact := by
  have hdoc : Json.Document.read? twofoldExport.toUTF8.toList =
      some (.object [(some "engine_version", .string (some "1")), (some "types", .array [
        .object [(some "raw_name", .string (some "A")), (some "super_class", .string (some "X"))],
        .object [(some "raw_name", .string (some "A")),
          (some "access_flags", .array [.string (some "public")])]])]) := by
    with_unfolding_all rfl
  rw [Export.Artifact.read?, hdoc]
  with_unfolding_all rfl

/-- A session about the export is renamed in. -/
def twofoldData : Course.Data where
  setup := sampleSetup
  files := ⟨[(["a"], .file twofoldExport.toUTF8)]⟩
  clock := 0
  before := []
  now := 0
  id := "x"
  path := "a"
  settings := .default
  artifact := twofoldArtifact
  later := [callAt 1 "x" "rename" [("id", .string "LA;"), ("alias", .string "Main")]]

theorem hashed_twofoldData :
    hashed (start twofoldData.setup twofoldData.files twofoldData.clock) twofoldData.events =
      [.artifact twofoldExport.toUTF8, .material (keyTextOf twofoldExport)] := by
  decide +kernel

/-- The course of the session. -/
def twofoldCourse : Course where
  toData := twofoldData
  factory := rfl
  empty := Cache.isEmpty_of_nodes (by decide)
  avoids := by decide +kernel
  noCollision := by
    rw [hashed_twofoldData]
    exact .of_single twofoldExport.toUTF8 (keyTextOf twofoldExport) (by simp)
  read := ⟨_, by with_unfolding_all rfl, read_twofoldExport⟩
  loaded := by decide +kernel
  called := by decide

/-- The type is without the flags of the second entry and without the class above of the first. -/
theorem answersFrom_record_sample : (twofoldCourse.artifact.entry? "A").isSome = true ∧
    twofoldCourse.AnswersFrom ⟨"A"⟩ (bareEntry "A" [] none none) := by
  have hknown : (twofoldCourse.artifact.entry? "A").isSome = true := rfl
  obtain ⟨first, last, hfirst, hlast, hanswers, -⟩ :=
    answersFrom_record twofoldCourse (t := ⟨"A"⟩) hknown
  obtain rfl : bareEntry "A" [] (some "X") none = first := Option.some.inj hfirst
  obtain rfl : bareEntry "A" ["public"] none none = last := Option.some.inj hlast
  exact ⟨hknown, hanswers⟩

/-- The arguments of a call about the type. -/
def aboutA : Json := .ofMembers [("type_id", .string "LA;")]

/-- **A type need not be told as any entry has it.** The type is known, and no entry of the export
answers all calls about it. -/
theorem not_answersFrom_twofold : (twofoldCourse.artifact.entry? "A").isSome = true ∧
    ¬ ∃ e ∈ twofoldCourse.artifact.types, twofoldCourse.AnswersFrom ⟨"A"⟩ e := by
  refine ⟨rfl, ?_⟩
  rintro ⟨e, he, hanswers⟩
  have hcall : Request.ofCall "get_hierarchy" aboutA = .ok (.hierarchy ⟨"A"⟩) := by rfl
  have hrecord : twofoldCourse.AnswersFrom ⟨"A"⟩ (bareEntry "A" [] none none) :=
    twofoldCourse.answersFrom_of_record? rfl
  obtain rfl | rfl :
      e = bareEntry "A" [] (some "X") none ∨ e = bareEntry "A" ["public"] none none := by
    simpa [twofoldCourse, twofoldData, twofoldArtifact, bareArtifact] using he
  · have hsuper : Json.null = .string "LX;" :=
      hrecord.declared_eq hanswers rfl rfl hcall (k := "super_class") (.tail _ (.head _))
        (.tail _ (.head _))
    cases hsuper
  · have hflags : Json.strings [] = .strings ["public"] :=
      hrecord.declared_eq hanswers rfl rfl hcall (k := "access_flags")
        (.tail _ (.tail _ (.tail _ (.tail _ (.head _)))))
        (.tail _ (.tail _ (.tail _ (.tail _ (.head _)))))
    cases hflags

end Service
end DexQuery
