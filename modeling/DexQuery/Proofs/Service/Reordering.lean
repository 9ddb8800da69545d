import DexQuery.Proofs.Service.Course

/-!
# Sessions about exports in another order

Sessions that are loaded from exports with the types in another order, with the same settings, are
twins (`LoadedFrom.twin`). In their courses they are told what they recite by themselves, and twins
give the same recital; so the same calls are answered alike in both courses, whatever else happens
in either (`told_reordered`).
-/

namespace DexQuery
namespace Service

/-- The order of the types makes no difference to a session that is new. -/
theorem LoadedFrom.twin {a b : Export.Artifact} {settings : Settings} {s t : Session}
    (hs : LoadedFrom a settings s) (ht : LoadedFrom b settings t) (h : a.Reordered b) :
    s.Twin t where
  aliases := ht.aliases.trans hs.aliases.symm
  provenance := by
    rw [ht.provenance, hs.provenance, h.rest]
  engines := ⟨a.engine, b.engine, hs.engine, ht.engine, h.interchangeable⟩

/-- **The order of the types in an export is not seen.** Sessions are loaded with the same settings
from two exports that differ in the order of their types alone, and the same calls are made on them,
those that set aliases among them. Then the calls are answered alike, but for warnings, for the id
of the session and for the information about the session itself. -/
theorem told_reordered (c c' : Course) (h : c.artifact.Reordered c'.artifact)
    (hsettings : c.settings = c'.settings) (hcalls : c.calls = c'.calls) :
    c.told.map Envelope.impersonal = c'.told.map Envelope.impersonal := by
  obtain ⟨s, hs, htold⟩ := c.told_eq_recital
  obtain ⟨s', hs', htold'⟩ := c'.told_eq_recital
  rw [← hsettings] at hs'
  rw [htold, htold', ← hcalls, (hs.twin hs' h).recital]

/-! ### A sample -/

/-- An export with two types. -/
def orderedExport : String :=
  "\x7b\"engine_version\":\"1\",\"types\":[\x7b\"raw_name\":\"A\",\"source\":\"a\"\x7d," ++
    "\x7b\"raw_name\":\"B\",\"access_flags\":[\"public\"]\x7d]\x7d"

/-- The export with the two types in the other order. -/
def turnedExport : String :=
  "\x7b\"engine_version\":\"1\",\"types\":[" ++
    "\x7b\"raw_name\":\"B\",\"access_flags\":[\"public\"]\x7d," ++
    "\x7b\"raw_name\":\"A\",\"source\":\"a\"\x7d]\x7d"

theorem read_orderedExport : Export.Artifact.read? orderedExport.toUTF8 =
    some (bareArtifact [bareEntry "A" [] none (some "a"), bareEntry "B" ["public"] none none]) := by
  with_unfolding_all rfl

theorem read_turnedExport : Export.Artifact.read? turnedExport.toUTF8 =
    some (bareArtifact [bareEntry "B" ["public"] none none, bareEntry "A" [] none (some "a")]) := by
  with_unfolding_all rfl

/-- A session about the first export has a service of its own. -/
def orderedData : Course.Data where
  setup := sampleSetup
  files := ⟨[(["a"], .file orderedExport.toUTF8)]⟩
  clock := 0
  before := []
  now := 0
  id := "x"
  path := "a"
  settings := .default
  artifact := bareArtifact [bareEntry "A" [] none (some "a"), bareEntry "B" ["public"] none none]
  later := [callAt 1 "x" "rename" [("id", .string "LA;"), ("alias", .string "Main")],
    callAt 2 "x" "list_types" [], callAt 3 "x" "get_hierarchy" [("type_id", .string "LB;")]]

/-- A session about the second export comes after another one, which is closed meanwhile. -/
def turnedData : Course.Data where
  setup := sampleSetup
  files := ⟨[(["b"], .file turnedExport.toUTF8)]⟩
  clock := 0
  before := [⟨0, "x", .load "b" .default⟩]
  now := 1
  id := "y"
  path := "b"
  settings := .default
  artifact := bareArtifact [bareEntry "B" ["public"] none none, bareEntry "A" [] none (some "a")]
  later := [callAt 2 "y" "rename" [("id", .string "LA;"), ("alias", .string "Main")],
    callAt 3 "x" "list_types" [], callAt 4 "y" "list_types" [], ⟨5, "", .close "x"⟩,
    callAt 6 "y" "get_hierarchy" [("type_id", .string "LB;")]]

theorem hashed_orderedData :
    hashed (start orderedData.setup orderedData.files orderedData.clock) orderedData.events =
      [.artifact orderedExport.toUTF8, .material (keyTextOf orderedExport)] := by
  with_unfolding_all rfl

theorem hashed_turnedData :
    hashed (start turnedData.setup turnedData.files turnedData.clock) turnedData.events =
      [.artifact turnedExport.toUTF8, .material (keyTextOf turnedExport),
        .artifact turnedExport.toUTF8, .material (keyTextOf turnedExport)] := by
  with_unfolding_all rfl

/-- A session is renamed in and asked. -/
def orderedCourse : Course where
  toData := orderedData
  factory := rfl
  empty := Cache.isEmpty_of_nodes (by decide)
  avoids := by decide +kernel
  noCollision := by
    rw [hashed_orderedData]
    exact .of_single orderedExport.toUTF8 (keyTextOf orderedExport) (by simp)
  read := ⟨_, by with_unfolding_all rfl, read_orderedExport⟩
  loaded := by decide +kernel
  called := by decide

set_option maxRecDepth 4096 in
/-- The same calls are made among others. -/
def turnedCourse : Course where
  toData := turnedData
  factory := rfl
  empty := Cache.isEmpty_of_nodes (by decide)
  avoids := by decide +kernel
  noCollision := by
    rw [hashed_turnedData]
    exact .of_single turnedExport.toUTF8 (keyTextOf turnedExport) (by simp)
  read := ⟨_, by with_unfolding_all rfl, read_turnedExport⟩
  loaded := by decide +kernel
  called := by decide

/-- Three calls succeed in both courses, and are answered alike. -/
theorem told_reordered_sample :
    orderedCourse.artifact.Reordered turnedCourse.artifact ∧
      orderedCourse.settings = turnedCourse.settings ∧
        orderedCourse.calls = turnedCourse.calls ∧
          orderedCourse.told.map Envelope.impersonal = turnedCourse.told.map Envelope.impersonal ∧
            orderedCourse.told.map (·.ok) = [true, true, true] := by
  have hartifact : orderedCourse.artifact.Reordered turnedCourse.artifact :=
    ⟨by decide, List.Perm.swap .., rfl⟩
  exact ⟨hartifact, rfl, rfl, told_reordered _ _ hartifact rfl rfl, by decide +kernel⟩

end Service
end DexQuery
