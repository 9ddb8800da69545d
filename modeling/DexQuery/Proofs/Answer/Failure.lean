import DexQuery.Session.Run

/-!
# How a question can fail

A question that reaches the engine of a session fails because what it is about is unknown or
because the engine failed, by an error or a panic. It never fails as malformed, and as long as
the aliases of the session can be read it never fails as closed (`runOn_fails`).

`Fails x` says this of an answer `x`; it is kept by every way in which answers are put together,
so each question is settled by its own steps.
-/

namespace DexQuery

/-- What the engine does not know or could not tell. -/
inductive Failure.OfEngine : Failure → Prop where
  | noType (id : String) : OfEngine (.typeNotFound id)
  | noMethod (id : String) : OfEngine (.methodNotFound id)
  | noField (id : String) : OfEngine (.fieldNotFound id)
  | noResource (name : String) : OfEngine (.resourceNotFound name)
  | noManifest : OfEngine .manifestUnavailable
  | failed (reason : String) : OfEngine (.engineFailed reason)

theorem Failure.OfEngine.ne_closed {f : Failure} (h : f.OfEngine) : f ≠ .sessionClosed := by
  rintro rfl
  cases h

/-- The answer, if it is broken off, is broken off by what the engine does not know or could not
tell. -/
def Fails {α : Type} (x : Except Abort α) : Prop := ∀ a, x = .error a → a.failure.OfEngine

namespace Fails

variable {α β : Type}

theorem ok (x : α) : Fails (.ok x : Except Abort α) := fun _ h => by cases h

theorem error {a : Abort} (h : a.failure.OfEngine) : Fails (.error a : Except Abort α) := by
  rintro _ ⟨⟩
  exact h

theorem panicked (message : String) : Fails (.error (.panicked message) : Except Abort α) :=
  error (.failed message)

theorem of_error {x : Except Abort α} (h : Fails x) {a : Abort} (hx : x = .error a) :
    Fails (.error a : Except Abort β) := error (h a hx)

theorem bind {x : Except Abort α} {f : α → Except Abort β} (hx : Fails x)
    (hf : ∀ y, Fails (f y)) : Fails (x >>= f) := by
  cases x with
  | error a => exact hx.of_error rfl
  | ok y => exact hf y

theorem ofFault (fault : Fault) : (Abort.ofFault fault).failure.OfEngine := by
  cases fault with
  | error causes => exact .failed _
  | panic message => exact .failed message

theorem ask (r : Reply α) : Fails (DexQuery.ask r) := by
  cases r with
  | error fault => exact error (ofFault fault)
  | ok x => exact ok x

theorem askKnown {missing : Failure} (h : missing.OfEngine) (r : Reply (Option α)) :
    Fails (DexQuery.askKnown missing r) := by
  rcases r with fault | _ | x
  · exact error (ofFault fault)
  · exact error h
  · exact ok x

end Fails

namespace Session

variable {s : Session} {rows : List (String × Label)} (e : Engine) (files : Files.Tree)

/-! ## Questions that read aliases -/

theorem labels_eq_ok (h : s.aliases.rows = .ok rows) : s.labels = .ok rows := by
  simp only [labels, AliasStore.entries, h]

theorem listTypes_fails (h : s.aliases.rows = .ok rows) : Fails (s.listTypes e) := by
  rw [listTypes, labels_eq_ok h]
  exact (Fails.ask _).bind fun _ => Fails.ok _

theorem listMethods_fails (h : s.aliases.rows = .ok rows) (t : TypeId) :
    Fails (s.listMethods e t) := by
  rw [listMethods, labels_eq_ok h]
  exact (Fails.askKnown (.noType _) _).bind fun _ => Fails.ok _

theorem listFields_fails (h : s.aliases.rows = .ok rows) (t : TypeId) :
    Fails (s.listFields e t) := by
  rw [listFields, labels_eq_ok h]
  exact (Fails.askKnown (.noType _) _).bind fun _ => Fails.ok _

theorem rename_fails (h : s.aliases.rows = .ok rows) (id : EntityId) (name : String) :
    Fails (s.rename id name).1 := by
  simp only [rename, AliasStore.upsert, h, ofStore]
  exact Fails.ok _

theorem removeRename_fails (h : s.aliases.rows = .ok rows) (id : EntityId) :
    Fails (s.removeRename id).1 := by
  simp only [removeRename, AliasStore.remove, h, ofStore]
  exact Fails.ok _

theorem listRenames_fails (h : s.aliases.rows = .ok rows) : Fails s.listRenames := by
  simp only [listRenames, AliasStore.entries, h, ofStore]
  exact Fails.ok _

/-! ## Questions that read unit texts -/

theorem unitText_fails (b : Bucket) (t : TypeId) : Fails (s.unitText e b t files).1 := by
  unfold unitText
  split
  · exact Fails.ok _
  · split
    · rename_i a ha
      exact (Fails.ask _).of_error ha
    · exact Fails.ok _
    · exact Fails.ok _

theorem decompileClass_fails (t : TypeId) : Fails (s.decompileClass e t files).1 := by
  unfold decompileClass
  split
  · rename_i a files' h
    exact (unitText_fails e files .source t).of_error (congrArg Prod.fst h)
  · split
    · exact Fails.ok _
    · split
      · rename_i a ha
        exact (Fails.askKnown (.noType _) _).of_error ha
      · exact Fails.ok _

theorem methodSource_fails (m : MethodId) (span : Source.Span) :
    Fails (s.methodSource e m span files).1 := by
  unfold methodSource
  split
  · exact Fails.ok _
  · split
    · rename_i a files' h
      exact (unitText_fails e files .source m.owner).of_error (congrArg Prod.fst h)
    · exact Fails.ok _

theorem decompileMethod_fails (m : MethodId) : Fails (s.decompileMethod e m files).1 := by
  unfold decompileMethod
  split
  · rename_i a ha
    exact (Fails.askKnown (.noMethod _) _).of_error ha
  · split
    · rename_i a files₁ h
      exact (methodSource_fails e files m _).of_error (congrArg Prod.fst h)
    · split
      · rename_i a files₂ h
        exact (unitText_fails e _ .disasm m.owner).of_error (congrArg Prod.fst h)
      · exact Fails.ok _

end Session

namespace StringSearch

variable (q : StringSearch) (s : Session) (e : Engine)

theorem attribution_fails (t : TypeId) (unit : String) : Fails (attribution e t unit) := by
  unfold attribution
  split
  · exact Fails.ok _
  · exact Fails.ok _
  · exact Fails.panicked _

theorem scanType_fails (t : TypeId) (files : Files.Tree) : Fails (q.scanType s e t files).1 := by
  unfold scanType
  split
  · exact Fails.panicked _
  · exact Fails.ok _
  · split
    · exact Fails.ok _
    · split
      · rename_i a ha
        exact (attribution_fails e t _).of_error ha
      · exact Fails.ok _

theorem scanTypes_fails (ts : List TypeId) (files : Files.Tree) :
    Fails (q.scanTypes s e ts files).1 := by
  induction ts generalizing files with
  | nil => exact Fails.ok _
  | cons t ts ih =>
    unfold scanTypes
    split
    · rename_i a files₁ h
      exact (scanType_fails q s e t files).of_error (congrArg Prod.fst h)
    · split
      · rename_i a files₂ h
        exact (ih _).of_error (congrArg Prod.fst h)
      · exact Fails.ok _

end StringSearch

namespace Session

variable {s : Session} {rows : List (String × Label)} (e : Engine) (files : Files.Tree)

theorem searchStrings_fails (q : StringSearch) : Fails (s.searchStrings e q files).1 := by
  unfold searchStrings
  split
  · rename_i a ha
    exact (Fails.ask _).of_error ha
  · split
    · rename_i a files' h
      exact (q.scanTypes_fails s e _ files).of_error (congrArg Prod.fst h)
    · exact Fails.ok _

/-! ## All questions -/

theorem annotations_fails (target : EntityId) : Fails (s.annotations e target) := by
  refine Fails.bind ?_ fun _ => Fails.ok _
  cases target with
  | type t => exact (Fails.askKnown (.noType _) _).bind fun _ => Fails.ok _
  | method m => exact Fails.askKnown (.noMethod _) _
  | field f => exact (Fails.askKnown (.noField _) _).bind fun _ => Fails.ok _

/-- **A question fails by the engine alone.** Whatever is asked of a session whose aliases can be
read, the answer is broken off only by what the engine does not know or could not tell. -/
theorem runOn_fails (h : s.aliases.rows = .ok rows) (r : Request) :
    Fails (s.runOn e files r).answer := by
  cases r with
  | listTypes => exact listTypes_fails e h
  | listMethods t => exact listMethods_fails e h t
  | listFields t => exact listFields_fails e h t
  | rename id name => exact rename_fails h id name
  | removeRename id => exact removeRename_fails h id
  | listRenames => exact listRenames_fails h
  | decompileClass t => exact decompileClass_fails e files t
  | decompileMethod m => exact decompileMethod_fails e files m
  | searchStrings q => exact searchStrings_fails e files q
  | annotations target => exact annotations_fails e target
  | hierarchy t =>
    exact (Fails.askKnown (.noType _) _).bind fun _ => (Fails.ask _).bind fun _ => Fails.ok _
  | listPackages | listResources | errorReport => exact (Fails.ask _).bind fun _ => Fails.ok _
  | dependencies t | listMethodsDetail t | classXrefs t =>
    exact (Fails.askKnown (.noType _) _).bind fun _ => Fails.ok _
  | xrefsTo m | xrefsFrom m | overrides m | unresolved m =>
    exact (Fails.askKnown (.noMethod _) _).bind fun _ => Fails.ok _
  | fieldXrefs f => exact (Fails.askKnown (.noField _) _).bind fun _ => Fails.ok _
  | manifest => exact (Fails.askKnown .noManifest _).bind fun _ => Fails.ok _
  | resourceContent name => exact (Fails.askKnown (.noResource _) _).bind fun _ => Fails.ok _
  | sessionInfo => exact Fails.ok _

end Session
end DexQuery
