import DexQuery.Proofs.Answer.Failure
import DexQuery.Proofs.Keyed

/-!
# What aliases do to lists

Three questions list entries with their aliases. Every entry shows the alias of what it is about
(`Json.Shows`), and without the aliases of its entries (`Json.unlabelled`) an answer is the same
whatever the aliases are.

The three lists are one (`Session.overlay`), with the entry as a parameter of which no more is
needed than that it `Overlays` the aliases: `overlay_unlabelled` and `overlay_shows`.
-/

namespace DexQuery

/-! ## Entries -/

namespace Json

/-- An entry without its alias. -/
def withoutAlias : Json → Json
  | .object ms => .object (Keyed.erase "alias" ms)
  | j => j

/-- A list with something done to every item. -/
def mapItems (f : Json → Json) : Json → Json
  | .array js => .array (js.map f)
  | j => j

/-- An answer without the aliases of the entries of its lists. -/
def unlabelled : Json → Json
  | .object ms => .object (Keyed.mapValues (mapItems withoutAlias) ms)
  | j => j

/-- The entry shows the alias of its own identifier: the one that there is, or none. -/
def Shows (labels : List (String × Label)) (entry : Json) : Prop :=
  ∃ id, entry.member? "id" = some (.string id) ∧
    entry.member? "alias" = (Keyed.get? id labels).map fun l => .string l.name

end Json

/-- An output without the aliases of the entries of its lists. -/
def Output.unlabelled (o : Output) : Output := { o with data := o.data.unlabelled }

/-- The entry of a thing shows the alias of its identifier `ident`, and nothing else depends on the
aliases. -/
structure Overlays {α : Type} (entry : List (String × Label) → α → Json) (ident : α → String) :
    Prop where
  id : ∀ labels x, (entry labels x).member? "id" = some (.string (ident x))
  shown : ∀ labels x, (entry labels x).member? "alias" =
    (Keyed.get? (ident x) labels).map fun l => .string l.name
  rest : ∀ labels x, (entry labels x).withoutAlias = entry [] x

namespace Session

variable {α : Type} {labels : List (String × Label)} {id : String}

theorem ofList_aliasMember_of_none (h : Keyed.get? id labels = none)
    (base : List (String × Json)) :
    Keyed.ofList (base ++ aliasMember labels id) = Keyed.ofList base := by
  simp only [aliasMember, h, List.append_nil]

theorem ofList_aliasMember_of_some {l : Label} (h : Keyed.get? id labels = some l)
    (base : List (String × Json)) : Keyed.ofList (base ++ aliasMember labels id) =
      Keyed.insert "alias" (.string l.name) (Keyed.ofList base) := by
  simp only [aliasMember, h, Keyed.ofList_append_singleton]

/-- Of members with different names, none of them an alias, an alias behind them hides none. -/
theorem member?_of_mem {base : List (String × Json)} (hnames : ("alias" :: Keyed.keys base).Nodup)
    {k : String} {x : Json} (h : (k, x) ∈ base) :
    (Json.ofMembers (base ++ aliasMember labels id)).member? k = some x := by
  obtain ⟨hno, hnodup⟩ := List.nodup_cons.1 hnames
  have hfound := Keyed.get?_ofList_of_mem hnodup h
  simp only [Json.ofMembers, Json.member?]
  cases hl : Keyed.get? id labels with
  | none => rwa [ofList_aliasMember_of_none hl]
  | some l =>
    have hk : "alias" ≠ k := by
      rintro rfl
      exact hno (List.mem_map_of_mem h)
    rw [ofList_aliasMember_of_some hl, Keyed.get?_insert_of_ne hk, hfound]

/-- Members with different names, of which one is the identifier and none an alias, overlay the
aliases with an alias behind them. -/
theorem overlays_of_members (names : List String) {base : α → List (String × Json)}
    {ident : α → String} (hkeys : ∀ x, Keyed.keys (base x) = names)
    (hnames : ("alias" :: names).Nodup) (hid : ∀ x, ("id", Json.string (ident x)) ∈ base x) :
    Overlays (fun labels x => .ofMembers (base x ++ aliasMember labels (ident x))) ident where
  id labels x := member?_of_mem (hkeys x ▸ hnames) (hid x)
  shown labels x := by
    have hno : "alias" ∉ Keyed.keys (base x) := hkeys x ▸ (List.nodup_cons.1 hnames).1
    simp only [Json.ofMembers, Json.member?]
    cases hl : Keyed.get? (ident x) labels with
    | none =>
      rw [ofList_aliasMember_of_none hl]
      exact Keyed.get?_ofList_of_not_mem hno
    | some l =>
      rw [ofList_aliasMember_of_some hl]
      exact Keyed.get?_insert_self ..
  rest labels x := by
    have hno : "alias" ∉ Keyed.keys (base x) := hkeys x ▸ (List.nodup_cons.1 hnames).1
    have hrest := Keyed.erase_of_get?_eq_none (Keyed.get?_ofList_of_not_mem hno)
    simp only [Json.ofMembers, Json.withoutAlias, Json.object.injEq]
    rw [ofList_aliasMember_of_none (Keyed.get?_nil _)]
    cases hl : Keyed.get? (ident x) labels with
    | none => rwa [ofList_aliasMember_of_none hl]
    | some l =>
      rw [ofList_aliasMember_of_some hl, Keyed.erase_insert_self]
      exact hrest

theorem typeEntry_overlays : Overlays typeEntry fun t => (TypeId.mk t.rawName).text :=
  overlays_of_members ["id", "kind", "name", "full_name", "package", "access_flags"]
    (fun _ => rfl) (by decide) fun _ => List.mem_cons_self ..

theorem methodEntry_overlays (owner : TypeId) :
    Overlays (fun labels => methodEntry labels owner) fun m => (m.id owner).text :=
  overlays_of_members ["id", "name", "access_flags"] (fun _ => rfl) (by decide)
    fun _ => List.mem_cons_self ..

theorem fieldEntry_overlays (owner : TypeId) :
    Overlays (fun labels => fieldEntry labels owner) fun f => (f.id owner).text :=
  overlays_of_members ["id", "name", "type", "access_flags"] (fun _ => rfl) (by decide)
    fun _ => List.mem_cons_self ..

/-! ## Lists -/

/-- A list of things under a key, behind other members, as an answer. -/
def overlay (s : Session) (before : List (String × Json)) (key : String)
    (entry : List (String × Label) → α → Json) (labels : List (String × Label))
    (found : Except Abort (List α)) : Except Abort Output :=
  found.map fun xs => .plain (s.answer (before ++ [(key, .listOf (entry labels) xs)]))

variable {s : Session} {before : List (String × Json)} {key : String}
  {entry : List (String × Label) → α → Json} {ident : α → String} {found : Except Abort (List α)}

/-- Without the aliases a list is as if there were none. -/
theorem overlay_unlabelled (h : Overlays entry ident)
    (hbefore : Keyed.mapValues (Json.mapItems Json.withoutAlias) before = before) :
    (s.overlay before key entry labels found).map Output.unlabelled =
      s.overlay before key entry [] found := by
  cases found with
  | error a => rfl
  | ok xs =>
    have hitems : (Json.listOf (entry labels) xs).mapItems Json.withoutAlias =
        .listOf (entry []) xs := by
      simp only [Json.listOf, Json.mapItems, List.map_map]
      exact congrArg Json.array (List.map_congr_left fun x _ => h.rest labels x)
    have hmembers : Keyed.mapValues (Json.mapItems Json.withoutAlias)
        (before ++ [(key, .listOf (entry labels) xs)]) =
          before ++ [(key, .listOf (entry []) xs)] := by
      rw [Keyed.mapValues_append, hbefore, ← hitems]
      rfl
    refine congrArg (fun j => Except.ok (Output.plain j)) ?_
    refine congrArg Json.object ((Keyed.mapValues_ofList ..).trans ?_)
    exact congrArg (fun ms => Keyed.ofList
      (("session_id", .string s.id) :: ("provenance", s.provenance) :: ms)) hmembers

/-- Every entry of a list shows its alias. -/
theorem overlay_shows (h : Overlays entry ident) {out : Output}
    (hout : s.overlay before key entry labels found = .ok out) :
    ∃ items, out.data.member? key = some (.array items) ∧
      ∀ item ∈ items, item.Shows labels := by
  cases found with
  | error a => cases hout
  | ok xs =>
    obtain rfl := Except.ok.inj hout
    refine ⟨xs.map (entry labels), ?_, fun item hitem => ?_⟩
    · have hlast := Keyed.ofList_append_singleton (("session_id", .string s.id) ::
        ("provenance", s.provenance) :: before) key (.listOf (entry labels) xs)
      exact (congrArg (Keyed.get? key) hlast).trans (Keyed.get?_insert_self ..)
    · obtain ⟨x, -, rfl⟩ := List.mem_map.1 hitem
      exact ⟨ident x, h.id labels x, h.shown labels x⟩

/-! ## The three questions -/

variable {e : Engine}

theorem listTypes_eq_overlay (h : s.aliases.rows = .ok labels) :
    s.listTypes e = s.overlay [] "types" typeEntry labels ((ask e.types).map sortedTypes) := by
  rw [listTypes, labels_eq_ok h]
  cases ask e.types <;> rfl

theorem listMethods_eq_overlay (h : s.aliases.rows = .ok labels) (t : TypeId) :
    s.listMethods e t = s.overlay [("type_id", .string t.text)] "methods"
      (fun labels => methodEntry labels t) labels
      (askKnown (.typeNotFound t.text) (e.methods t)) := by
  rw [listMethods, labels_eq_ok h]
  cases askKnown (.typeNotFound t.text) (e.methods t) <;> rfl

theorem listFields_eq_overlay (h : s.aliases.rows = .ok labels) (t : TypeId) :
    s.listFields e t = s.overlay [("type_id", .string t.text)] "fields"
      (fun labels => fieldEntry labels t) labels
      (askKnown (.typeNotFound t.text) (e.fields t)) := by
  rw [listFields, labels_eq_ok h]
  cases askKnown (.typeNotFound t.text) (e.fields t) <;> rfl

end Session
end DexQuery
