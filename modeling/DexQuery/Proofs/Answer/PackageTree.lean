import DexQuery.Answer.Package
import DexQuery.Proofs.Answer.Grouping
import DexQuery.Proofs.Permuted

/-!
# What the packages of types are

The packages of an artifact are built by putting its types into a map one after the other. Each step
only adds: names of packages, packages below others, and types in them (`Package.Grown`). So what
comes out is told without the map (`Package.grown_ofTypes`), by what each type adds
(`TypeId.additions`), and it hangs on the order of the types only in the order of the types inside a
package, which are sorted when they are shown (`Package.toJson_ofTypes_of_perm`).
-/

namespace DexQuery

/-- What is added to packages: names of packages, packages below others, and types by package. -/
structure Package.Additions where
  names : String → Prop
  links : String → String → Prop
  types : String → List String

/-- What a type adds: its package with all packages around it, each below the next, and itself in
its package. A type in no package adds nothing. -/
def TypeId.additions (t : TypeId) : Package.Additions where
  names n := t.package ≠ "" ∧ (n ∈ Package.ancestry t.package ∨ n = t.package)
  links n m := t.package ≠ "" ∧
    (n, m) ∈ (Package.ancestry t.package).zip (Package.ancestry t.package).tail
  types n := if t.package ≠ "" ∧ n = t.package then [t.text] else []

namespace Package

/-- The package with a name, without content if there is none. -/
def named (n : String) (ps : List (String × Package)) : Package := (Keyed.get? n ps).getD empty

/-- The packages after `ps` are those with some additions. -/
structure Grown (ps ps' : List (String × Package)) (added : Additions) : Prop where
  ascending : Keyed.Ascending ps → Keyed.Ascending ps'
  below : (∀ n, Keyed.Ascending (named n ps).below) → ∀ n, Keyed.Ascending (named n ps').below
  names : ∀ n, (Keyed.get? n ps').isSome ↔ (Keyed.get? n ps).isSome ∨ added.names n
  links : ∀ n m, Keyed.contains m (named n ps').below ↔
    Keyed.contains m (named n ps).below ∨ added.links n m
  types : ∀ n, (named n ps').types = (named n ps).types ++ added.types n

variable {ps ps' ps'' : List (String × Package)} {added added' : Additions} {n k : String}

/-! ## One step -/

namespace Grown

theorem refl (ps : List (String × Package)) :
    Grown ps ps ⟨fun _ => False, fun _ _ => False, fun _ => []⟩ where
  ascending h := h
  below h := h
  names n := by simp
  links n m := by simp
  types n := by simp

theorem trans (h : Grown ps ps' added) (h' : Grown ps' ps'' added') :
    Grown ps ps'' ⟨fun n => added.names n ∨ added'.names n,
      fun n m => added.links n m ∨ added'.links n m,
      fun n => added.types n ++ added'.types n⟩ where
  ascending hps := h'.ascending (h.ascending hps)
  below hps := h'.below (h.below hps)
  names n := by rw [h'.names, h.names, or_assoc]
  links n m := by rw [h'.links, h.links, or_assoc]
  types n := by rw [h'.types, h.types, List.append_assoc]

/-- Additions may be said in other words, and a name that is there need not be added. -/
theorem congr (h : Grown ps ps' added)
    (hnames : ∀ n, (Keyed.get? n ps).isSome ∨ added.names n ↔
      (Keyed.get? n ps).isSome ∨ added'.names n)
    (hlinks : ∀ n m, added.links n m ↔ added'.links n m)
    (htypes : ∀ n, added.types n = added'.types n) : Grown ps ps' added' where
  ascending := h.ascending
  below := h.below
  names n := by rw [h.names, hnames]
  links n m := by rw [h.links, hlinks]
  types n := by rw [h.types, htypes]

end Grown

theorem named_alter (k : String) (f : Package → Package) (ps : List (String × Package))
    (n : String) : named n (Keyed.alter k (fun p => f (p.getD empty)) ps) =
      if n = k then f (named n ps) else named n ps := by
  by_cases h : n = k
  · subst h
    rw [named, Keyed.alter, Keyed.get?_insert_self, if_pos rfl]
    rfl
  · rw [named, Keyed.alter, Keyed.get?_insert_of_ne (Ne.symm h), if_neg h]
    rfl

/-- Changing one package adds its name, and to its content what the change adds. -/
theorem grown_alter (k : String) (f : Package → Package) (links : String → Prop)
    (types : List String) (hbelow : ∀ p : Package, Keyed.Ascending p.below →
      Keyed.Ascending (f p).below)
    (hlinks : ∀ (p : Package) m, Keyed.contains m (f p).below ↔
      Keyed.contains m p.below ∨ links m)
    (htypes : ∀ p : Package, (f p).types = p.types ++ types) :
    Grown ps (Keyed.alter k (fun p => f (p.getD empty)) ps)
      ⟨fun n => n = k, fun n m => n = k ∧ links m, fun n => if n = k then types else []⟩ where
  ascending h := h.insert ..
  below h n := by
    rw [named_alter]
    split
    · exact hbelow _ (h n)
    · exact h n
  names n := by
    by_cases hn : n = k
    · subst hn
      simp [Keyed.alter]
    · simp [Keyed.alter, Keyed.get?_insert_of_ne (Ne.symm hn), hn]
  links n m := by
    rw [named_alter]
    by_cases hn : n = k
    · simp [hn, hlinks]
    · simp [hn]
  types n := by
    rw [named_alter]
    by_cases hn : n = k
    · simp [hn, htypes]
    · simp [hn]

theorem contains_insert (k m : String) (b : List (String × Unit)) :
    Keyed.contains m (Keyed.insert k () b) ↔ Keyed.contains m b ∨ m = k := by
  by_cases h : m = k
  · subst h
    simp [Keyed.contains]
  · simp [Keyed.contains, Keyed.get?_insert_of_ne (Ne.symm h), h]

theorem grown_ensure (k : String) (ps : List (String × Package)) :
    Grown ps (ensure k ps) ⟨fun n => n = k, fun _ _ => False, fun _ => []⟩ := by
  have h : Grown ps (ensure k ps) _ := grown_alter k id (fun _ => False) [] (fun _ hp => hp)
    (fun p m => by simp) (fun p => by simp)
  exact h.congr (fun _ => .rfl) (fun n m => by simp) fun n => by simp

theorem grown_addBelow (parent child : String) (ps : List (String × Package)) :
    Grown ps (addBelow parent child ps)
      ⟨fun n => n = parent, fun n m => n = parent ∧ m = child, fun _ => []⟩ := by
  have h : Grown ps (addBelow parent child ps) _ :=
    grown_alter parent (fun p => { p with below := Keyed.insert child () p.below })
      (fun m => m = child) [] (fun p hp => hp.insert ..)
      (fun p m => contains_insert child m p.below) (fun p => by simp)
  exact h.congr (fun _ => .rfl) (fun _ _ => .rfl) fun n => by simp

/-! ## One type -/

/-- A chain of packages below one that is there adds its names, each below the one before. -/
theorem grown_addChain_some {p : String} {names : List String} (hp : (Keyed.get? p ps).isSome) :
    Grown ps (addChain (some p) names ps)
      ⟨fun n => n ∈ names, fun n m => (n, m) ∈ (p :: names).zip names, fun _ => []⟩ := by
  induction names generalizing p ps with
  | nil => exact (Grown.refl ps).congr (fun n => by simp) (fun n m => by simp) fun _ => rfl
  | cons c names ih =>
    have hlinked := grown_addBelow p c ps
    have hensured := grown_ensure c (addBelow p c ps)
    have hc : (Keyed.get? c (ensure c (addBelow p c ps))).isSome := (hensured.names c).2 (.inr rfl)
    refine ((hlinked.trans hensured).trans (ih hc)).congr (fun n => ?_) (fun n m => ?_) fun _ => rfl
    · -- The parent is there already, so its name is not added.
      have hparent : n = p → (Keyed.get? n ps).isSome := by
        rintro rfl
        exact hp
      simp only [List.mem_cons]
      tauto
    · simp only [List.zip_cons_cons, List.mem_cons, Prod.mk.injEq, or_false]

/-- A chain of packages adds its names, each but the first below the one before. -/
theorem grown_addChain (names : List String) (ps : List (String × Package)) :
    Grown ps (addChain none names ps)
      ⟨fun n => n ∈ names, fun n m => (n, m) ∈ names.zip names.tail, fun _ => []⟩ := by
  cases names with
  | nil => exact (Grown.refl ps).congr (fun n => by simp) (fun n m => by simp) fun _ => rfl
  | cons c names =>
    have hensured := grown_ensure c ps
    have hc : (Keyed.get? c (ensure c ps)).isSome := (hensured.names c).2 (.inr rfl)
    refine (hensured.trans (grown_addChain_some hc)).congr (fun n => ?_) (fun n m => ?_)
      fun _ => rfl
    · simp only [List.mem_cons]
    · simp only [false_or, List.tail_cons]

/-- A type adds what it adds, whatever packages there are. -/
theorem grown_addType (t : TypeId) (ps : List (String × Package)) :
    Grown ps (addType t ps) t.additions := by
  unfold addType
  by_cases h : t.package = ""
  · rw [if_pos h]
    exact (Grown.refl ps).congr (fun n => by simp [TypeId.additions, h])
      (fun n m => by simp [TypeId.additions, h]) fun n => by simp [TypeId.additions, h]
  · rw [if_neg h]
    have hlast := @grown_alter (addChain none (ancestry t.package) ps) t.package
      (fun p => { p with types := p.types ++ [t.text] }) (fun _ => False) [t.text]
      (fun _ hp => hp) (fun p m => by simp) (fun p => rfl)
    refine ((grown_addChain (ancestry t.package) ps).trans hlast).congr (fun n => ?_)
      (fun n m => ?_) fun n => ?_
    · simp [TypeId.additions, h]
    · simp [TypeId.additions, h]
    · simp [TypeId.additions, h]

/-! ## All types -/

theorem ofTypes_append_singleton (ts : List TypeId) (t : TypeId) :
    ofTypes (ts ++ [t]) = addType t (ofTypes ts) := List.foldl_append ..

/-- **What the packages of types are**: what each of the types adds, and nothing else. -/
theorem grown_ofTypes (ts : List TypeId) : Grown [] (ofTypes ts)
    ⟨fun n => ∃ t ∈ ts, t.additions.names n, fun n m => ∃ t ∈ ts, t.additions.links n m,
      fun n => ts.flatMap fun t => t.additions.types n⟩ := by
  induction ts using List.reverseRecOn with
  | nil => exact (Grown.refl []).congr (fun n => by simp) (fun n m => by simp) fun _ => rfl
  | append_singleton ts t ih =>
    rw [ofTypes_append_singleton]
    refine (ih.trans (grown_addType t (ofTypes ts))).congr (fun n => ?_) (fun n m => ?_) fun n => ?_
    · simp only [List.mem_append, List.mem_singleton, or_and_right, exists_or, exists_eq_left]
    · simp only [List.mem_append, List.mem_singleton, or_and_right, exists_or, exists_eq_left]
    · simp only [List.flatMap_append, List.flatMap_singleton]

theorem ofTypes_ascending (ts : List TypeId) : Keyed.Ascending (ofTypes ts) :=
  (grown_ofTypes ts).ascending Keyed.ascending_nil

theorem below_ascending (ts : List TypeId) (n : String) :
    Keyed.Ascending (named n (ofTypes ts)).below :=
  (grown_ofTypes ts).below (fun _ => Keyed.ascending_nil) n

/-! ## Types in another order -/

/-- The package with its types in order. -/
def normal (p : Package) : Package := ⟨p.below, p.sortedTypes⟩

theorem toJson_normal (n : String) (p : Package) : toJson n p.normal = toJson n p := by
  have hsorted : p.normal.sortedTypes = p.sortedTypes :=
    mergeSort_eq_of_perm (List.mergeSort_perm ..) fun _ _ _ _ h => h
  have hlength : p.normal.types.length = p.types.length := (List.mergeSort_perm ..).length_eq
  simp only [toJson, hsorted, hlength]
  rfl

/-- What is found under a name is the package with that name, if the name is there. -/
theorem get?_eq (n : String) (ps : List (String × Package)) :
    Keyed.get? n ps = if (Keyed.get? n ps).isSome then some (named n ps) else none := by
  rw [named]
  cases Keyed.get? n ps <;> rfl

variable {ts ts' : List TypeId}

theorem get?_eq_of_contains {b b' : List (String × Unit)} {m : String}
    (h : Keyed.contains m b = Keyed.contains m b') : Keyed.get? m b = Keyed.get? m b' := by
  unfold Keyed.contains at h
  cases hb : Keyed.get? m b with
  | none =>
    rw [hb] at h
    exact (Option.isNone_iff_eq_none.1 (Option.isSome_eq_false_iff.1 h.symm)).symm
  | some u =>
    rw [hb] at h
    obtain ⟨u', hu'⟩ := Option.isSome_iff_exists.1 h.symm
    rw [hu']

theorem normal_named_of_perm (h : ts.Perm ts') (n : String) :
    (named n (ofTypes ts)).normal = (named n (ofTypes ts')).normal := by
  have hbelow : (named n (ofTypes ts)).below = (named n (ofTypes ts')).below := by
    refine (below_ascending ts n).ext (below_ascending ts' n) fun m => ?_
    have hcontains : Keyed.contains m (named n (ofTypes ts)).below =
        Keyed.contains m (named n (ofTypes ts')).below := by
      rw [Bool.eq_iff_iff, (grown_ofTypes ts).links, (grown_ofTypes ts').links]
      simp only [h.mem_iff]
    exact get?_eq_of_contains hcontains
  have htypes : (named n (ofTypes ts)).types.Perm (named n (ofTypes ts')).types := by
    rw [(grown_ofTypes ts).types, (grown_ofTypes ts').types]
    exact (h.flatMap_right _).append_left _
  rw [normal, normal, hbelow]
  exact congrArg _ (mergeSort_eq_of_perm htypes fun _ _ _ _ hkey => hkey)

/-- The packages of types in another order are the same but for the order of the types in each. -/
theorem normal_ofTypes_of_perm (h : ts.Perm ts') :
    Keyed.mapValues normal (ofTypes ts) = Keyed.mapValues normal (ofTypes ts') := by
  refine ((ofTypes_ascending ts).mapValues _).ext ((ofTypes_ascending ts').mapValues _) fun n => ?_
  have hnames : (Keyed.get? n (ofTypes ts)).isSome = (Keyed.get? n (ofTypes ts')).isSome := by
    rw [Bool.eq_iff_iff, (grown_ofTypes ts).names, (grown_ofTypes ts').names]
    simp only [h.mem_iff]
  rw [Keyed.get?_mapValues, Keyed.get?_mapValues, get?_eq n (ofTypes ts), get?_eq n (ofTypes ts'),
    hnames]
  split
  · rw [Option.map_some, Option.map_some, normal_named_of_perm h]
  · rfl

/-- **The packages that are shown do not hang on the order of the types.** -/
theorem toJson_ofTypes_of_perm (h : ts.Perm ts') :
    (ofTypes ts).map (fun p => toJson p.1 p.2) = (ofTypes ts').map fun p => toJson p.1 p.2 := by
  have hshown : ∀ ps : List (String × Package), ps.map (fun p => toJson p.1 p.2) =
      (Keyed.mapValues normal ps).map fun p => toJson p.1 p.2 := by
    intro ps
    simp only [Keyed.mapValues, List.map_map, Function.comp_def, toJson_normal]
  rw [hshown, hshown (ofTypes ts'), normal_ofTypes_of_perm h]

end Package
end DexQuery
