import DexQuery.Proofs.Answer.PackageName
import DexQuery.Proofs.Answer.PackageTree
import DexQuery.Proofs.Session.StringSearch
import Mathlib.Algebra.Ring.Nat
import Mathlib.Data.List.Forall2

/-!
# The listing of packages is the package tree

What a listing of packages has to say is read off the names of the types (`Package.Tree`): which
packages there are, which lie directly in which, and which types are in each, nothing counted twice
and nothing left out. The packages of types are built step by step, but what they are is known
(`Package.grown_ofTypes`), and the names that a type brings with it are known as well
(`Package.Rooted.mem_ancestry_iff`); together they give the tree (`Package.tree_ofTypes`), which a
session shows (`Session.run_listPackages`).
-/

namespace DexQuery

/-! ## Names of types -/

/-- A raw name that begins with no separator. -/
def TypeId.Anchored (t : TypeId) : Prop :=
  t.raw.toList.head? ≠ some '/' ∧ t.raw.toList.head? ≠ some '.'

instance (t : TypeId) : Decidable t.Anchored := inferInstanceAs (Decidable (_ ∧ _))

theorem TypeId.packageChars_prefix (raw : List Char) : packageChars raw <+: raw := by
  have hsuffix : (raw.reverse.dropWhile (· ≠ '/')).drop 1 <:+ raw.reverse :=
    (List.drop_suffix ..).trans (List.dropWhile_suffix _)
  have hprefix := List.reverse_prefix.2 hsuffix
  rwa [List.reverse_reverse] at hprefix

/-- The package of such a name begins with a segment. -/
theorem TypeId.Anchored.rooted {t : TypeId} (h : t.Anchored) (hne : t.package ≠ "") :
    Package.Rooted t.package := by
  refine ⟨hne, ?_⟩
  rw [package, String.toList_ofList, dottedChars, List.head?_map]
  obtain ⟨rest, hrest⟩ := packageChars_prefix t.raw.toList
  cases hchars : packageChars t.raw.toList with
  | nil =>
    intro hhead
    cases hhead
  | cons c r =>
    have hhead : t.raw.toList.head? = some c := by rw [← hrest, hchars]; rfl
    rw [Anchored, hhead] at h
    rw [List.head?_cons, Option.map_some]
    split
    · rename_i hc
      exact absurd (congrArg some hc) h.1
    · exact h.2

/-! ## The tree -/

namespace Package

/-- An entry of a listing of packages. -/
structure Entry where
  fullName : String
  classCount : Nat
  subPackages : List String
  classIds : List String
  isLeaf : Bool

/-- The value shows the entry. -/
structure Entry.ShownBy (x : Entry) (j : Json) : Prop where
  fullName : j.member? "full_name" = some (.string x.fullName)
  classCount : j.member? "class_count" = some (.nat x.classCount)
  subPackages : j.member? "sub_packages" = some (.strings x.subPackages)
  classIds : j.member? "class_ids" = some (.strings x.classIds)
  isLeaf : j.member? "is_leaf" = some (.bool x.isLeaf)

/-- The entries are the package tree of the types. -/
structure Tree (ts : List TypeId) (xs : List Entry) : Prop where
  ascending : xs.Pairwise fun x y => Text.bytes x.fullName < Text.bytes y.fullName
  /-- The packages are those that enclose a type. -/
  names : ∀ n, n ∈ xs.map (·.fullName) ↔ ∃ t ∈ ts, t.package ≠ "" ∧ Encloses n t.package
  /-- Each has the descriptors of the types directly in it, as often as they are there. -/
  classIds : ∀ x ∈ xs,
    x.classIds.Perm ((ts.filter fun t => t.package == x.fullName).map TypeId.text)
  classIds_sorted : ∀ x ∈ xs, x.classIds.Pairwise fun a b => Text.bytes a ≤ Text.bytes b
  classCount : ∀ x ∈ xs, x.classCount = x.classIds.length
  /-- Below each are the packages whose names have one segment more. -/
  subPackages : ∀ x ∈ xs, ∀ m, m ∈ x.subPackages ↔
    m ∈ xs.map (·.fullName) ∧ ∃ s, Undotted s ∧ m = x.fullName ++ "." ++ s
  subPackages_ascending : ∀ x ∈ xs,
    x.subPackages.Pairwise fun a b => Text.bytes a < Text.bytes b
  isLeaf : ∀ x ∈ xs, x.isLeaf = true ↔ x.subPackages = []
  /-- Every type in a package is counted once. -/
  total : (xs.map (·.classCount)).sum = (ts.filter fun t => t.package != "").length

/-- The entry of a package. -/
def entry (p : String × Package) : Entry :=
  ⟨p.1, p.2.types.length, Keyed.keys p.2.below, p.2.sortedTypes, p.2.below.isEmpty⟩

theorem shownBy_entry (p : String × Package) : (entry p).ShownBy (toJson p.1 p.2) := by
  have hkeys : List.Nodup ["full_name", "class_count", "sub_packages", "class_ids", "is_leaf"] := by
    decide
  constructor <;> exact Keyed.get?_ofList_of_mem hkeys (by simp [entry])

variable {ts : List TypeId} {n m : String}

theorem isSome_get?_iff_mem_keys {α : Type} {ps : List (String × α)} (h : Keyed.Ascending ps) :
    (Keyed.get? n ps).isSome ↔ n ∈ Keyed.keys ps := by
  rw [Option.isSome_iff_exists, Keyed.keys, List.mem_map]
  constructor
  · rintro ⟨x, hx⟩
    exact ⟨(n, x), Keyed.mem_of_get? hx, rfl⟩
  · rintro ⟨⟨_, x⟩, hmem, rfl⟩
    exact ⟨x, h.get?_of_mem hmem⟩

theorem mem_names_iff (hanchored : ∀ t ∈ ts, t.Anchored) :
    n ∈ Keyed.keys (ofTypes ts) ↔ ∃ t ∈ ts, t.package ≠ "" ∧ Encloses n t.package := by
  rw [← isSome_get?_iff_mem_keys (ofTypes_ascending ts), (grown_ofTypes ts).names]
  simp only [Keyed.get?_nil, Option.isSome_none, Bool.false_eq_true, false_or, TypeId.additions]
  refine exists_congr fun t => and_congr_right fun ht => and_congr_right fun hne => ?_
  rw [((hanchored t ht).rooted hne).mem_ancestry_iff, or_iff_left_iff_imp]
  exact .inl

theorem mem_below_iff (hanchored : ∀ t ∈ ts, t.Anchored) :
    m ∈ Keyed.keys (named n (ofTypes ts)).below ↔
      m ∈ Keyed.keys (ofTypes ts) ∧ ∃ s, Undotted s ∧ m = n ++ "." ++ s := by
  have hlinks := (grown_ofTypes ts).links n m
  rw [Keyed.contains, isSome_get?_iff_mem_keys (below_ascending ts n)] at hlinks
  have hempty : Keyed.contains m (named n []).below = false := rfl
  simp only [hlinks, hempty, Bool.false_eq_true, false_or, TypeId.additions,
    mem_names_iff hanchored]
  constructor
  · rintro ⟨t, ht, hne, hmem⟩
    obtain ⟨henclosed, hnext⟩ := ((hanchored t ht).rooted hne).mem_links_iff.1 hmem
    exact ⟨⟨t, ht, hne, henclosed⟩, hnext⟩
  · rintro ⟨⟨t, ht, hne, henclosed⟩, hnext⟩
    exact ⟨t, ht, hne, ((hanchored t ht).rooted hne).mem_links_iff.2 ⟨henclosed, hnext⟩⟩

/-- The types in a package, in the order in which they are declared. -/
theorem types_named (hn : n ≠ "") :
    (named n (ofTypes ts)).types = (ts.filter fun t => t.package == n).map TypeId.text := by
  have hadded : ts.flatMap (fun t => t.additions.types n) =
      (ts.filter fun t => t.package == n).map TypeId.text := by
    induction ts with
    | nil => rfl
    | cons t ts ih =>
      rw [List.flatMap_cons, ih, List.filter_cons, TypeId.additions]
      by_cases h : t.package = n
      · subst h
        simp [hn]
      · simp [h, Ne.symm h]
  have htypes := (grown_ofTypes ts).types n
  rw [← hadded, htypes]
  exact List.nil_append _

theorem sum_count_cons (a : String) (l keys : List String) :
    (keys.map fun k => (a :: l).count k).sum =
      (keys.map fun k => l.count k).sum + keys.count a := by
  induction keys with
  | nil => rfl
  | cons k keys ih =>
    rw [List.map_cons, List.sum_cons, List.map_cons, List.sum_cons, ih, List.count_cons,
      List.count_cons]
    simp only [beq_iff_eq, eq_comm (a := a)]
    omega

/-- What is among keys that do not repeat is counted by one of them. -/
theorem sum_count {keys : List String} (hkeys : keys.Nodup) (l : List String) :
    (keys.map fun k => l.count k).sum = (l.filter (· ∈ keys)).length := by
  induction l with
  | nil => simp
  | cons a l ih =>
    rw [sum_count_cons, ih, List.filter_cons]
    by_cases ha : a ∈ keys
    · rw [List.count_eq_one_of_mem hkeys ha]
      simp [ha]
    · rw [List.count_eq_zero.2 ha]
      simp [ha]

theorem eq_named_of_mem {p : String × Package} (h : p ∈ ofTypes ts) :
    p.2 = named p.1 (ofTypes ts) := by
  rw [named, (ofTypes_ascending ts).get?_of_mem h]
  rfl

/-- What is in a package is counted. -/
theorem length_types_named (hn : n ≠ "") :
    (named n (ofTypes ts)).types.length = (ts.map TypeId.package).count n := by
  rw [types_named hn, List.length_map, List.count_eq_length_filter, List.filter_map,
    List.length_map]
  rfl

theorem ne_empty_of_mem_names (hanchored : ∀ t ∈ ts, t.Anchored)
    (hn : n ∈ Keyed.keys (ofTypes ts)) : n ≠ "" := by
  obtain ⟨t, ht, hne, henclosed⟩ := (mem_names_iff hanchored).1 hn
  exact ((hanchored t ht).rooted hne).ne_empty_of_encloses henclosed

/-- Every type in a package is counted in one package. -/
theorem sum_lengths (hanchored : ∀ t ∈ ts, t.Anchored) :
    ((ofTypes ts).map fun p => p.2.types.length).sum =
      (ts.filter fun t => t.package != "").length := by
  have hcounts : (ofTypes ts).map (fun p => p.2.types.length) =
      (Keyed.keys (ofTypes ts)).map fun n => (ts.map TypeId.package).count n := by
    rw [Keyed.keys, List.map_map]
    refine List.map_congr_left fun p hp => ?_
    have hne := ne_empty_of_mem_names hanchored (List.mem_map_of_mem hp)
    rw [eq_named_of_mem hp, length_types_named hne]
    rfl
  rw [hcounts, sum_count (ofTypes_ascending ts).nodup_keys, List.filter_map, List.length_map]
  refine congrArg List.length (List.filter_congr fun t ht => ?_)
  rw [Function.comp_apply, Bool.eq_iff_iff, decide_eq_true_iff, bne_iff_ne]
  constructor
  · exact ne_empty_of_mem_names hanchored
  · exact fun hne => (mem_names_iff hanchored).2 ⟨t, ht, hne, .inl rfl⟩

/-- **The packages of types are their package tree.** -/
theorem tree_ofTypes (hanchored : ∀ t ∈ ts, t.Anchored) : Tree ts ((ofTypes ts).map entry) := by
  have hnames : ((ofTypes ts).map entry).map (·.fullName) = Keyed.keys (ofTypes ts) := by
    rw [List.map_map]
    rfl
  constructor
  case ascending =>
    exact List.pairwise_map.2 ((ofTypes_ascending ts).imp Text.bytes_lt_iff.2)
  case names =>
    intro n
    rw [hnames, mem_names_iff hanchored]
  case classIds =>
    intro x hx
    obtain ⟨p, hp, rfl⟩ := List.mem_map.1 hx
    have hne := ne_empty_of_mem_names hanchored (List.mem_map_of_mem hp)
    have hsorted : (entry p).classIds.Perm p.2.types := List.mergeSort_perm ..
    rwa [eq_named_of_mem hp, types_named hne] at hsorted
  case classIds_sorted =>
    intro x hx
    obtain ⟨p, -, rfl⟩ := List.mem_map.1 hx
    exact (pairwise_mergeSort_key (fun id => id) p.2.types).imp Text.bytes_le_iff.2
  case classCount =>
    intro x hx
    obtain ⟨p, -, rfl⟩ := List.mem_map.1 hx
    exact (List.mergeSort_perm ..).length_eq.symm
  case subPackages =>
    intro x hx m
    obtain ⟨p, hp, rfl⟩ := List.mem_map.1 hx
    have hbelow := mem_below_iff (n := p.1) (m := m) hanchored
    rw [← eq_named_of_mem hp, ← hnames] at hbelow
    exact hbelow
  case subPackages_ascending =>
    intro x hx
    obtain ⟨p, hp, rfl⟩ := List.mem_map.1 hx
    have hbelow := below_ascending ts p.1
    rw [← eq_named_of_mem hp] at hbelow
    exact List.pairwise_map.2 (hbelow.imp Text.bytes_lt_iff.2)
  case isLeaf =>
    intro x hx
    obtain ⟨p, -, rfl⟩ := List.mem_map.1 hx
    exact List.isEmpty_iff.trans List.map_eq_nil_iff.symm
  case total =>
    rw [List.map_map]
    exact sum_lengths hanchored

end Package

/-! ## The listing -/

namespace Session

open Package

/-- **A listing of packages is the full package tree.** -/
theorem run_listPackages {s : Session} {e : Engine} {types : List TypeSummary}
    (h : s.engine = some e) (htypes : e.types = .ok types)
    (hanchored : ∀ t ∈ types, TypeId.Anchored ⟨t.rawName⟩) (files : Files.Tree) :
    ∃ out items entries, (s.run files .listPackages).1 = .ok out ∧
      out.data.member? "packages" = some (.array items) ∧
      List.Forall₂ Entry.ShownBy entries items ∧
      out.data.member? "total_packages" = some (.nat entries.length) ∧
      Tree (types.map fun t => ⟨t.rawName⟩) entries := by
  have hkeys : List.Nodup ["session_id", "provenance", "total_packages", "packages"] := by decide
  let packages := ofTypes (types.map fun t => ⟨t.rawName⟩)
  let out : Output := .plain (s.answer [("total_packages", .nat packages.length),
    ("packages", .listOf (fun p => Package.toJson p.1 p.2) packages)])
  have hlist : s.listPackages e = .ok out := by
    rw [listPackages, htypes]
    rfl
  have htree : Tree (types.map fun t => ⟨t.rawName⟩) (packages.map entry) := by
    refine tree_ofTypes fun t ht => ?_
    obtain ⟨summary, hsummary, rfl⟩ := List.mem_map.1 ht
    exact hanchored summary hsummary
  refine ⟨out, packages.map fun p => Package.toJson p.1 p.2, packages.map entry, ?_, ?_, ?_, ?_,
    htree⟩
  · rw [run_of_engine h]
    exact congrArg (Except.mapError Abort.failure) hlist
  · exact Keyed.get?_ofList_of_mem hkeys (by simp [Json.listOf])
  · rw [List.forall₂_map_left_iff, List.forall₂_map_right_iff, List.forall₂_same]
    exact fun p _ => shownBy_entry p
  · rw [List.length_map]
    exact Keyed.get?_ofList_of_mem hkeys (by simp)

/-- An export with a name that repeats, an empty segment, and a type in no package. -/
def nestedArtifact : Export.Artifact :=
  ⟨"1", "dex", ["a/b/Y", "a/b/X", "a/b/X", "a//Z", "Main"].map fun name =>
    sampleEntry name "" ⟨none, none⟩, [], none, 0, 0⟩

/-- The packages are three, of which two lie in the first. -/
theorem run_listPackages_sample :
    (∀ t ∈ nestedArtifact.types.map (·.summary), TypeId.Anchored ⟨t.rawName⟩) ∧
      Keyed.keys (ofTypes (nestedArtifact.types.map fun t => ⟨t.summary.rawName⟩)) =
        ["a", "a.", "a.b"] ∧
      ∃ out items entries,
        ((sampleSession.withEngine nestedArtifact.engine).run .empty .listPackages).1 = .ok out ∧
        out.data.member? "packages" = some (.array items) ∧
        List.Forall₂ Entry.ShownBy entries items ∧
        out.data.member? "total_packages" = some (.nat entries.length) ∧
        Tree ((nestedArtifact.types.map (·.summary)).map fun t => ⟨t.rawName⟩) entries := by
  have hanchored : ∀ t ∈ nestedArtifact.types.map (·.summary), TypeId.Anchored ⟨t.rawName⟩ := by
    decide +kernel
  exact ⟨hanchored, by decide +kernel,
    run_listPackages (s := sampleSession.withEngine nestedArtifact.engine) rfl rfl hanchored .empty⟩

end Session
end DexQuery
