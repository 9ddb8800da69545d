import DexQuery.Proofs.Files.Tree
import Mathlib.Data.List.Nodup
import Mathlib.Data.List.Perm.Subperm

/-!
# When a file can be put at a path

A file can be put at a path unless something is in its way (`Tree.writeDeep_eq_ok_iff`), and what
can be in its way is told by `Tree.Obstructed`: a character or a length that paths may not have, a
file where a directory is needed, or a directory where the file is to be. That the temporary file
beside it has a name of its own is shown here and need not be assumed (`Tree.node?_freeName`).
-/

namespace DexQuery
namespace Files

/-! ## Lengths of paths -/

theorem pathText_append (p q : Path) : pathText (p ++ q) = pathText p ++ pathText q := by
  simp only [pathText, String.join, List.map_append, List.foldl_append]
  generalize (p.map fun n => "/" ++ n).foldl (· ++ ·) "" = first
  conv_lhs => rw [← String.append_empty (s := first)]
  exact List.foldl_assoc

theorem utf8ByteSize_pathText_le {p q : Path} (h : q <+: p) :
    (pathText q).utf8ByteSize ≤ (pathText p).utf8ByteSize := by
  obtain ⟨r, rfl⟩ := h
  rw [pathText_append, String.utf8ByteSize_append]
  exact Nat.le_add_right _ _

theorem any_hasNul_of_le {p q : Path} (h : q <+: p) (hp : p.any hasNul = false) :
    q.any hasNul = false := by
  obtain ⟨r, rfl⟩ := h
  rw [List.any_append, Bool.or_eq_false_iff] at hp
  exact hp.1

namespace Tree

/-! ## Temporary names -/

theorem tempName_injective {n m : Nat} (h : tempName n = tempName m) : n = m := by
  have hlist := congrArg String.toList h
  simp only [tempName, String.toList_append, Nat.toString_eq_ofList_toDigits,
    String.toList_ofList] at hlist
  have hdigits := congrArg (Nat.ofDigitChars 10 · 0) (List.append_cancel_left hlist)
  simp only [Nat.ofDigitChars_ten_toDigits] at hdigits
  exact Nat.add_left_cancel hdigits

theorem hasNul_tempName (n : Nat) : hasNul (tempName n) = false := by
  have hdigits : ∀ c ∈ Nat.toDigits 10 (100000 + n), c ≠ '\x00' := by
    rintro c hc rfl
    exact absurd (Nat.isDigit_of_mem_toDigits (by decide) (by decide) hc) (by decide)
  simpa [hasNul, tempName, Nat.toString_eq_ofList_toDigits] using hdigits

theorem mem_of_node?_ne_none {t : Tree} {p : Path} (hp : p ≠ []) (h : t.node? p ≠ none) :
    p ∈ t.nodes.map (·.1) := by
  rw [node?, if_neg hp] at h
  obtain ⟨n, hn⟩ := Option.ne_none_iff_exists'.1 h
  obtain ⟨e, he, -⟩ := Option.map_eq_some_iff.1 hn
  exact List.mem_map.2 ⟨e, List.mem_of_find?_eq_some he, by simpa using List.find?_some he⟩

/-- **A temporary name is free.** If as many names as there are nodes were all taken, and one more,
there would be more paths than nodes. -/
theorem node?_freeName (t : Tree) (dir : Path) : t.node? (dir ++ [t.freeName dir]) = none := by
  unfold freeName
  cases hfind : (List.range t.nodes.length).find? fun n =>
      (t.node? (dir ++ [tempName n])).isNone with
  | some n => simpa using List.find?_some hfind
  | none =>
    by_contra hlast
    rw [Option.getD_none] at hlast
    let place (n : Nat) : Path := dir ++ [tempName n]
    have htaken : ∀ n < t.nodes.length + 1, t.node? (place n) ≠ none := by
      intro n hn
      rcases Nat.lt_succ_iff_lt_or_eq.1 hn with hlt | rfl
      · have := List.find?_eq_none.1 hfind n (List.mem_range.2 hlt)
        simpa [place, Option.isNone_iff_eq_none] using this
      · exact hlast
    have hinj : Function.Injective place := by
      intro n m h
      exact tempName_injective (List.singleton_inj.1 (List.append_cancel_left h))
    have hnodup : ((List.range (t.nodes.length + 1)).map place).Nodup :=
      List.nodup_range.map hinj
    have hsub : (List.range (t.nodes.length + 1)).map place ⊆ t.nodes.map (·.1) := by
      intro p hp
      obtain ⟨n, hn, rfl⟩ := List.mem_map.1 hp
      exact mem_of_node?_ne_none (by simp [place]) (htaken n (List.mem_range.1 hn))
    have hle := (hnodup.subperm hsub).length_le
    rw [List.length_map, List.length_range, List.length_map] at hle
    omega

/-! ## Directories -/

/-- There is a directory of the name in `dir`, or one can be made. -/
def Passable (t : Tree) (dir : Path) (n : String) : Prop :=
  t.node? (dir ++ [n]) = some .dir ∨ (t.node? (dir ++ [n]) = none ∧ tooLong n = false)

theorem makeDirsBelow_eq_ok_iff {t : Tree} {base : Path} {names : List String} :
    (t.makeDirsBelow base names).1 = .ok () ↔
      ∀ dirs n rest, names = dirs ++ n :: rest → t.Passable (base ++ dirs) n := by
  induction names generalizing t base with
  | nil => simp [makeDirsBelow]
  | cons n ns ih =>
    -- The first name is passed, and then the others are passed in a tree that has its directory.
    have hsplit : (∀ dirs m rest, n :: ns = dirs ++ m :: rest → t.Passable (base ++ dirs) m) ↔
        t.Passable base n ∧
          ∀ dirs m rest, ns = dirs ++ m :: rest → t.Passable (base ++ [n] ++ dirs) m := by
      constructor
      · intro h
        refine ⟨by simpa using h [] n ns rfl, fun dirs m rest hns => ?_⟩
        rw [List.append_assoc]
        exact h (n :: dirs) m rest (by rw [hns]; rfl)
      · rintro ⟨hn, hns⟩ dirs m rest h
        rcases List.cons_eq_append_iff.1 h with ⟨rfl, hm⟩ | ⟨dirs, rfl, hrest⟩
        · obtain ⟨rfl, -⟩ := List.cons.inj hm
          simpa using hn
        · rw [← append_singleton_append]
          exact hns dirs m rest hrest
    rw [hsplit, makeDirsBelow]
    split
    · rename_i hdir
      rw [ih]
      exact ⟨fun h => ⟨.inl hdir, h⟩, fun h => h.2⟩
    · rename_i bytes hfile
      simp [Passable, hfile]
    · rename_i hnone
      split
      · rename_i hlong
        simp [Passable, hnone, hlong]
      · rename_i hshort
        rw [ih]
        have hbelow : ∀ dirs m, (t.set (base ++ [n]) .dir).Passable (base ++ [n] ++ dirs) m ↔
            t.Passable (base ++ [n] ++ dirs) m := by
          intro dirs m
          rw [Passable, Passable, node?_set_of_ne]
          intro h
          have := congrArg List.length h
          simp at this
        simp only [hbelow]
        exact ⟨fun h => ⟨.inr ⟨hnone, by simpa using hshort⟩, h⟩, fun h => h.2⟩

theorem makeDirs_eq_ok_iff {t : Tree} {p : Path} : (t.makeDirs p).1 = .ok () ↔
    p.any hasNul = false ∧ (pathText p).utf8ByteSize < pathLimit ∧
      ∀ dirs n rest, p = dirs ++ n :: rest → t.Passable dirs n := by
  rw [makeDirs]
  by_cases hnul : p.any hasNul = true
  · simp [hnul]
  · by_cases hlong : pathLimit ≤ (pathText p).utf8ByteSize
    · simp [hnul, hlong, Nat.not_lt.2 hlong]
    · rw [if_neg hnul, if_neg hlong, makeDirsBelow_eq_ok_iff]
      simp only [Bool.not_eq_true] at hnul
      simp only [List.nil_append, hnul, Nat.lt_of_not_le hlong, true_and]

/-! ## Files -/

/-- A path that no file may have: its last name is too long, or its text is. -/
def Overlong (p : Path) : Prop :=
  (∃ dir name, p = dir ++ [name] ∧ tooLong name = true) ∨
    pathLimit ≤ (pathText p).utf8ByteSize

theorem not_overlong_iff {dir : Path} {name : String} : ¬ Overlong (dir ++ [name]) ↔
    tooLong name = false ∧ (pathText (dir ++ [name])).utf8ByteSize < pathLimit := by
  rw [Overlong, not_or, Nat.not_le]
  refine and_congr_left fun _ => ⟨fun h => ?_, ?_⟩
  · rw [← Bool.not_eq_true]
    exact fun hlong => h ⟨dir, name, rfl, hlong⟩
  · rintro hshort ⟨dir', name', heq, hlong⟩
    obtain rfl := List.singleton_inj.1 (List.append_inj' heq rfl).2
    rw [hshort] at hlong
    cases hlong

theorem writeFile_eq_ok_iff {t : Tree} {dir : Path} {name : String} {bytes : ByteArray}
    (hdir : t.node? dir = some .dir) : (t.writeFile (dir ++ [name]) bytes).1 = .ok () ↔
      (dir ++ [name]).any hasNul = false ∧ ¬ Overlong (dir ++ [name]) ∧
        t.node? (dir ++ [name]) ≠ some .dir := by
  rw [not_overlong_iff, writeFile, List.getLast?_concat]
  by_cases hnul : (dir ++ [name]).any hasNul = true
  · simp [hnul]
  · simp only [if_neg hnul]
    rw [Bool.not_eq_true] at hnul
    by_cases hlong : (tooLong name || pathLimit ≤ (pathText (dir ++ [name])).utf8ByteSize) = true
    · rw [if_pos hlong]
      simp only [Bool.or_eq_true, decide_eq_true_eq] at hlong
      rcases hlong with hlong | hlong
      · simp [hlong]
      · simp [Nat.not_lt.2 hlong]
    · rw [if_neg hlong, List.dropLast_concat, hdir]
      simp only [Bool.or_eq_true, decide_eq_true_eq, not_or, Bool.not_eq_true, Nat.not_le] at hlong
      simp only [hnul, hlong.1, hlong.2, true_and]
      cases t.node? (dir ++ [name]) with
      | none => simp
      | some node => cases node <;> simp

/-- In a directory, a file can be replaced if it can be written and its temporary file can be
made. -/
theorem replaceFile_eq_ok_iff {t : Tree} {dir : Path} {name : String} {bytes : ByteArray}
    (hdir : t.node? dir = some .dir) :
    (t.replaceFile (dir ++ [name]) (t.freeName dir) bytes).1 = .ok () ↔
      (dir ++ [name]).any hasNul = false ∧ ¬ Overlong (dir ++ [name]) ∧
        t.node? (dir ++ [name]) ≠ some .dir ∧ ¬ Overlong (dir ++ [t.freeName dir]) := by
  have hbeside : beside (dir ++ [name]) (t.freeName dir) = dir ++ [t.freeName dir] := by
    rw [beside, List.dropLast_concat]
  have hfree := t.node?_freeName dir
  have hcreate : (t.createFile (dir ++ [t.freeName dir]) bytes).1 = .ok () ↔
      (dir ++ [t.freeName dir]).any hasNul = false ∧ ¬ Overlong (dir ++ [t.freeName dir]) := by
    rw [createFile, hfree]
    simp [writeFile_eq_ok_iff hdir, hfree]
  constructor
  · intro h
    have hmade : (t.createFile (dir ++ [t.freeName dir]) bytes).1 = .ok () := by
      rcases createFile_cases t (dir ++ [t.freeName dir]) bytes with ⟨e, he⟩ | ⟨hok, -⟩
      · rw [replaceFile, hbeside, he] at h
        cases h
      · rw [hok]
    rw [replaceFile_eq_writeFile (hbeside.symm ▸ hmade), writeFile_eq_ok_iff hdir] at h
    exact ⟨h.1, h.2.1, h.2.2, (hcreate.1 hmade).2⟩
  · rintro ⟨hnul, hshort, hnode, htemp⟩
    have hnul' : (dir ++ [t.freeName dir]).any hasNul = false := by
      rw [List.any_append, any_hasNul_of_le (List.prefix_append dir [name]) hnul, freeName]
      simp [hasNul_tempName]
    rw [replaceFile_eq_writeFile (hbeside.symm ▸ hcreate.2 ⟨hnul', htemp⟩),
      writeFile_eq_ok_iff hdir]
    exact ⟨hnul, hshort, hnode⟩

/-- The path of the temporary file that is made when a file is put at a path. -/
def temporary (t : Tree) (p : Path) : Path :=
  beside p ((t.makeDirs p.dropLast).2.freeName p.dropLast)

/-- Why no file can be put at a path. -/
inductive Obstructed (t : Tree) (p : Path) : Prop
  | nul (h : p.any hasNul = true)
  | overlong (h : Overlong p)
  | overlongTemporary (h : Overlong (t.temporary p))
  | overlongDirectory {dirs : Path} {n m : String} {rest : List String}
      (hp : p = dirs ++ n :: m :: rest) (hlong : tooLong n = true)
      (hmissing : t.node? (dirs ++ [n]) = none)
  | underFile {q : Path} {bytes : ByteArray} (hq : q <+: p) (hne : q ≠ p)
      (h : t.node? q = some (.file bytes))
  | onDirectory (h : t.node? p = some .dir)

/-- A directory above the path that is not there and cannot be made is in the way. -/
theorem Obstructed.of_not_passable {t : Tree} {dirs rest : Path} {n name : String}
    (h : ¬ t.Passable dirs n) : t.Obstructed (dirs ++ n :: rest ++ [name]) := by
  rw [Passable, not_or, not_and, Bool.not_eq_false] at h
  cases hnode : t.node? (dirs ++ [n]) with
  | none =>
    obtain ⟨m, rest', hrest⟩ := List.exists_cons_of_ne_nil (l := rest ++ [name]) (by simp)
    exact .overlongDirectory (by rw [List.append_assoc, List.cons_append, hrest]) (h.2 hnode) hnode
  | some node =>
    cases node with
    | dir => exact absurd hnode h.1
    | file bytes =>
      refine .underFile (q := dirs ++ [n]) ⟨rest ++ [name], by simp⟩ (fun heq => ?_) hnode
      have := congrArg List.length heq
      simp at this

/-- A file above the path is one that no directory can be made in place of. -/
theorem not_passable_of_underFile {t : Tree} {dir q : Path} {name : String} {bytes : ByteArray}
    (hq : q <+: dir ++ [name]) (hne : q ≠ dir ++ [name]) (h : t.node? q = some (.file bytes)) :
    ∃ dirs n rest, dir = dirs ++ n :: rest ∧ ¬ t.Passable dirs n := by
  obtain rfl | ⟨dirs, n, rfl⟩ := q.eq_nil_or_concat'
  · cases t.node?_root.symm.trans h
  · obtain ⟨rest, hrest⟩ : dirs ++ [n] <+: dir := by
      rcases List.prefix_concat_iff.1 hq with heq | hle
      · exact absurd heq hne
      · exact hle
    exact ⟨dirs, n, rest, by rw [← hrest, append_singleton_append], by simp [Passable, h]⟩

theorem writeDeep_concat_eq_ok_iff {t : Tree} {dir : Path} {name : String} {bytes : ByteArray} :
    (t.writeDeep (dir ++ [name]) bytes).1 = .ok () ↔ (t.makeDirs dir).1 = .ok () ∧
      (dir ++ [name]).any hasNul = false ∧ ¬ Overlong (dir ++ [name]) ∧
      t.node? (dir ++ [name]) ≠ some .dir ∧ ¬ Overlong (t.temporary (dir ++ [name])) := by
  have hmade := t.madeOn_makeDirs dir
  have hdir : (t.makeDirs dir).1 = .ok () → (t.makeDirs dir).2.node? dir = some .dir :=
    fun h => node?_makeDirs h List.prefix_rfl
  rw [writeDeep, temporary, beside]
  simp only [List.dropLast_concat]
  cases h : t.makeDirs dir with
  | mk result t' =>
    rw [h] at hmade hdir
    cases result with
    | error e => simp
    | ok _ =>
      -- What is at the path itself is not touched by making the directories above it.
      have hsame : t'.node? (dir ++ [name]) = t.node? (dir ++ [name]) := by
        rcases hmade (dir ++ [name]) with heq | ⟨hle, -⟩
        · exact heq
        · have := hle.length_le
          rw [List.length_append, List.length_singleton] at this
          omega
      simp only [true_and]
      rw [replaceFile_eq_ok_iff (hdir rfl), hsame]

/-- **When a file can be put at a path**: always, unless something is in its way. -/
theorem writeDeep_eq_ok_iff {t : Tree} {p : Path} {bytes : ByteArray} :
    (t.writeDeep p bytes).1 = .ok () ↔ ¬ t.Obstructed p := by
  obtain rfl | ⟨dir, name, rfl⟩ := p.eq_nil_or_concat'
  · have hfails : (t.writeDeep [] bytes).1 ≠ .ok () := by
      obtain ⟨t', -, ⟨e, h⟩ | ⟨-, hne, -⟩⟩ := t.writeDeep_cases [] bytes
      · rw [h]
        simp
      · exact absurd rfl hne
    exact ⟨fun h => absurd h hfails, fun h => absurd (.onDirectory t.node?_root) h⟩
  · rw [writeDeep_concat_eq_ok_iff, makeDirs_eq_ok_iff]
    constructor
    · rintro ⟨⟨-, -, hway⟩, hnul, hshort, hnode, htemp⟩ hobstructed
      cases hobstructed with
      | nul h => exact absurd h (by rw [hnul]; decide)
      | overlong h => exact hshort h
      | overlongTemporary h => exact htemp h
      | @overlongDirectory dirs n m rest hp hlong hmissing =>
        obtain ⟨rest', last, hrest⟩ :=
          (m :: rest).eq_nil_or_concat'.resolve_left (List.cons_ne_nil m rest)
        rw [hrest, ← List.cons_append, ← List.append_assoc] at hp
        have hpass := hway dirs n rest' (List.append_inj' hp rfl).1
        simp [Passable, hlong, hmissing] at hpass
      | underFile hq hne h =>
        obtain ⟨dirs, n, rest, hdir, hnot⟩ := not_passable_of_underFile hq hne h
        exact hnot (hway dirs n rest hdir)
      | onDirectory h => exact hnode h
    · intro hfree
      have hnul : (dir ++ [name]).any hasNul = false :=
        Bool.eq_false_iff.2 fun h => hfree (.nul h)
      have hshort : ¬ Overlong (dir ++ [name]) := fun h => hfree (.overlong h)
      have hle : dir <+: dir ++ [name] := List.prefix_append dir [name]
      refine ⟨⟨any_hasNul_of_le hle hnul, ?_, ?_⟩, hnul, hshort, fun h => hfree (.onDirectory h),
        fun h => hfree (.overlongTemporary h)⟩
      · exact Nat.lt_of_le_of_lt (utf8ByteSize_pathText_le hle) (not_overlong_iff.1 hshort).2
      · rintro dirs n rest rfl
        by_contra hnot
        exact hfree (.of_not_passable hnot)

end Tree
end Files
end DexQuery
