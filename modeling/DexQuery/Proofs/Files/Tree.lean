import DexQuery.Files.Tree

/-!
# How file trees change

Making directories changes nothing but the missing nodes on the way, which become directories
(`Tree.MadeOn`), and writing a file changes that file besides (`Tree.writeDeep_cases`), although a
temporary file is made on the way (`Tree.replaceFile_eq_writeFile`). So what happens in the tree
below one directory is not seen anywhere else (`Tree.FilledBelow`).

Following a path looks at the nodes of its `trail` and at no others.
-/

namespace DexQuery
namespace Files
namespace Tree

/-! ## Making directories -/

/-- `t'` has the nodes of `t` and, on the way to `p`, directories where there was nothing. -/
def MadeOn (p : Path) (t t' : Tree) : Prop :=
  ∀ q, t'.node? q = t.node? q ∨ (q <+: p ∧ t.node? q = none ∧ t'.node? q = some .dir)

namespace MadeOn

variable {p q : Path} {t t' t'' : Tree}

theorem refl (p : Path) (t : Tree) : MadeOn p t t := fun _ => .inl rfl

theorem trans (h : MadeOn p t t') (h' : MadeOn p t' t'') : MadeOn p t t'' := by
  intro q
  rcases h' q with he | ⟨hp, hnone, hdir⟩
  · rw [he]
    exact h q
  · rcases h q with he | ⟨-, -, hd⟩
    · exact .inr ⟨hp, he ▸ hnone, hdir⟩
    · exact absurd (hd.symm.trans hnone) (by simp)

theorem mono {p' : Path} (h : MadeOn p t t') (hp : p <+: p') : MadeOn p' t t' := fun q =>
  (h q).imp id fun ⟨hq, hn⟩ => ⟨hq.trans hp, hn⟩

/-- What is there stays there. -/
theorem some {n : Node} (h : MadeOn p t t') (hq : t.node? q = some n) : t'.node? q = some n := by
  rcases h q with he | ⟨-, hnone, -⟩
  · rw [he, hq]
  · exact absurd (hq.symm.trans hnone) (by simp)

theorem file_iff {bytes : ByteArray} (h : MadeOn p t t') :
    t'.node? q = .some (.file bytes) ↔ t.node? q = .some (.file bytes) := by
  refine ⟨fun hq => ?_, h.some⟩
  rcases h q with he | ⟨-, -, hdir⟩
  · rw [← he, hq]
  · exact absurd (hq.symm.trans hdir) (by simp)

theorem set (hq : q <+: p) (hnone : t.node? q = none) : MadeOn p t (t.set q .dir) := by
  intro r
  by_cases hr : q = r
  · subst hr
    have hne : q ≠ [] := by
      rintro rfl
      simp at hnone
    exact .inr ⟨hq, hnone, t.node?_set_self hne .dir⟩
  · exact .inl (t.node?_set_of_ne hr .dir)

end MadeOn

theorem node?_set_congr {t u : Tree} {q : Path} (h : t.node? q = u.node? q) (p : Path) (n : Node) :
    (t.set p n).node? q = (u.set p n).node? q := by
  by_cases hq : p = q
  · subst hq
    by_cases hp : p = []
    · simp [hp]
    · rw [t.node?_set_self hp, u.node?_set_self hp]
  · rw [t.node?_set_of_ne hq, u.node?_set_of_ne hq, h]

theorem append_singleton_append (base : Path) (n : String) (ns : List String) :
    (base ++ [n]) ++ ns = base ++ n :: ns := by simp

theorem madeOn_makeDirsBelow (t : Tree) (base : Path) (names : List String) :
    MadeOn (base ++ names) t (t.makeDirsBelow base names).2 := by
  induction names generalizing t base with
  | nil => exact .refl _ _
  | cons n ns ih =>
    have hn : base ++ [n] <+: base ++ n :: ns := ⟨ns, append_singleton_append base n ns⟩
    rw [makeDirsBelow]
    split
    · exact append_singleton_append base n ns ▸ ih t (base ++ [n])
    · exact .refl _ _
    · rename_i hnone
      split
      · exact .refl _ _
      · exact (MadeOn.set hn hnone).trans (append_singleton_append base n ns ▸ ih _ (base ++ [n]))

/-- A path between a directory and one below it is that directory or goes through the first name
below it. -/
theorem eq_or_prefix_of_between {base q : Path} {n : String} {ns : List String} (h : base <+: q)
    (hq : q <+: base ++ n :: ns) : q = base ∨ base ++ [n] <+: q := by
  obtain ⟨r, rfl⟩ := h
  rw [List.prefix_append_right_inj] at hq
  cases r with
  | nil => simp
  | cons m r =>
    obtain ⟨rfl, -⟩ := List.cons_prefix_cons.1 hq
    exact .inr ⟨r, append_singleton_append base m r⟩

/-- Directories that have been made are there, with those above them. -/
theorem node?_makeDirsBelow {t : Tree} {base : Path} {names : List String}
    (hbase : t.node? base = some .dir) (h : (t.makeDirsBelow base names).1 = .ok ()) {q : Path}
    (hb : base <+: q) (hq : q <+: base ++ names) :
    (t.makeDirsBelow base names).2.node? q = some .dir := by
  induction names generalizing t base with
  | nil =>
    rw [List.append_nil] at hq
    obtain rfl := hb.eq_of_length (Nat.le_antisymm hb.length_le hq.length_le)
    exact hbase
  | cons n ns ih =>
    rcases eq_or_prefix_of_between hb hq with rfl | hn
    · exact (madeOn_makeDirsBelow t q (n :: ns)).some hbase
    · rw [← append_singleton_append] at hq
      rw [makeDirsBelow] at h ⊢
      split at h
      · rename_i hdir
        exact ih hdir h hn hq
      · cases h
      · rename_i hnone
        split at h
        · cases h
        · rename_i hlong
          have hne : base ++ [n] ≠ [] := by simp
          rw [if_neg hlong]
          exact ih (t.node?_set_self hne .dir) h hn hq

/-- The outcome and what is made hang on the nodes on the way alone. -/
theorem makeDirsBelow_congr {t u : Tree} {base : Path} {names : List String}
    (h : ∀ q, q <+: base ++ names → t.node? q = u.node? q) :
    (t.makeDirsBelow base names).1 = (u.makeDirsBelow base names).1 ∧
      ∀ q, t.node? q = u.node? q →
        (t.makeDirsBelow base names).2.node? q = (u.makeDirsBelow base names).2.node? q := by
  induction names generalizing t u base with
  | nil => exact ⟨rfl, fun _ hq => hq⟩
  | cons n ns ih =>
    have hn : t.node? (base ++ [n]) = u.node? (base ++ [n]) :=
      h _ ⟨ns, append_singleton_append base n ns⟩
    rw [← append_singleton_append] at h
    rw [makeDirsBelow, makeDirsBelow, ← hn]
    split
    · exact ih h
    · exact ⟨rfl, fun _ hq => hq⟩
    · split
      · exact ⟨rfl, fun _ hq => hq⟩
      · obtain ⟨hres, hnodes⟩ := ih (t := t.set (base ++ [n]) .dir) (u := u.set (base ++ [n]) .dir)
          fun q hq => node?_set_congr (h q hq) _ _
        exact ⟨hres, fun q hq => hnodes q (node?_set_congr hq _ _)⟩

/-- A second attempt ends as the first did and changes nothing. -/
theorem makeDirsBelow_again (t : Tree) (base : Path) (names : List String) :
    (t.makeDirsBelow base names).2.makeDirsBelow base names = t.makeDirsBelow base names := by
  induction names generalizing t base with
  | nil => rfl
  | cons n ns ih =>
    -- Once the first directory is there, the rest is the induction hypothesis.
    have hdir : ∀ t : Tree, t.node? (base ++ [n]) = some .dir →
        (t.makeDirsBelow (base ++ [n]) ns).2.makeDirsBelow base (n :: ns) =
          t.makeDirsBelow (base ++ [n]) ns := by
      intro t ht
      have hstill := (madeOn_makeDirsBelow t (base ++ [n]) ns).some ht
      rw [makeDirsBelow, hstill]
      exact ih t (base ++ [n])
    cases hnode : t.node? (base ++ [n]) with
    | none =>
      by_cases hlong : tooLong n = true
      · simp [makeDirsBelow, hnode, hlong]
      · have hne : base ++ [n] ≠ [] := by simp
        have hstep : t.makeDirsBelow base (n :: ns) =
            (t.set (base ++ [n]) .dir).makeDirsBelow (base ++ [n]) ns := by
          rw [makeDirsBelow, hnode]
          simp only [if_neg hlong]
        rw [hstep]
        exact hdir _ (t.node?_set_self hne .dir)
    | some node =>
      cases node with
      | file bytes => simp [makeDirsBelow, hnode]
      | dir =>
        have hstep : t.makeDirsBelow base (n :: ns) = t.makeDirsBelow (base ++ [n]) ns := by
          rw [makeDirsBelow, hnode]
        rw [hstep]
        exact hdir t hnode

theorem madeOn_makeDirs (t : Tree) (p : Path) : MadeOn p t (t.makeDirs p).2 := by
  rw [makeDirs]
  split
  · exact .refl _ _
  · split
    · exact .refl _ _
    · exact madeOn_makeDirsBelow t [] p

theorem node?_makeDirs {t : Tree} {p q : Path} (h : (t.makeDirs p).1 = .ok ()) (hq : q <+: p) :
    (t.makeDirs p).2.node? q = some .dir := by
  rw [makeDirs] at h ⊢
  split at h
  · cases h
  · rename_i hnul
    split at h
    · cases h
    · rename_i hlong
      rw [if_neg hnul, if_neg hlong]
      exact node?_makeDirsBelow t.node?_root h List.nil_prefix hq

theorem makeDirs_congr {t u : Tree} {p : Path} (h : ∀ q, q <+: p → t.node? q = u.node? q) :
    (t.makeDirs p).1 = (u.makeDirs p).1 ∧
      ∀ q, t.node? q = u.node? q → (t.makeDirs p).2.node? q = (u.makeDirs p).2.node? q := by
  rw [makeDirs, makeDirs]
  split
  · exact ⟨rfl, fun _ hq => hq⟩
  · split
    · exact ⟨rfl, fun _ hq => hq⟩
    · exact makeDirsBelow_congr h

theorem makeDirs_again (t : Tree) (p : Path) : (t.makeDirs p).2.makeDirs p = t.makeDirs p := by
  by_cases hnul : p.any hasNul = true
  · simp only [makeDirs, if_pos hnul]
  · by_cases hlong : pathLimit ≤ (pathText p).utf8ByteSize
    · simp only [makeDirs, if_neg hnul, if_pos hlong]
    · simp only [makeDirs, if_neg hnul, if_neg hlong]
      exact makeDirsBelow_again t [] p

/-! ## Writing files -/

theorem writeFile_cases (t : Tree) (p : Path) (bytes : ByteArray) :
    (∃ e, t.writeFile p bytes = (.error e, t)) ∨
      (t.writeFile p bytes = (.ok (), t.set p (.file bytes)) ∧ p ≠ [] ∧ p.any hasNul = false ∧
        t.node? p ≠ some .dir) := by
  rw [writeFile]
  cases hp : p.getLast? with
  | none => exact .inl ⟨_, rfl⟩
  | some name =>
    have hne : p ≠ [] := by
      rintro rfl
      cases hp
    by_cases hnul : p.any hasNul = true
    · exact .inl ⟨.nulByte, by simp only [if_pos hnul]⟩
    · by_cases hlong : (tooLong name || pathLimit ≤ (pathText p).utf8ByteSize) = true
      · exact .inl ⟨.nameTooLong, by simp only [if_neg hnul, if_pos hlong]⟩
      · simp only [if_neg hnul, if_neg hlong]
        split
        · exact .inl ⟨_, rfl⟩
        · exact .inl ⟨_, rfl⟩
        · exact .inl ⟨_, rfl⟩
        · rename_i hdir
          exact .inr ⟨rfl, hne, Bool.eq_false_iff.2 hnul, hdir⟩

theorem remove_set {t : Tree} {p : Path} (hp : p ≠ []) (hnone : t.node? p = none) (n : Node) :
    (t.set p n).remove p = t := by
  have habsent : ∀ e ∈ t.nodes, e.1 ≠ p := by
    simpa [node?, hp] using hnone
  have hkeep : (t.nodes.filter fun e => e.1 ≠ p) = t.nodes :=
    List.filter_eq_self.2 fun e he => decide_eq_true (habsent e he)
  rw [remove, set, List.filter_cons_of_neg (by simp), hkeep, hkeep]

theorem createFile_cases (t : Tree) (p : Path) (bytes : ByteArray) :
    (∃ e, t.createFile p bytes = (.error e, t)) ∨
      (t.createFile p bytes = (.ok (), t.set p (.file bytes)) ∧ p ≠ [] ∧ p.any hasNul = false ∧
        t.node? p = none) := by
  rw [createFile]
  split
  · exact .inl ⟨_, rfl⟩
  · rename_i hnone
    rcases writeFile_cases t p bytes with h | ⟨h, hne, hnul, -⟩
    · exact .inl h
    · exact .inr ⟨h, hne, hnul, hnone⟩

/-- **Writing beside and moving is writing**: where the temporary file can be made, a file is
replaced as if it were written at once, and whether that succeeds or not, nothing is left of the
temporary file. -/
theorem replaceFile_eq_writeFile {t : Tree} {p : Path} {temp : String} {bytes : ByteArray}
    (h : (t.createFile (beside p temp) bytes).1 = .ok ()) :
    t.replaceFile p temp bytes = t.writeFile p bytes := by
  rcases createFile_cases t (beside p temp) bytes with ⟨e, he⟩ | ⟨hcreate, hne, hnul, hnone⟩
  · rw [he] at h
    cases h
  · have hread : (t.set (beside p temp) (.file bytes)).readFile (beside p temp) = .ok bytes := by
      rw [readFile, hnul, t.node?_set_self hne]
      rfl
    rw [replaceFile, hcreate]
    simp only [rename, hread, remove_set hne hnone]
    rcases writeFile_cases t p bytes with ⟨e, he⟩ | ⟨hok, -⟩
    · simp only [he, remove_set hne hnone]
    · simp only [hok]

/-- A file is replaced at once or the tree is as it was. -/
theorem replaceFile_cases (t : Tree) (p : Path) (temp : String) (bytes : ByteArray) :
    (∃ e, t.replaceFile p temp bytes = (.error e, t)) ∨
      (t.replaceFile p temp bytes = (.ok (), t.set p (.file bytes)) ∧ p ≠ [] ∧
        p.any hasNul = false ∧ t.node? p ≠ some .dir) := by
  rcases createFile_cases t (beside p temp) bytes with ⟨e, he⟩ | ⟨hcreate, -⟩
  · exact .inl ⟨e, by simp only [replaceFile, he]⟩
  · rw [replaceFile_eq_writeFile (by rw [hcreate])]
    exact writeFile_cases t p bytes

/-- A file that cannot be written leaves nothing behind but directories above it. One that can was
no directory before. -/
theorem writeDeep_cases (t : Tree) (p : Path) (bytes : ByteArray) :
    ∃ t', MadeOn p t t' ∧ ((∃ e, t.writeDeep p bytes = (.error e, t')) ∨
      (t.writeDeep p bytes = (.ok (), t'.set p (.file bytes)) ∧ p ≠ [] ∧ p.any hasNul = false ∧
        t'.node? p ≠ some .dir)) := by
  have hmade : MadeOn p t (t.makeDirs p.dropLast).2 :=
    (madeOn_makeDirs t p.dropLast).mono (List.dropLast_prefix p)
  refine ⟨(t.makeDirs p.dropLast).2, hmade, ?_⟩
  rw [writeDeep]
  cases h : t.makeDirs p.dropLast with
  | mk result t' =>
    cases result with
    | error e => exact .inl ⟨e, rfl⟩
    | ok _ => exact replaceFile_cases t' p (t'.freeName p.dropLast) bytes

theorem readFile_eq_ok_iff {t : Tree} {p : Path} {bytes : ByteArray} :
    t.readFile p = .ok bytes ↔ p.any hasNul = false ∧ t.node? p = some (.file bytes) := by
  rw [readFile]
  by_cases hnul : p.any hasNul = true
  · simp [hnul]
  · rw [if_neg hnul]
    simp only [Bool.eq_false_iff.2 hnul, true_and]
    cases t.node? p with
    | none => simp
    | some node => cases node <;> simp

/-! ## Changes below one directory -/

/-- What belongs to a directory of the tree, now or when the directory is made: what is below it,
and those directories above it that are missing. -/
def Reserved (t : Tree) (dir q : Path) : Prop := dir <+: q ∨ (q <+: dir ∧ t.node? q = none)

instance (t : Tree) (dir q : Path) : Decidable (t.Reserved dir q) :=
  inferInstanceAs (Decidable (dir <+: q ∨ (q <+: dir ∧ t.node? q = none)))

/-- `t'` differs from `t` by what belongs to `dir` only, where nothing has gone and directories are
directories still. -/
structure FilledBelow (dir : Path) (t t' : Tree) : Prop where
  off : ∀ q, ¬ t.Reserved dir q → t'.node? q = t.node? q
  present : ∀ q, t.node? q ≠ none → t'.node? q ≠ none
  dirs : ∀ q, t.node? q = some .dir → t'.node? q = some .dir

/-- Less is reserved when more is there. -/
theorem Reserved.of_present {t t' : Tree} {dir q : Path} (h : t'.Reserved dir q)
    (hpresent : t.node? q ≠ none → t'.node? q ≠ none) : t.Reserved dir q := by
  rcases h with h | ⟨hq, hnone⟩
  · exact .inl h
  · exact .inr ⟨hq, Classical.not_not.1 fun hne => hpresent hne hnone⟩

theorem FilledBelow.refl (dir : Path) (t : Tree) : FilledBelow dir t t :=
  ⟨fun _ _ => rfl, fun _ h => h, fun _ h => h⟩

theorem FilledBelow.trans {dir : Path} {t t' t'' : Tree} (h : FilledBelow dir t t')
    (h' : FilledBelow dir t' t'') : FilledBelow dir t t'' where
  off q hq := by
    rw [h'.off q fun hr => hq (hr.of_present (h.present q)), h.off q hq]
  present q hq := h'.present q (h.present q hq)
  dirs q hq := h'.dirs q (h.dirs q hq)

theorem MadeOn.present {p q : Path} {t t' : Tree} (h : MadeOn p t t') (hq : t.node? q ≠ none) :
    t'.node? q ≠ none := by
  obtain ⟨n, hn⟩ := Option.ne_none_iff_exists'.1 hq
  rw [h.some hn]
  simp

/-- Directories on the way to a place below `dir` are at or below it, or missing ones above. -/
theorem MadeOn.filledBelow {dir p : Path} {t t' : Tree} (h : MadeOn (dir ++ p) t t') :
    FilledBelow dir t t' where
  off q hq := by
    rcases h q with he | ⟨hp, hnone, -⟩
    · exact he
    · rcases List.prefix_or_prefix_of_prefix hp (List.prefix_append dir p) with hle | hle
      · exact absurd (.inr ⟨hle, hnone⟩) hq
      · exact absurd (.inl hle) hq
  present _ hq := h.present hq
  dirs _ hq := h.some hq

theorem filledBelow_makeDirs (t : Tree) (dir : Path) :
    FilledBelow dir t (t.makeDirs dir).2 := by
  have hmade : MadeOn (dir ++ []) t (t.makeDirs dir).2 :=
    (madeOn_makeDirs t dir).mono (List.prefix_append dir [])
  exact hmade.filledBelow

theorem filledBelow_set {t : Tree} {dir p : Path} {bytes : ByteArray}
    (hdir : t.node? (dir ++ p) ≠ some .dir) :
    FilledBelow dir t (t.set (dir ++ p) (.file bytes)) := by
  have hne : dir ++ p ≠ [] := fun hnil => hdir (by rw [hnil, node?_root])
  refine ⟨fun q hq => ?_, fun q hq => ?_, fun q hq => ?_⟩
  · exact t.node?_set_of_ne (fun he => hq (.inl ⟨p, he⟩)) _
  · by_cases he : dir ++ p = q
    · subst he
      rw [t.node?_set_self hne]
      simp
    · rwa [t.node?_set_of_ne he]
  · by_cases he : dir ++ p = q
    · subst he
      exact absurd hq hdir
    · rwa [t.node?_set_of_ne he]

theorem filledBelow_writeDeep (t : Tree) (dir p : Path) (bytes : ByteArray) :
    FilledBelow dir t (t.writeDeep (dir ++ p) bytes).2 := by
  obtain ⟨t', hmade, ⟨e, h⟩ | ⟨h, -, -, hdir⟩⟩ := t.writeDeep_cases (dir ++ p) bytes
  · rw [h]
    exact hmade.filledBelow
  · rw [h]
    exact hmade.filledBelow.trans (filledBelow_set hdir)

end Tree

/-! ## Following a path -/

/-- The paths that are looked at on the way along names from a directory. -/
def trail (base : Path) : List String → List Path
  | [] => []
  | n :: ns =>
    if n = "" ∨ n = "." then trail base ns
    else if n = ".." then trail base.dropLast ns
    else (base ++ [n]) :: trail (base ++ [n]) ns

/-- The paths that are looked at when a text is resolved. -/
def textTrail (cwd : Path) (s : String) : List Path :=
  trail (if s.toList.head? = some '/' then [] else cwd) (Text.split '/' s)

theorem walk_congr {look look' : Path → Option Node} {base : Path} {node : Node}
    {names : List String} (h : ∀ q ∈ trail base names, look q = look' q) :
    walk look base node names = walk look' base node names := by
  induction names generalizing base node with
  | nil => rfl
  | cons n ns ih =>
    rw [trail] at h
    rw [walk, walk]
    by_cases hskip : n = "" ∨ n = "."
    · rw [if_pos hskip] at h
      simp only [if_pos hskip, ih h]
    · rw [if_neg hskip] at h
      by_cases hup : n = ".."
      · rw [if_pos hup] at h
        simp only [if_neg hskip, if_pos hup, ih h]
      · rw [if_neg hup] at h
        obtain ⟨hn, hns⟩ := List.forall_mem_cons.1 h
        simp only [if_neg hskip, if_neg hup, hn, ih hns]

/-- What a text leads to hangs on the nodes of its trail alone. -/
theorem resolve_congr {look look' : Path → Option Node} {cwd : Path} {s : String}
    (h : ∀ q ∈ textTrail cwd s, look q = look' q) :
    resolve look cwd s = resolve look' cwd s := by
  rw [resolve, resolve, walk_congr h]

end Files
end DexQuery
