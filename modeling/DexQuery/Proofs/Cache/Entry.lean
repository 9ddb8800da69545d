import DexQuery.Cache.Basic
import DexQuery.Proofs.Files.Tree
import Mathlib.Data.List.Basic

/-!
# Cache entries

No two entries share a file (`Cache.entry?_inj`), so storing a text changes what is found under its
own key, bucket and name and under no other, and storing nothing because the file cannot be written
changes nothing that is found (`Cache.get_put_self`, `Cache.get_put_of_ne`,
`Cache.get_put_of_error`).
-/

namespace DexQuery

/-! ## Places of entries -/

theorem Bucket.dirName_injective {b b' : Bucket} (h : b.dirName = b'.dirName) : b = b' := by
  cases b <;> cases b' <;> first | rfl | exact absurd h (by decide)

namespace Cache

theorem segments?_eq_some {name : String} {segs : List String} (h : segments? name = some segs) :
    segs = Text.split '/' name := by
  simp only [segments?] at h
  split at h
  · exact (Option.some.inj h).symm
  · cases h

/-- An entry is a file in directories, below the directory of its bucket. -/
theorem entry?_eq_some_iff {key : String} {b : Bucket} {name : String} {p : Files.Path} :
    entry? key b name = some p ↔ validKey key = true ∧ ∃ dirs file,
      segments? name = some (dirs ++ [file]) ∧
      p = key :: b.dirName :: dirs ++ [file ++ b.extension] := by
  unfold entry?
  split
  · rename_i hkey
    cases hsegs : segments? name with
    | none => simp
    | some segs =>
      obtain rfl | ⟨dirs, file, rfl⟩ := segs.eq_nil_or_concat'
      · simp
      · simp only [List.getLast?_concat, List.dropLast_concat]
        constructor
        · intro h
          exact ⟨hkey, dirs, file, rfl, (Option.some.inj h).symm⟩
        · rintro ⟨-, dirs', file', hsame, rfl⟩
          obtain ⟨rfl, hfile⟩ := List.append_inj' (Option.some.inj hsame) rfl
          rw [List.singleton_inj.1 hfile]
  · rename_i hkey
    simp [hkey]

/-- A name that leads from a directory to a node in it: no step to itself or to the directory
above, and one step only. -/
structure PlainName (n : String) : Prop where
  ne_empty : n ≠ ""
  ne_self : n ≠ "."
  ne_above : n ≠ ".."
  one_step : '/' ∉ n.toList

theorem plainName_of_validKey {key : String} (h : validKey key = true) : PlainName key := by
  refine ⟨?_, ?_, ?_, fun hslash => ?_⟩
  · rintro rfl
    exact absurd h (by decide)
  · rintro rfl
    exact absurd h (by decide)
  · rintro rfl
    exact absurd h (by decide)
  · simp only [validKey, Bool.and_eq_true, List.all_eq_true] at h
    exact absurd (h.2 '/' hslash) (by decide)

theorem plainName_dirName (b : Bucket) : PlainName b.dirName := by
  cases b <;> exact ⟨by decide, by decide, by decide, by decide⟩

theorem plainName_of_mem_segments {name n : String} {segs : List String}
    (h : segments? name = some segs) (hn : n ∈ segs) : PlainName n := by
  have hsegs := segments?_eq_some h
  simp only [segments?] at h
  split at h
  · rename_i hvalid
    obtain rfl := Option.some.inj h
    simp only [Bool.and_eq_true, List.all_eq_true, validSegment, bne_iff_ne] at hvalid
    obtain ⟨⟨hempty, hself⟩, habove⟩ := hvalid.2 n hn
    refine ⟨hempty, hself, habove, ?_⟩
    obtain ⟨piece, hpiece, rfl⟩ := List.mem_map.1 hn
    rw [String.toList_ofList]
    intro hslash
    cases Text.not_sep_of_mem_pieces hpiece hslash
  · cases h

theorem PlainName.append_extension {n : String} (h : PlainName n) (b : Bucket) :
    PlainName (n ++ b.extension) := by
  have hlong : ∀ s : String, s.toList.length ≤ 2 → n ++ b.extension ≠ s := by
    rintro s hs rfl
    rw [String.toList_append, List.length_append] at hs
    have : 5 ≤ b.extension.toList.length := by cases b <;> decide
    omega
  refine ⟨hlong _ (by decide), hlong _ (by decide), hlong _ (by decide), fun hslash => ?_⟩
  rw [String.toList_append, List.mem_append] at hslash
  rcases hslash with hslash | hslash
  · exact h.one_step hslash
  · revert hslash
    cases b <;> decide

/-- Each step on the way to an entry leads further down. -/
theorem plainName_of_mem_entry? {key : String} {b : Bucket} {name : String} {p : Files.Path}
    (h : entry? key b name = some p) {n : String} (hn : n ∈ p) : PlainName n := by
  obtain ⟨hkey, dirs, file, hsegs, rfl⟩ := entry?_eq_some_iff.1 h
  simp only [List.cons_append, List.mem_cons, List.mem_append, List.not_mem_nil, or_false] at hn
  rcases hn with rfl | rfl | hn | rfl
  · exact plainName_of_validKey hkey
  · exact plainName_dirName b
  · exact plainName_of_mem_segments hsegs (List.mem_append_left _ hn)
  · exact (plainName_of_mem_segments hsegs (by simp)).append_extension b

/-- Different keys, buckets or names have different places. -/
theorem entry?_inj {key key' : String} {b b' : Bucket} {name name' : String} {p : Files.Path}
    (h : entry? key b name = some p) (h' : entry? key' b' name' = some p) :
    key = key' ∧ b = b' ∧ name = name' := by
  obtain ⟨-, dirs, file, hname, rfl⟩ := entry?_eq_some_iff.1 h
  obtain ⟨-, dirs', file', hname', hp⟩ := entry?_eq_some_iff.1 h'
  simp only [List.cons_append, List.cons.injEq] at hp
  obtain ⟨rfl, hb, hp⟩ := hp
  obtain rfl := Bucket.dirName_injective hb
  obtain ⟨rfl, hfile⟩ := List.append_inj' hp rfl
  have hlist := congrArg String.toList (List.singleton_inj.1 hfile)
  simp only [String.toList_append] at hlist
  obtain rfl := String.toList_inj.1 (List.append_cancel_right hlist)
  exact ⟨rfl, rfl, Text.split_injective
    ((segments?_eq_some hname).symm.trans (segments?_eq_some hname'))⟩

/-! ## Storing and finding -/

variable {c : Cache} {t t' : Files.Tree} {key key' : String} {b b' : Bucket}
  {name name' text : String}

theorem get_eq_some_iff : c.get t key b name = some text ↔
    ∃ p bytes, entry? key b name = some p ∧ (c.root ++ p).any Files.hasNul = false ∧
      t.node? (c.root ++ p) = some (.file bytes) ∧ String.fromUTF8? bytes = some text := by
  rw [get]
  cases entry? key b name with
  | none => simp
  | some p =>
    simp only [Option.some.injEq, exists_and_left, exists_eq_left']
    cases hread : t.readFile (c.root ++ p) with
    | ok bytes =>
      obtain ⟨hnul, hnode⟩ := Files.Tree.readFile_eq_ok_iff.1 hread
      simp [hnul, hnode]
    | error e =>
      simp only [reduceCtorEq, false_iff, not_exists, not_and]
      intro hnul bytes hnode
      rw [Files.Tree.readFile_eq_ok_iff.2 ⟨hnul, hnode⟩] at hread
      cases hread

/-- What is found hangs on the files alone. -/
theorem get_congr (h : ∀ p, entry? key b name = some p → ∀ bytes,
    t'.node? (c.root ++ p) = some (.file bytes) ↔ t.node? (c.root ++ p) = some (.file bytes)) :
    c.get t' key b name = c.get t key b name := by
  refine Option.ext fun text => ?_
  rw [get_eq_some_iff, get_eq_some_iff]
  constructor
  · rintro ⟨p, bytes, hp, hnul, hnode, htext⟩
    exact ⟨p, bytes, hp, hnul, (h p hp bytes).1 hnode, htext⟩
  · rintro ⟨p, bytes, hp, hnul, hnode, htext⟩
    exact ⟨p, bytes, hp, hnul, (h p hp bytes).2 hnode, htext⟩

/-- Nothing is found in the cache. -/
def IsEmpty (c : Cache) (t : Files.Tree) : Prop :=
  ∀ key b name, c.get t key b name = none

/-- A cache is empty when the tree has nothing in its directory. -/
theorem isEmpty_of_nodes {c : Cache} {t : Files.Tree}
    (h : ∀ e ∈ t.nodes, ¬ c.root <+: e.1) : c.IsEmpty t := by
  intro key b name
  refine Option.eq_none_iff_forall_ne_some.2 fun text hget => ?_
  obtain ⟨p, bytes, -, -, hnode, -⟩ := get_eq_some_iff.1 hget
  rw [Files.Tree.node?] at hnode
  split at hnode
  · cases hnode
  · obtain ⟨e, he, -⟩ := Option.map_eq_some_iff.1 hnode
    have hpath : e.1 = c.root ++ p := by simpa using List.find?_some he
    exact h e (List.mem_of_find?_eq_some he) (hpath ▸ List.prefix_append c.root p)

theorem fromUTF8?_toUTF8 (s : String) : String.fromUTF8? s.toUTF8 = some s := by
  exact dif_pos s.isValidUTF8

/-- Storing fails, with no file changed, or it writes the file of the entry. -/
theorem put_cases (c : Cache) (t : Files.Tree) (key : String) (b : Bucket) (name text : String) :
    (∃ f t', c.put t key b name text = (.error f, t') ∧ ∀ q bytes,
      t'.node? q = some (.file bytes) ↔ t.node? q = some (.file bytes)) ∨
    ∃ p t', entry? key b name = some p ∧ (c.root ++ p).any Files.hasNul = false ∧
      c.put t key b name text = (.ok (), t') ∧
      t'.node? (c.root ++ p) = some (.file text.toUTF8) ∧ ∀ q bytes, c.root ++ p ≠ q →
        (t'.node? q = some (.file bytes) ↔ t.node? q = some (.file bytes)) := by
  rw [put]
  cases entry? key b name with
  | none => exact .inl ⟨_, t, rfl, fun _ _ => .rfl⟩
  | some p =>
    obtain ⟨t', hmade, ⟨e, h⟩ | ⟨h, hne, hnul, -⟩⟩ := t.writeDeep_cases (c.root ++ p) text.toUTF8
    · simp only [h]
      exact .inl ⟨_, t', rfl, fun _ _ => hmade.file_iff⟩
    · simp only [h]
      refine .inr ⟨p, _, rfl, hnul, rfl, t'.node?_set_self hne _, fun q bytes hq => ?_⟩
      rw [t'.node?_set_of_ne hq]
      exact hmade.file_iff

/-- A text that could not be stored changes nothing that is found. -/
theorem get_put_of_error {f : Failure} (h : c.put t key b name text = (.error f, t'))
    (key' : String) (b' : Bucket) (name' : String) :
    c.get t' key' b' name' = c.get t key' b' name' := by
  rcases put_cases c t key b name text with ⟨f', u, hput, hfiles⟩ | ⟨p, u, -, -, hput, -⟩
  · obtain ⟨-, rfl⟩ := Prod.mk.inj (hput.symm.trans h)
    exact get_congr fun p _ => hfiles _
  · cases hput.symm.trans h

/-- A text that has been stored is found. -/
theorem get_put_self (h : c.put t key b name text = (.ok (), t')) :
    c.get t' key b name = some text := by
  rcases put_cases c t key b name text with ⟨f, u, hput, -⟩ | ⟨p, u, hp, hnul, hput, hnode, -⟩
  · cases hput.symm.trans h
  · obtain ⟨-, rfl⟩ := Prod.mk.inj (hput.symm.trans h)
    exact get_eq_some_iff.2 ⟨p, _, hp, hnul, hnode, fromUTF8?_toUTF8 text⟩

/-- Storing a text changes nothing that is found under another key, bucket or name. -/
theorem get_put_of_ne (h : c.put t key b name text = (.ok (), t'))
    (hne : ¬ (key = key' ∧ b = b' ∧ name = name')) :
    c.get t' key' b' name' = c.get t key' b' name' := by
  rcases put_cases c t key b name text with ⟨f, u, hput, -⟩ | ⟨p, u, hp, -, hput, -, hothers⟩
  · cases hput.symm.trans h
  · obtain ⟨-, rfl⟩ := Prod.mk.inj (hput.symm.trans h)
    refine get_congr fun p' hp' bytes => hothers _ bytes fun hpp => hne ?_
    rw [← List.append_cancel_left hpp] at hp'
    exact entry?_inj hp hp'

/-- What is found after a text was put was found before, or is that text under its own name. -/
theorem get_put {found : String}
    (h : c.get (c.put t key b name text).2 key' b' name' = some found) :
    c.get t key' b' name' = some found ∨ (key = key' ∧ b = b' ∧ name = name' ∧ text = found) := by
  cases hput : c.put t key b name text with
  | mk result t' =>
    rw [hput] at h
    cases result with
    | error f => exact .inl (get_put_of_error hput key' b' name' ▸ h)
    | ok _ =>
      by_cases heq : key = key' ∧ b = b' ∧ name = name'
      · obtain ⟨rfl, rfl, rfl⟩ := heq
        exact .inr ⟨rfl, rfl, rfl, Option.some.inj ((get_put_self hput).symm.trans h)⟩
      · exact .inl (get_put_of_ne hput heq ▸ h)

theorem filledBelow_put (c : Cache) (t : Files.Tree) (key : String) (b : Bucket)
    (name text : String) : t.FilledBelow c.root (c.put t key b name text).2 := by
  rw [put]
  cases entry? key b name with
  | none => exact .refl _ _
  | some p =>
    have hfill := t.filledBelow_writeDeep c.root p text.toUTF8
    cases h : t.writeDeep (c.root ++ p) text.toUTF8 with
    | mk result t' =>
      rw [h] at hfill
      cases result <;> simpa only [h] using hfill

end Cache

end DexQuery
