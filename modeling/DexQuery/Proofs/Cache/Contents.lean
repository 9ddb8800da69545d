import DexQuery.Proofs.Cache.Entry
import DexQuery.Proofs.Files.Writable

/-!
# A cache is a map

A run of writes to a cache whose directory is empty makes it the map of the writes that succeeded:
the latest of them is found under its key, bucket and name (`Cache.get_storeAll`), and there is a
file for each place that was written and no other (`Cache.fileAt_storeAll`). What a write fails
for is known beforehand (`Cache.put_eq_ok_iff`). `Cache.storeAll_refines` puts this together.
-/

namespace DexQuery
namespace Cache

open Files (Tree Path)

/-! ## Runs of writes -/

/-- A text to be stored, and the place for it. -/
structure Write where
  key : String
  bucket : Bucket
  name : String
  text : String

namespace Write

/-- The write is for the place. -/
def IsFor (w : Write) (key : String) (b : Bucket) (name : String) : Prop :=
  w.key = key ∧ w.bucket = b ∧ w.name = name

instance (w : Write) (key : String) (b : Bucket) (name : String) : Decidable (w.IsFor key b name) :=
  inferInstanceAs (Decidable (_ ∧ _ ∧ _))

/-- Where the text is to be stored, if that is a valid place. -/
def place? (w : Write) : Option Path := entry? w.key w.bucket w.name

end Write

/-- Tries a write. -/
def store (c : Cache) (t : Tree) (w : Write) : Except Failure Unit × Tree :=
  c.put t w.key w.bucket w.name w.text

/-- The files after the writes have been tried one after the other. -/
def storeAll (c : Cache) (t : Tree) : List Write → Tree
  | [] => t
  | w :: ws => c.storeAll (c.store t w).2 ws

/-- Those of the writes that succeed. -/
def stored (c : Cache) (t : Tree) : List Write → List Write
  | [] => []
  | w :: ws =>
    match c.store t w with
    | (.ok (), t') => w :: c.stored t' ws
    | (.error _, t') => c.stored t' ws

/-- The text of the latest of the writes for a place. -/
def latest (ws : List Write) (key : String) (b : Bucket) (name : String) : Option String :=
  (ws.reverse.find? fun w => decide (w.IsFor key b name)).map Write.text

theorem latest_cons (w : Write) (ws : List Write) (key : String) (b : Bucket) (name : String) :
    latest (w :: ws) key b name =
      (latest ws key b name).or (if w.IsFor key b name then some w.text else none) := by
  rw [latest, latest, List.reverse_cons, List.find?_append, Option.map_or]
  congr 1
  by_cases h : w.IsFor key b name <;> simp [h]

variable {c : Cache} {t t' : Tree} {w : Write} {ws : List Write} {key name : String} {b : Bucket}

/-! ## What one write does -/

/-- When a text can be stored. -/
theorem put_eq_ok_iff {text : String} : (c.put t key b name text).1 = .ok () ↔
    ∃ p, entry? key b name = some p ∧ ¬ t.Obstructed (c.root ++ p) := by
  rw [put]
  cases entry? key b name with
  | none => simp
  | some p =>
    have hwritten := @Tree.writeDeep_eq_ok_iff t (c.root ++ p) text.toUTF8
    simp only [Option.some.injEq, exists_eq_left', ← hwritten]
    cases h : t.writeDeep (c.root ++ p) text.toUTF8 with
    | mk result t' => cases result <;> simp

theorem get_store (c : Cache) (t : Tree) (w : Write) (key : String) (b : Bucket) (name : String) :
    c.get (c.store t w).2 key b name =
      if (c.store t w).1 = .ok () ∧ w.IsFor key b name then some w.text
      else c.get t key b name := by
  cases h : c.store t w with
  | mk result t' =>
    cases result with
    | error f =>
      rw [if_neg (by simp)]
      exact get_put_of_error h key b name
    | ok _ =>
      by_cases hfor : w.IsFor key b name
      · obtain ⟨rfl, rfl, rfl⟩ := hfor
        rw [if_pos ⟨rfl, rfl, rfl, rfl⟩]
        exact get_put_self h
      · rw [if_neg fun hboth => hfor hboth.2]
        exact get_put_of_ne h hfor

/-- There is a file at the path. -/
def FileAt (t : Tree) (p : Path) : Prop := ∃ bytes, t.node? p = some (.file bytes)

/-- The files below the root afterwards: those from before, and the one that was written. -/
theorem fileAt_store (c : Cache) (t : Tree) (w : Write) (q : Path) :
    FileAt (c.store t w).2 (c.root ++ q) ↔
      FileAt t (c.root ++ q) ∨ ((c.store t w).1 = .ok () ∧ w.place? = some q) := by
  rw [store]
  rcases put_cases c t w.key w.bucket w.name w.text with
    ⟨f, t', hput, hfiles⟩ | ⟨p, t', hp, -, hput, hnode, hothers⟩
  · simp only [hput, FileAt, hfiles]
    simp
  · simp only [hput, FileAt, Write.place?, hp, Option.some.injEq, true_and]
    by_cases hpq : p = q
    · subst hpq
      exact ⟨fun _ => .inr rfl, fun _ => ⟨_, hnode⟩⟩
    · have hne : c.root ++ p ≠ c.root ++ q := fun h => hpq (List.append_cancel_left h)
      simp only [hothers (c.root ++ q) _ hne, hpq, or_false]

/-! ## What a run does -/

/-- A run of writes adds the latest text of each place to what is found. -/
theorem get_storeAll (c : Cache) (t : Tree) (ws : List Write) (key : String) (b : Bucket)
    (name : String) : c.get (c.storeAll t ws) key b name =
      (latest (c.stored t ws) key b name).or (c.get t key b name) := by
  induction ws generalizing t with
  | nil => rfl
  | cons w ws ih =>
    have hstep := c.get_store t w key b name
    rw [storeAll, ih, hstep, stored]
    cases h : c.store t w with
    | mk result t' =>
      cases result with
      | error f => simp
      | ok _ =>
        simp only [true_and, latest_cons, Option.or_assoc]
        congr 1
        split <;> rfl

/-- A run of writes adds a file for each place that was written. -/
theorem fileAt_storeAll (c : Cache) (t : Tree) (ws : List Write) (q : Path) :
    FileAt (c.storeAll t ws) (c.root ++ q) ↔
      FileAt t (c.root ++ q) ∨ ∃ w ∈ c.stored t ws, w.place? = some q := by
  induction ws generalizing t with
  | nil => simp [storeAll, stored]
  | cons w ws ih =>
    have hstep := c.fileAt_store t w q
    rw [storeAll, ih, hstep, stored]
    cases h : c.store t w with
    | mk result t' => cases result <;> simp [or_assoc]

theorem filledBelow_storeAll (c : Cache) (t : Tree) (ws : List Write) :
    t.FilledBelow c.root (c.storeAll t ws) := by
  induction ws generalizing t with
  | nil => exact .refl _ _
  | cons w ws ih => exact (filledBelow_put ..).trans (ih _)

/-! ## The map -/

/-- Nothing is below the root. -/
def Vacant (c : Cache) (t : Tree) : Prop := ∀ q, q ≠ [] → t.node? (c.root ++ q) = none

theorem Vacant.get (h : c.Vacant t) : c.get t key b name = none := by
  refine Option.eq_none_iff_forall_ne_some.2 fun text hget => ?_
  obtain ⟨p, bytes, hp, -, hnode, -⟩ := get_eq_some_iff.1 hget
  obtain ⟨-, dirs, file, -, rfl⟩ := entry?_eq_some_iff.1 hp
  rw [h _ (by simp)] at hnode
  cases hnode

theorem Vacant.not_fileAt (h : c.Vacant t) {q : Path} (hq : q ≠ []) :
    ¬ FileAt t (c.root ++ q) := by
  rintro ⟨bytes, hnode⟩
  rw [h q hq] at hnode
  cases hnode

/-- The cache is the map of those of the writes that have succeeded, and its directory holds the
files for them. -/
structure Refines (c : Cache) (t : Tree) (ws : List Write) : Prop where
  /-- The latest text that was stored for a place is found there, and nothing where none was. -/
  found : ∀ key b name,
    c.get (c.storeAll t ws) key b name = latest (c.stored t ws) key b name
  /-- A write succeeds exactly if its place is valid and free to be written when it is tried. -/
  succeeds : ∀ before w after, ws = before ++ w :: after →
    ((c.store (c.storeAll t before) w).1 = .ok () ↔
      ∃ p, w.place? = some p ∧ ¬ (c.storeAll t before).Obstructed (c.root ++ p))
  /-- A write that fails changes nothing that is found anywhere. -/
  failed : ∀ before w after, ws = before ++ w :: after →
    (c.store (c.storeAll t before) w).1 ≠ .ok () → ∀ key b name,
      c.get (c.store (c.storeAll t before) w).2 key b name =
        c.get (c.storeAll t before) key b name
  /-- The files below the root are those of the places that were written. A temporary file is none
  of them. -/
  files : ∀ q, q ≠ [] →
    (FileAt (c.storeAll t ws) (c.root ++ q) ↔ ∃ w ∈ c.stored t ws, w.place? = some q)
  /-- Each of them is the name's own path, with the extension at its end, in the directory of its
  key and bucket, and the way there leads nowhere else. -/
  places : ∀ w ∈ c.stored t ws, ∃ q dirs file, w.place? = some q ∧
    Text.split '/' w.name = dirs ++ [file] ∧
    q = w.key :: w.bucket.dirName :: dirs ++ [file ++ w.bucket.extension] ∧
    ∀ n ∈ q, PlainName n
  /-- Outside of the directory nothing is changed. -/
  elsewhere : t.FilledBelow c.root (c.storeAll t ws)

theorem place_of_mem_stored (c : Cache) (t : Tree) {ws : List Write} (h : w ∈ c.stored t ws) :
    ∃ p, w.place? = some p := by
  induction ws generalizing t with
  | nil => cases h
  | cons w' ws ih =>
    rw [stored] at h
    cases hstore : c.store t w' with
    | mk result t' =>
      rw [hstore] at h
      cases result with
      | error f => exact ih t' h
      | ok _ =>
        rcases List.mem_cons.1 h with rfl | h
        · obtain ⟨p, hp, -⟩ := put_eq_ok_iff.1 (congrArg Prod.fst hstore)
          exact ⟨p, hp⟩
        · exact ih t' h

/-- **A cache refines a map.** Whatever is written to an empty cache, valid or not and in whatever
order, what is found in it and which files it consists of is told by the writes that succeeded. -/
theorem storeAll_refines (c : Cache) (t : Tree) (hvacant : c.Vacant t) (ws : List Write) :
    c.Refines t ws where
  found key b name := by
    rw [get_storeAll, hvacant.get, Option.or_none]
  succeeds before w after _ := put_eq_ok_iff
  failed before w after _ hfailed key b name := by
    rw [get_store, if_neg fun h => hfailed h.1]
  files q hq := by
    rw [fileAt_storeAll, or_iff_right (hvacant.not_fileAt hq)]
  places w hw := by
    obtain ⟨q, hq⟩ := c.place_of_mem_stored t hw
    obtain ⟨-, dirs, file, hsegs, hplace⟩ := entry?_eq_some_iff.1 hq
    exact ⟨q, dirs, file, hq, (segments?_eq_some hsegs).symm, hplace,
      fun n hn => plainName_of_mem_entry? hq hn⟩
  elsewhere := filledBelow_storeAll c t ws

/-- Six writes, of which the third and the fourth fail: a file is where the one needs a directory,
and the name of the other leads out of the bucket. -/
def sampleWrites : List Write :=
  [⟨"k", .source, "a", "one"⟩, ⟨"k", .disasm, "a", "two"⟩, ⟨"k", .source, "a.java/b", "three"⟩,
    ⟨"k", .source, "../a", "four"⟩, ⟨"k", .source, "a", "five"⟩, ⟨"k", .source, "b/c", "six"⟩]

theorem storeAll_refines_sample :
    Vacant ⟨"/c", ["c"]⟩ .empty ∧ Refines ⟨"/c", ["c"]⟩ .empty sampleWrites ∧
      (stored ⟨"/c", ["c"]⟩ .empty sampleWrites).map Write.text =
        ["one", "two", "five", "six"] := by
  have hvacant : Vacant ⟨"/c", ["c"]⟩ .empty := by
    intro q hq
    simp [Tree.node?, Tree.empty]
  exact ⟨hvacant, storeAll_refines _ _ hvacant _, by decide +kernel⟩

end Cache
end DexQuery
