import DexQuery.Cache.Key
import DexQuery.Text.Pieces

/-!
# The text of a cache key can be taken apart

A key is the digest of a hash, a version and settings with bars between them. The version may be any
text, bars and settings among it; but no hash holds a bar (`Sha256.bar_notMem_hex`) and no settings
do (`Settings.bar_notMem_canonical`), so the hash ends at the first bar and the settings begin
behind the last one. Hence the text of a key determines what it is made of
(`CacheKey.material_eq_iff`).
-/

namespace DexQuery

/-! ## Cutting at the first and at the last separator -/

namespace Text

variable {sep : Char} {a a' b b' : List Char}

/-- What is before the first separator and what is behind it. -/
theorem append_cons_inj_of_notMem_left (ha : sep ∉ a) (ha' : sep ∉ a')
    (h : a ++ sep :: b = a' ++ sep :: b') : a = a' ∧ b = b' := by
  have hfirst : splitFirst? sep (a ++ sep :: b) = some (a, b) :=
    splitFirst?_eq_some_iff.2 ⟨rfl, ha⟩
  have hfirst' : splitFirst? sep (a ++ sep :: b) = some (a', b') :=
    splitFirst?_eq_some_iff.2 ⟨h, ha'⟩
  exact Prod.mk.inj (Option.some.inj (hfirst.symm.trans hfirst'))

/-- What is before the last separator and what is behind it. -/
theorem append_cons_inj_of_notMem_right (hb : sep ∉ b) (hb' : sep ∉ b')
    (h : a ++ sep :: b = a' ++ sep :: b') : a = a' ∧ b = b' := by
  have hreverse : b.reverse ++ sep :: a.reverse = b'.reverse ++ sep :: a'.reverse := by
    simpa using congrArg List.reverse h
  obtain ⟨hbr, har⟩ := append_cons_inj_of_notMem_left (mt List.mem_reverse.1 hb)
    (mt List.mem_reverse.1 hb') hreverse
  exact ⟨List.reverse_inj.1 har, List.reverse_inj.1 hbr⟩

/-! ## Hexadecimal digits -/

theorem bar_ne_hexDigit {n : Nat} (h : n < 16) : '|' ≠ hexDigit n := by
  revert n
  decide

theorem bar_notMem_hexBytes (bs : List UInt8) : '|' ∉ (hexBytes bs).toList := by
  rw [hexBytes, String.toList_ofList, List.mem_flatMap]
  rintro ⟨b, -, hb⟩
  have hlt : b.toNat < 256 := b.toNat_lt
  rcases List.mem_cons.1 hb with hhigh | hlow
  · exact bar_ne_hexDigit (by omega) hhigh
  · exact bar_ne_hexDigit (by omega) (List.mem_singleton.1 hlow)

theorem hexValue?_hexDigit {n : Nat} (h : n < 16) : hexValue? (hexDigit n) = some n := by
  revert n
  decide

/-- The digits of bytes are read back as these bytes. -/
theorem bytesOfHex?_hexBytes (bs : List UInt8) : bytesOfHex? (hexBytes bs).toList = some bs := by
  rw [hexBytes, String.toList_ofList]
  induction bs with
  | nil => rfl
  | cons b bs ih =>
    have hlt : b.toNat < 256 := b.toNat_lt
    have hhigh : hexValue? (hexDigit (b.toNat / 16)) = some (b.toNat / 16) :=
      hexValue?_hexDigit (by omega)
    have hlow : hexValue? (hexDigit (b.toNat % 16)) = some (b.toNat % 16) :=
      hexValue?_hexDigit (by omega)
    simp only [List.flatMap_cons, hexByte, List.cons_append, List.nil_append, bytesOfHex?, hhigh,
      hlow, ih, Nat.div_add_mod, UInt8.ofNat_toNat]

end Text

/-! ## Digests -/

namespace Sha256

theorem bar_notMem_hex (m : ByteArray) : '|' ∉ (hex m).toList := Text.bar_notMem_hexBytes _

/-- Digests that are written alike are equal. -/
theorem digest_eq_of_hex_eq {m m' : ByteArray} (h : hex m = hex m') : digest m = digest m' := by
  have hread := congrArg (fun text : String => Text.bytesOfHex? text.toList) h
  simp only [hex, Text.bytesOfHex?_hexBytes] at hread
  exact Option.some.inj hread

/-- Two different messages with one digest. -/
structure Collide (m m' : ByteArray) : Prop where
  ne : m ≠ m'
  digest_eq : digest m = digest m'

theorem eq_or_collide {m m' : ByteArray} (h : hex m = hex m') : m = m' ∨ Collide m m' := by
  by_cases hm : m = m'
  · exact .inl hm
  · exact .inr ⟨hm, digest_eq_of_hex_eq h⟩

end Sha256

/-! ## Settings -/

namespace Settings

/-- Neither word for a truth value begins the other, so behind the same beginning the same value
stands, with the same behind it. -/
theorem append_boolText_inj {front r r' : List Char} {b b' : Bool}
    (h : front ++ ((boolText b).toList ++ r) = front ++ ((boolText b').toList ++ r')) :
    b = b' ∧ r = r' := by
  have hword := List.append_cancel_left h
  cases b <;> cases b' <;> simp_all [boolText]

/-- The characters of a text with three words in it, such as `canonical` is. -/
theorem toList_between (a x b y c z d : String) :
    (a ++ x ++ b ++ y ++ c ++ z ++ d).toList = a.toList ++ (x.toList ++ (b.toList ++
      (y.toList ++ (c.toList ++ (z.toList ++ d.toList))))) := by
  simp only [String.toList_append, List.append_assoc]

theorem toList_canonical (s : Settings) : s.canonical.toList =
    "\x7b\"deobfuscation\":".toList ++ ((boolText s.deobfuscation).toList ++
      (",\"inline_methods\":".toList ++ ((boolText s.inlineMethods).toList ++
        (",\"show_inconsistent_code\":".toList ++
          ((boolText s.showInconsistentCode).toList ++ "\x7d".toList))))) :=
  toList_between ..

/-- Different settings have different canonical texts. -/
theorem canonical_injective {s s' : Settings} (h : s.canonical = s'.canonical) : s = s' := by
  have hlist := congrArg String.toList h
  rw [toList_canonical, toList_canonical] at hlist
  obtain ⟨hdeobfuscation, hlist⟩ := append_boolText_inj hlist
  obtain ⟨hinline, hlist⟩ := append_boolText_inj hlist
  obtain ⟨hshow, -⟩ := append_boolText_inj hlist
  cases s
  cases s'
  rw [mk.injEq]
  exact ⟨hdeobfuscation, hinline, hshow⟩

theorem bar_notMem_canonical (s : Settings) : '|' ∉ s.canonical.toList := by
  have hword : ∀ b, '|' ∉ (boolText b).toList := by decide
  simp only [toList_canonical, List.mem_append, hword, false_or]
  decide

end Settings

/-! ## Keys -/

namespace CacheKey

variable {hash hash' version version' : String} {settings settings' : Settings}

theorem toList_material (hash version : String) (settings : Settings) :
    (material hash version settings).toList =
      hash.toList ++ '|' :: (version.toList ++ '|' :: settings.canonical.toList) := by
  simp [material]

/-- The text of a key determines its parts, whatever the version is. -/
theorem material_eq_iff (h : '|' ∉ hash.toList) (h' : '|' ∉ hash'.toList) :
    material hash version settings = material hash' version' settings' ↔
      hash = hash' ∧ version = version' ∧ settings = settings' := by
  constructor
  · intro heq
    have hlist := congrArg String.toList heq
    rw [toList_material, toList_material] at hlist
    obtain ⟨hhash, hrest⟩ := Text.append_cons_inj_of_notMem_left h h' hlist
    obtain ⟨hversion, hsettings⟩ := Text.append_cons_inj_of_notMem_right
      settings.bar_notMem_canonical settings'.bar_notMem_canonical hrest
    exact ⟨String.toList_inj.1 hhash, String.toList_inj.1 hversion,
      Settings.canonical_injective (String.toList_inj.1 hsettings)⟩
  · rintro ⟨rfl, rfl, rfl⟩
    rfl

end CacheKey
end DexQuery
