import FlutterInstaller.Proofs.Text.Case
import FlutterInstaller.Proofs.Uuid.Text

/-!
The spellings of an identifier. Its digits are written in either case, bare, in five groups, in groups
in braces, or in groups after the name of a scheme; every one of them is read for the identifier, and
nothing else is. The canonical text is the one spelling in groups that has no capital.
-/
namespace FlutterInstaller

open Text (SameLetter SameUpToCase)

namespace HexDigit

theorem toNat_char (d : HexDigit) :
    d.char.toNat = if d.val < 10 then 48 + d.val else 87 + d.val := by
  revert d
  decide

theorem isUpper_char (d : HexDigit) : d.char.isUpper = false := by
  revert d
  decide

theorem ofChar?_eq_some_iff {c : Char} {d : HexDigit} :
    ofChar? c = some d ↔ SameLetter c d.char := by
  have hd := d.isLt
  rw [SameLetter, ← Char.toNat_inj, isUpper_char, Text.isUpper_iff, toNat_char, ofChar?]
  simp only [ofNat]
  split_ifs <;> simp [Fin.ext_iff] <;> omega

end HexDigit

namespace Uuid

variable {u v : Uuid} {cs flat : List Char}

def Writes (u : Uuid) (cs : List Char) : Prop :=
  List.Forall₂ SameLetter cs (u.digits.map HexDigit.char)

def Hyphenated (u : Uuid) (cs : List Char) : Prop :=
  ∃ a b c d e : List Char, a.length = 8 ∧ b.length = 4 ∧ c.length = 4 ∧ d.length = 4 ∧
    e.length = 12 ∧ u.Writes (a ++ b ++ c ++ d ++ e) ∧
    cs = a ++ '-' :: b ++ '-' :: c ++ '-' :: d ++ '-' :: e

inductive Spelling (u : Uuid) : List Char → Prop
  | bare {cs : List Char} (h : u.Writes cs) : Spelling u cs
  | hyphenated {cs : List Char} (h : u.Hyphenated cs) : Spelling u cs
  | braced {cs : List Char} (h : u.Hyphenated cs) : Spelling u ('{' :: cs ++ ['}'])
  | named {s : String} {cs : List Char} (hs : SameUpToCase s "urn:uuid:") (h : u.Hyphenated cs) :
      Spelling u (s.toList ++ cs)

theorem Writes.length (h : u.Writes cs) : cs.length = 32 := by
  rw [h.length_eq, List.length_map, u.length_digits]

theorem Writes.exists_digit (h : u.Writes cs) {c : Char} (hc : c ∈ cs) :
    ∃ d : HexDigit, SameLetter c d.char := by
  obtain ⟨_, hmem, hsame⟩ := Text.exists_sameLetter h hc
  obtain ⟨d, -, rfl⟩ := List.mem_map.mp hmem
  exact ⟨d, hsame⟩

theorem Writes.not_mem (h : u.Writes cs) {c : Char} (hc : HexDigit.ofChar? c = none) : c ∉ cs := by
  intro hmem
  obtain ⟨d, hd⟩ := h.exists_digit hmem
  rw [HexDigit.ofChar?_eq_some_iff.mpr hd] at hc
  cases hc

theorem mapM_ofChar?_eq_some_iff {ds : List HexDigit} : cs.mapM HexDigit.ofChar? = some ds ↔
    List.Forall₂ SameLetter cs (ds.map HexDigit.char) := by
  induction cs generalizing ds with
  | nil => simp [eq_comm]
  | cons c cs ih =>
    have hcons : (c :: cs).mapM HexDigit.ofChar? = some ds ↔
        ∃ d, HexDigit.ofChar? c = some d ∧ ∃ es, cs.mapM HexDigit.ofChar? = some es ∧ d :: es = ds := by
      simp [List.mapM_cons, Option.bind_eq_some_iff]
    simp only [hcons, HexDigit.ofChar?_eq_some_iff, ih, List.forall₂_cons_left_iff]
    constructor
    · rintro ⟨d, hd, es, hes, rfl⟩
      exact ⟨_, _, hd, hes, rfl⟩
    · rintro ⟨_, _, hd, hes, hds⟩
      obtain ⟨d, es, rfl, rfl, rfl⟩ := List.map_eq_cons_iff.mp hds
      exact ⟨d, hd, es, hes, rfl⟩

theorem ofHex?_eq_some_iff : ofHex? cs = some u ↔ u.Writes cs := by
  rw [ofHex?, Option.bind_eq_some_iff, Writes, ← mapM_ofChar?_eq_some_iff]
  constructor
  · rintro ⟨ds, hds, hu⟩
    rw [ofDigits?] at hu
    split at hu
    · cases hu
      exact hds
    · cases hu
  · exact fun h => ⟨_, h, ofDigits?_digits u⟩

theorem ungroup?_eq_some_iff :
    ungroup? cs = some flat ↔ flat.length = 32 ∧ '-' ∉ flat ∧ group flat = cs := by
  rw [ungroup?]
  constructor
  · intro h
    split at h
    · next hgroup =>
      cases h
      exact ⟨hgroup.1, by simp, hgroup.2⟩
    · cases h
  · rintro ⟨hlength, hfree, rfl⟩
    simp only [filter_group hfree, hlength, and_self, if_true]

theorem group_append {a b c d e : List Char} (ha : a.length = 8) (hb : b.length = 4)
    (hc : c.length = 4) (hd : d.length = 4) :
    group (a ++ b ++ c ++ d ++ e) = a ++ '-' :: b ++ '-' :: c ++ '-' :: d ++ '-' :: e := by
  simp [group, List.drop_append, ha, hb, hc, hd, List.drop_eq_nil_of_le]

theorem exists_groups (h : flat.length = 32) : ∃ a b c d e : List Char, a.length = 8 ∧
    b.length = 4 ∧ c.length = 4 ∧ d.length = 4 ∧ e.length = 12 ∧ flat = a ++ b ++ c ++ d ++ e := by
  refine ⟨flat.take 8, (flat.drop 8).take 4, (flat.drop 12).take 4, (flat.drop 16).take 4,
    flat.drop 20, by simp [h], by simp [h], by simp [h], by simp [h], by simp [h], ?_⟩
  have hjoin (m n : Nat) : (flat.drop m).take n ++ flat.drop (m + n) = flat.drop m := by
    rw [← List.drop_drop, List.take_append_drop]
  simp only [List.append_assoc]
  rw [hjoin 16 4, hjoin 12 4, hjoin 8 4, List.take_append_drop]

theorem hyphenated_iff : u.Hyphenated cs ↔ ∃ flat, u.Writes flat ∧ group flat = cs := by
  constructor
  · rintro ⟨a, b, c, d, e, ha, hb, hc, hd, -, hwrites, rfl⟩
    exact ⟨_, hwrites, group_append ha hb hc hd⟩
  · rintro ⟨flat, hwrites, rfl⟩
    obtain ⟨a, b, c, d, e, ha, hb, hc, hd, he, rfl⟩ := exists_groups hwrites.length
    exact ⟨a, b, c, d, e, ha, hb, hc, hd, he, hwrites, group_append ha hb hc hd⟩

theorem ofGrouped?_eq_some_iff : ofGrouped? cs = some u ↔ u.Hyphenated cs := by
  simp only [ofGrouped?, Option.bind_eq_some_iff, ungroup?_eq_some_iff, ofHex?_eq_some_iff,
    hyphenated_iff]
  constructor
  · rintro ⟨flat, ⟨-, -, hgroup⟩, hwrites⟩
    exact ⟨flat, hwrites, hgroup⟩
  · rintro ⟨flat, hwrites, hgroup⟩
    exact ⟨flat, ⟨hwrites.length, hwrites.not_mem (by decide), hgroup⟩, hwrites⟩

theorem Hyphenated.length (h : u.Hyphenated cs) : cs.length = 36 := by
  obtain ⟨a, b, c, d, e, ha, hb, hc, hd, he, -, rfl⟩ := h
  simp [ha, hb, hc, hd, he]

theorem length_scheme {s : String} (hs : SameUpToCase s "urn:uuid:") : s.toList.length = 9 :=
  hs.length_eq

theorem sameUpToCase_scheme_iff {s : String} :
    SameUpToCase s "urn:uuid:" ↔ s.toList.map Char.toLower = scheme := by
  have hlower : "urn:uuid:".toList.map Char.toLower = scheme := by decide
  rw [SameUpToCase, Text.forall₂_sameLetter_iff, hlower]

theorem ofChars?_braced (h : cs.length = 36) : ofChars? ('{' :: cs ++ ['}']) = ofGrouped? cs := by
  have hlength : ('{' :: cs ++ ['}']).length = 38 := by simp [h]
  have hlast : ('{' :: cs ++ ['}']).getLast? = some '}' := List.getLast?_concat
  have hinner : (('{' :: cs ++ ['}']).drop 1).dropLast = cs := List.dropLast_concat
  rw [ofChars?, hlength, if_neg (by decide), if_neg (by decide), if_pos ⟨rfl, rfl, hlast⟩, hinner]

theorem ofChars?_named {s : String} (hs : SameUpToCase s "urn:uuid:") (h : cs.length = 36) :
    ofChars? (s.toList ++ cs) = ofGrouped? cs := by
  have hscheme := length_scheme hs
  have htake : (s.toList ++ cs).take 9 = s.toList := List.take_left' hscheme
  have hdrop : (s.toList ++ cs).drop 9 = cs := List.drop_left' hscheme
  have hlength : (s.toList ++ cs).length = 45 := by rw [List.length_append, hscheme, h]
  rw [ofChars?, hlength, if_neg (by decide), if_neg (by decide), if_neg (by simp), htake, hdrop,
    if_pos ⟨rfl, sameUpToCase_scheme_iff.mp hs⟩]

/-- An identifier is read exactly from its spellings. -/
theorem ofChars?_eq_some_iff : ofChars? cs = some u ↔ u.Spelling cs := by
  constructor
  · intro h
    rw [ofChars?] at h
    split_ifs at h with hbare hgrouped hbraced hnamed
    · exact .bare (ofHex?_eq_some_iff.mp h)
    · exact .hyphenated (ofGrouped?_eq_some_iff.mp h)
    · obtain ⟨hlength, hfirst, hlast⟩ := hbraced
      obtain ⟨front, rfl⟩ := List.getLast?_eq_some_iff.mp hlast
      cases front with
      | nil => simp at hlength
      | cons c inner =>
        obtain rfl : c = '{' := by simpa using hfirst
        have hinner : (('{' :: inner ++ ['}']).drop 1).dropLast = inner := List.dropLast_concat
        rw [hinner] at h
        exact .braced (ofGrouped?_eq_some_iff.mp h)
    · obtain ⟨-, hscheme⟩ := hnamed
      have hsplit : (String.ofList (cs.take 9)).toList ++ cs.drop 9 = cs := by simp
      rw [← hsplit]
      exact .named (sameUpToCase_scheme_iff.mpr (by simpa using hscheme)) (ofGrouped?_eq_some_iff.mp h)
  · intro h
    cases h with
    | bare h => rw [ofChars?, if_pos h.length, ofHex?_eq_some_iff.mpr h]
    | hyphenated h =>
      rw [ofChars?, if_neg (by simp [h.length]), if_pos h.length, ofGrouped?_eq_some_iff.mpr h]
    | braced h => rw [ofChars?_braced h.length, ofGrouped?_eq_some_iff.mpr h]
    | named hs h => rw [ofChars?_named hs h.length, ofGrouped?_eq_some_iff.mpr h]

theorem ofText?_eq_some_iff {s : String} : ofText? s = some u ↔ u.Spelling s.toList :=
  ofChars?_eq_some_iff

theorem writes_digits (u : Uuid) : u.Writes (u.digits.map HexDigit.char) :=
  List.forall₂_same.mpr fun _ _ => .inl rfl

theorem hyphenated_text (u : Uuid) : u.Hyphenated u.text.toList := by
  rw [text, String.toList_ofList, hyphenated_iff]
  exact ⟨_, u.writes_digits, rfl⟩

theorem length_text (u : Uuid) : u.text.toList.length = 36 := u.hyphenated_text.length

theorem isUpper_text (u : Uuid) : ∀ c ∈ u.text.toList, c.isUpper = false := by
  intro c hc
  rw [text, String.toList_ofList, chars] at hc
  rcases mem_of_mem_group hc with rfl | hc
  · rfl
  · obtain ⟨d, -, rfl⟩ := List.mem_map.mp hc
    exact d.isUpper_char

theorem lower_eq_self (h : ∀ c ∈ cs, c.isUpper = false) : cs.map Char.toLower = cs :=
  (List.map_congr_left fun c hc => Text.toLower_eq_self (h c hc)).trans (List.map_id cs)

theorem eq_text_iff {s : String} :
    s = u.text ↔ u.Hyphenated s.toList ∧ ∀ c ∈ s.toList, c.isUpper = false := by
  constructor
  · rintro rfl
    exact ⟨u.hyphenated_text, u.isUpper_text⟩
  · rintro ⟨hspelt, hlower⟩
    obtain ⟨flat, hwrites, hgroup⟩ := hyphenated_iff.mp hspelt
    have hmem : ∀ c ∈ flat, c ∈ s.toList := fun c hc => by
      rw [← hgroup]
      rw [← filter_group (hwrites.not_mem (c := '-') (by decide))] at hc
      exact (List.mem_filter.mp hc).1
    have hflat : flat = u.digits.map HexDigit.char := by
      have hsame := Text.forall₂_sameLetter_iff.mp hwrites
      rwa [lower_eq_self fun c hc => hlower c (hmem c hc), lower_eq_self fun c hc => by
        obtain ⟨d, -, rfl⟩ := List.mem_map.mp hc
        exact d.isUpper_char] at hsame
    rw [← String.toList_inj, text, String.toList_ofList, chars, ← hflat, hgroup]

theorem Spelling.text (u : Uuid) : u.Spelling u.text.toList := .hyphenated u.hyphenated_text

theorem Writes.not_blank (h : u.Writes cs) : ∀ c ∈ cs, Text.isBlank c = false := by
  have hdigit : ∀ d : HexDigit, Text.isBlank d.char = false := by decide
  intro c hc
  obtain ⟨d, hd⟩ := h.exists_digit hc
  rw [hd.isBlank_eq, hdigit]

theorem Hyphenated.not_blank (h : u.Hyphenated cs) : ∀ c ∈ cs, Text.isBlank c = false := by
  obtain ⟨flat, hwrites, rfl⟩ := hyphenated_iff.mp h
  intro c hc
  rcases mem_of_mem_group hc with rfl | hc
  · rfl
  · exact hwrites.not_blank c hc

theorem Spelling.not_blank (h : u.Spelling cs) : ∀ c ∈ cs, Text.isBlank c = false := by
  cases h with
  | bare h => exact h.not_blank
  | hyphenated h => exact h.not_blank
  | braced h =>
    have hmarks : Text.isBlank '{' = false ∧ Text.isBlank '}' = false := by decide
    simpa [or_imp, forall_and, hmarks] using h.not_blank
  | @named s cs hs h =>
    have hscheme : ∀ c ∈ s.toList, Text.isBlank c = false := by
      have hall : "urn:uuid:".toList.all (!Text.isBlank ·) = true := by decide
      intro c hc
      obtain ⟨d, hd, hsame⟩ := Text.exists_sameLetter hs hc
      rw [hsame.isBlank_eq]
      simpa using List.all_eq_true.mp hall d hd
    intro c hc
    exact (List.mem_append.mp hc).elim (hscheme c) (h.not_blank c)

theorem Spelling.ne_nil (h : u.Spelling cs) : cs ≠ [] := by
  cases h with
  | bare h => exact List.ne_nil_of_length_pos (by simp [h.length])
  | hyphenated h => exact List.ne_nil_of_length_pos (by simp [h.length])
  | braced h => simp
  | named hs h => exact List.ne_nil_of_length_pos (by simp [h.length])

end Uuid

end FlutterInstaller
