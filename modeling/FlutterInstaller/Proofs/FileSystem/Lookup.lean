import FlutterInstaller.Proofs.FileSystem.Walk
import Mathlib.Algebra.GroupWithZero.Nat

/-!
Looking up straight paths from a working directory, in a tree without links. What a path leads to is
the entry at the place it names, as long as the system takes the path at all.
-/
namespace FlutterInstaller.FileSystem

open FlutterInstaller.Path

/-- A tree without links, and a working directory in it. -/
structure Ground (fs : FileSystem) (w : Location) : Prop extends Plain fs where
  here : fs.get? w = some .directory

/-- A path that the system takes. -/
structure Valid (p : String) : Prop where
  noNul : '\x00' ∉ p.toList
  nonempty : p ≠ ""
  short : p.utf8ByteSize < pathLimit
  fits : Fits (pieces p)

instance (p : String) : Decidable (Valid p) :=
  decidable_of_iff
    ('\x00' ∉ p.toList ∧ p ≠ "" ∧ p.utf8ByteSize < pathLimit ∧ Fits (pieces p))
    ⟨fun ⟨hnul, hne, hshort, hfits⟩ => ⟨hnul, hne, hshort, hfits⟩,
      fun h => ⟨h.noNul, h.nonempty, h.short, h.fits⟩⟩

section Text

theorem mem_of_mem_intercalate {c : Char} {ns : List String}
    (h : c ∈ ("/".intercalate ns).toList) : c = '/' ∨ ∃ n ∈ ns, c ∈ n.toList := by
  induction ns with
  | nil => simp at h
  | cons n ns ih =>
    by_cases hns : ns = []
    · subst hns
      exact .inr ⟨n, by simp, by simpa using h⟩
    · rw [String.intercalate_cons_of_ne_nil hns, String.toList_append, String.toList_append,
        List.mem_append, List.mem_append] at h
      rcases h with (h | h) | h
      · exact .inr ⟨n, by simp, h⟩
      · exact .inl (by simpa using h)
      · exact (ih h).imp_right fun ⟨k, hk, hc⟩ => ⟨k, List.mem_cons_of_mem _ hk, hc⟩

theorem utf8ByteSize_intercalate_le (ns : List String) :
    ("/".intercalate ns).utf8ByteSize ≤ (ns.map fun n => n.utf8ByteSize + 1).sum := by
  induction ns with
  | nil => simp
  | cons n ns ih =>
    by_cases hns : ns = []
    · simp [hns]
    · have hslash : "/".utf8ByteSize = 1 := by decide
      rw [String.intercalate_cons_of_ne_nil hns, String.utf8ByteSize_append,
        String.utf8ByteSize_append, hslash, List.map_cons, List.sum_cons]
      omega

theorem valid_text {l : Location}
    (hl : ∀ n ∈ l, IsName n ∧ '\x00' ∉ n.toList ∧ n.utf8ByteSize ≤ nameLimit)
    (hshort : (l.map fun n => n.utf8ByteSize + 1).sum + 1 < pathLimit) : Valid (text l) where
  noNul := by
    intro h
    rw [text, String.toList_append, List.mem_append] at h
    rcases h with h | h
    · exact absurd h (by decide)
    · obtain hc | ⟨n, hn, hc⟩ := mem_of_mem_intercalate h
      · exact absurd hc (by decide)
      · exact (hl n hn).2.1 hc
  nonempty := by simp [text]
  short := by
    have hle := utf8ByteSize_intercalate_le l
    have hslash : "/".utf8ByteSize = 1 := by decide
    rw [text, String.utf8ByteSize_append, hslash]
    omega
  fits := by
    intro n hn
    rw [show (pieces (text l)).filter leads = l from names_text fun n hn => (hl n hn).1] at hn
    exact (hl n hn).2.2

end Text

variable {fs : FileSystem} {w : Location} {p : String} {purpose : Purpose}

theorem Ground.settle (h : Ground fs w) : (Standpoint.ofPlace w).settle fs = .ofPlace w :=
  Standpoint.settle_of_hasDirectory ((hasDirectory_iff fs w).mpr h.here)

theorem removed_le_settle (fs : FileSystem) (s : Standpoint) :
    s.removed ≤ (s.settle fs).removed := by
  fun_induction Standpoint.settle fs s with
  | case1 s hd => exact le_rfl
  | case2 s hd hlt ih => exact (Nat.le_succ _).trans ih

theorem location?_settle_eq_some {fs : FileSystem} {s : Standpoint} {w : Location}
    (h : (s.settle fs).location? = some w) : s = .ofPlace w ∧ fs.get? w = some .directory := by
  by_cases hd : fs.hasDirectory s.place = true
  · rw [Standpoint.settle_of_hasDirectory hd, Standpoint.location?] at h
    split at h
    · next hr =>
      cases h
      exact ⟨by rw [Standpoint.ofPlace, ← hr], (hasDirectory_iff _ _).mp hd⟩
    · cases h
  · rw [Standpoint.settle, dif_neg hd, Standpoint.location?] at h
    have hle := removed_le_settle fs ⟨s.place.dropLast, s.removed + 1⟩
    have hne : (Standpoint.settle fs ⟨s.place.dropLast, s.removed + 1⟩).removed ≠ 0 := by
      dsimp only at hle
      omega
    rw [if_neg hne] at h
    cases h

def origin (w : Location) (p : String) : Location := if isAbsolute p then [] else w

theorem Ground.directory_origin (h : Ground fs w) (p : String) :
    fs.get? (origin w p) = some .directory := by
  unfold origin
  split
  · rfl
  · exact h.here

theorem Ground.resolve_eq (h : Ground fs w) (purpose : Purpose) (p : String) :
    fs.resolve (.ofPlace w) purpose p =
      if p.toList.contains '\x00' then .error .nulInName
      else if p = "" then .error .notFound
      else if pathLimit ≤ p.utf8ByteSize then .error .nameTooLong
      else walk fs purpose linkLimit (.ofPlace (origin w p)) (pieces p) := by
  rw [resolve, h.settle, origin]
  cases isAbsolute p <;> rfl

theorem locate_eq (hs : Straight p) (w : Location) : locate w p = origin w p ++ Path.names p :=
  locate_of_straight hs w

def Finding (fs : FileSystem) (purpose : Purpose) (w : Location) (p : String) :
    Except OsError Place → Prop
  | .ok (.found m e) => m = locate w p ∧ fs.get? (locate w p) = some e ∧ Valid p ∧
      (e ≠ .directory → EndsInName (pieces p))
  | .ok (.free m) => m = locate w p ∧ fs.get? (locate w p) = none ∧
      fs.get? (locate w p).dropLast = some .directory ∧ Valid p ∧
      (purpose = .write → EndsInName (pieces p))
  | .ok (.removed _) => False
  | .error e => e = .notFound → p = "" ∨ fs.get? (locate w p) = none

theorem Ground.resolve_finding (h : Ground fs w) (hs : Straight p) (purpose : Purpose) :
    Finding fs purpose w p (fs.resolve (.ofPlace w) purpose p) := by
  rw [h.resolve_eq]
  split
  · simp [Finding]
  · next hnul =>
    split
    · next hempty => exact fun _ => .inl hempty
    · next hempty =>
      split
      · simp [Finding]
      · next hshort =>
        have hvalid : Fits (pieces p) → Valid p :=
          fun hfits => ⟨by simpa using hnul, hempty, Nat.lt_of_not_le hshort, hfits⟩
        have hout : Outcome fs purpose (origin w p) (pieces p)
            (walk fs purpose linkLimit (.ofPlace (origin w p)) (pieces p)) :=
          walk_outcome h.toPlain (h.directory_origin p) hs
        generalize walk fs purpose linkLimit (.ofPlace (origin w p)) (pieces p) = r at hout ⊢
        unfold Finding
        rw [locate_eq hs]
        cases r with
        | error e => exact fun he => .inr (hout he)
        | ok place =>
          cases place with
          | found m e =>
            obtain ⟨hm, hget, hfits, hend⟩ := hout
            exact ⟨hm, hm ▸ hget, hvalid hfits, hend⟩
          | free m =>
            obtain ⟨hm, hget, hparent, hfits, hend⟩ := hout
            exact ⟨hm, hm ▸ hget, hm ▸ hparent, hvalid hfits, hend⟩
          | removed s => exact hout

theorem Ground.resolve_eq_found (h : Ground fs w) (hs : Straight p) {m : Location} {e : Entry}
    (hr : fs.resolve (.ofPlace w) purpose p = .ok (.found m e)) :
    m = locate w p ∧ fs.get? (locate w p) = some e ∧ Valid p ∧
      (e ≠ .directory → EndsInName (pieces p)) := by
  have hfinding := h.resolve_finding hs purpose
  rwa [hr] at hfinding

theorem Ground.resolve_eq_free (h : Ground fs w) (hs : Straight p) {m : Location}
    (hr : fs.resolve (.ofPlace w) purpose p = .ok (.free m)) :
    m = locate w p ∧ fs.get? (locate w p) = none ∧
      fs.get? (locate w p).dropLast = some .directory ∧ Valid p ∧
      (purpose = .write → EndsInName (pieces p)) := by
  have hfinding := h.resolve_finding hs purpose
  rwa [hr] at hfinding

theorem Ground.resolve_ne_removed (h : Ground fs w) (hs : Straight p) (s : Standpoint) :
    fs.resolve (.ofPlace w) purpose p ≠ .ok (.removed s) := by
  intro hr
  have hfinding := h.resolve_finding hs purpose
  rwa [hr] at hfinding

theorem Ground.resolve_eq_notFound (h : Ground fs w) (hs : Straight p)
    (hr : fs.resolve (.ofPlace w) purpose p = .error .notFound) :
    p = "" ∨ fs.get? (locate w p) = none := by
  have hfinding := h.resolve_finding hs purpose
  rw [hr] at hfinding
  exact hfinding rfl

theorem Valid.resolve_eq (hv : Valid p) (h : Ground fs w) (purpose : Purpose) :
    fs.resolve (.ofPlace w) purpose p =
      walk fs purpose linkLimit (.ofPlace (origin w p)) (pieces p) := by
  rw [h.resolve_eq, if_neg (by simp [hv.noNul]), if_neg hv.nonempty,
    if_neg (Nat.not_le.mpr hv.short)]

theorem Ground.resolve_of_directory (h : Ground fs w) (hs : Straight p) (hv : Valid p)
    (hpurpose : purpose ≠ .write) (hd : fs.get? (locate w p) = some .directory) :
    fs.resolve (.ofPlace w) purpose p = .ok (.found (locate w p) .directory) := by
  rw [locate_eq hs] at hd ⊢
  rw [hv.resolve_eq h]
  exact walk_of_directory h.toPlain hs hv.fits hpurpose hd

theorem Ground.resolve_of_endsInName (h : Ground fs w) (hs : Straight p) (hv : Valid p)
    (hend : EndsInName (pieces p)) (hd : fs.get? (locate w p).dropLast = some .directory) :
    fs.resolve (.ofPlace w) purpose p =
      .ok ((fs.get? (locate w p)).elim (.free (locate w p)) (.found (locate w p))) := by
  have hne : Path.names p ≠ [] := hend.filter_ne_nil
  rw [locate_eq hs] at hd ⊢
  rw [List.dropLast_append_of_ne_nil hne] at hd
  rw [hv.resolve_eq h]
  exact walk_of_endsInName h.toPlain hs hv.fits hend hd

theorem IsTree.parent_directory (h : IsTree fs) {l : Location} (hl : fs.get? l ≠ none) :
    fs.get? l.dropLast = some .directory := by
  rcases List.eq_nil_or_concat' l with rfl | ⟨m, n, rfl⟩
  · rfl
  · rw [List.dropLast_concat]
    exact h.parent hl

theorem Ground.find?_eq_file_iff (h : Ground fs w) (hs : Straight p) {m : Option Location}
    {content : ByteArray} {executable : Bool} :
    fs.find? (.ofPlace w) p = .ok (m, .file content executable) ↔
      m = some (locate w p) ∧ Valid p ∧ EndsInName (pieces p) ∧
        fs.get? (locate w p) = some (.file content executable) := by
  unfold find?
  constructor
  · intro hf
    split at hf
    · next hr =>
      cases hf
      obtain ⟨rfl, hget, hv, hend⟩ := h.resolve_eq_found hs hr
      exact ⟨rfl, hv, hend (by simp), hget⟩
    · cases hf
    · cases hf
    · cases hf
  · rintro ⟨rfl, hv, hend, hget⟩
    have hparent := h.parent_directory (l := locate w p) (by simp [hget])
    rw [h.resolve_of_endsInName hs hv hend hparent, hget]
    rfl

theorem Ground.isFile_iff (h : Ground fs w) (hs : Straight p) :
    fs.isFile (.ofPlace w) p = true ↔ Valid p ∧ EndsInName (pieces p) ∧
      ∃ content executable, fs.get? (locate w p) = some (.file content executable) := by
  unfold isFile
  constructor
  · intro hf
    split at hf
    · next hfind =>
      obtain ⟨_, hv, hend, hget⟩ := (h.find?_eq_file_iff hs).mp hfind
      exact ⟨hv, hend, _, _, hget⟩
    · simp at hf
  · rintro ⟨hv, hend, content, executable, hget⟩
    rw [(h.find?_eq_file_iff hs).mpr ⟨rfl, hv, hend, hget⟩]

theorem Ground.isDirectory_iff (h : Ground fs w) (hs : Straight p) :
    fs.isDirectory (.ofPlace w) p = true ↔ Valid p ∧ fs.get? (locate w p) = some .directory := by
  unfold isDirectory find?
  constructor
  · intro hd
    cases hr : fs.resolve (.ofPlace w) .follow p with
    | error e => simp [hr] at hd
    | ok place =>
      cases place with
      | found m e =>
        obtain ⟨_, hget, hv, _⟩ := h.resolve_eq_found hs hr
        cases e <;> simp [hr] at hd
        exact ⟨hv, hget⟩
      | free m => simp [hr] at hd
      | removed s => exact absurd hr (h.resolve_ne_removed hs s)
  · rintro ⟨hv, hget⟩
    rw [h.resolve_of_directory hs hv (by simp) hget]

theorem Ground.standpoint_eq_ok_iff (h : Ground fs w) (hs : Straight p) {s : Standpoint} :
    fs.standpoint (.ofPlace w) p = .ok s ↔
      Valid p ∧ fs.get? (locate w p) = some .directory ∧ s = .ofPlace (locate w p) := by
  unfold standpoint
  constructor
  · intro hd
    cases hr : fs.resolve (.ofPlace w) .follow p with
    | error e => simp [hr] at hd
    | ok place =>
      cases place with
      | found m e =>
        obtain ⟨rfl, hget, hv, _⟩ := h.resolve_eq_found hs hr
        cases e <;> simp [hr] at hd
        exact ⟨hv, hget, hd.symm⟩
      | free m => simp [hr] at hd
      | removed s => exact absurd hr (h.resolve_ne_removed hs s)
  · rintro ⟨hv, hget, rfl⟩
    rw [h.resolve_of_directory hs hv (by simp) hget]

theorem Ground.read_eq_ok_iff (h : Ground fs w) (hs : Straight p) {content : ByteArray} :
    fs.read (.ofPlace w) p = .ok content ↔ Valid p ∧ EndsInName (pieces p) ∧
      ∃ executable, fs.get? (locate w p) = some (.file content executable) := by
  unfold read
  constructor
  · intro hf
    split at hf
    · next hfind =>
      cases hf
      obtain ⟨_, hv, hend, hget⟩ := (h.find?_eq_file_iff hs).mp hfind
      exact ⟨hv, hend, _, hget⟩
    · cases hf
    · cases hf
  · rintro ⟨hv, hend, executable, hget⟩
    rw [(h.find?_eq_file_iff hs).mpr ⟨rfl, hv, hend, hget⟩]

end FlutterInstaller.FileSystem
