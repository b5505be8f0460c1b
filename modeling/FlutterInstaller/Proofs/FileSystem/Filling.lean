import FlutterInstaller.Proofs.FileSystem.Renewal

/-!
Copying files, in any tree and through any links. The target comes to hold what the source held, unless
both are one file, and nothing else changes. So a file that is copied to a free name of a directory stands
there as its source stands elsewhere.
-/
namespace FlutterInstaller.FileSystem

open FlutterInstaller.Path

variable {fs gs : FileSystem} {l : Location} {cwd : Standpoint} {p n source : String}

theorem get?_insert_insert (hl : l ≠ []) (d e : Entry) (m : Location) :
    ((fs.insert l d).insert l e).get? m = if m = l then some e else fs.get? m := by
  rw [get?_insert _ _ hl]
  split
  · rfl
  · next hm => rw [get?_insert _ _ hl, if_neg hm]

/-- A tree in which a file was copied. The target is emptied before the source is read, so it holds what
the source held unless they are one file. -/
structure Copied (cwd : Standpoint) (source target : String) (fs gs : FileSystem) (s t : Location)
    (content : ByteArray) (executable : Bool) : Prop where
  source : fs.resolve cwd .follow source = .ok (.found s (.file content executable))
  target : ∃ place, fs.resolve cwd .write target = .ok place ∧ Target fs t place
  get?_eq : ∀ m, gs.get? m =
    if m = t then some (.file (if s = t then .empty else content) executable) else fs.get? m

section Copy

variable {s t : Location} {content : ByteArray} {executable : Bool} {target : String}

theorem find?_eq_of_resolve {e : Entry} (hr : fs.resolve cwd .follow p = .ok (.found l e)) :
    fs.find? cwd p = .ok (some l, e) := by
  rw [find?, hr]

theorem get?_of_opened {o : Location × Bool} (hget : fs.get? s = some (.file content executable))
    (hopen : perform (openForWriting cwd target) fs = (.ok o, gs)) :
    ∃ executable, gs.get? s = some (.file (if s = o.1 then .empty else content) executable) := by
  obtain ⟨place, -, htarget, rfl⟩ := openForWriting_eq_ok hopen
  rw [get?_insert _ _ htarget.ne_nil]
  by_cases hs : s = o.1
  · exact ⟨o.2, by rw [if_pos hs, if_pos hs]⟩
  · exact ⟨executable, by rw [if_neg hs, if_neg hs, hget]⟩

theorem copy_of_found {old : ByteArray} {x : Bool} (htree : IsTree fs)
    (hsource : fs.resolve cwd .follow source = .ok (.found s (.file content executable)))
    (htarget : fs.resolve cwd .write target = .ok (.found t (.file old x))) :
    ∃ gs, perform (copy cwd source target) fs = (.ok (), gs) ∧ ∀ m, gs.get? m =
      if m = t then some (.file (if s = t then .empty else content) executable) else fs.get? m := by
  have hopen : perform (openForWriting cwd target) fs =
      (.ok (t, x), fs.insert t (.file .empty x)) := by
    rw [openForWriting, perform_get_bind, htarget]
    rfl
  obtain ⟨y, hread⟩ := get?_of_opened (resolve_eq_found htree hsource) hopen
  rw [copy, perform_get_bind, find?_eq_of_resolve hsource]
  dsimp only
  rw [perform_bind_of_ok hopen, perform_get_bind, hread]
  exact ⟨_, rfl, get?_insert_insert (ne_nil_of_opened hopen) _ _⟩

theorem exists_copied (htree : IsTree fs) (hr : perform (copy cwd source target) fs = (.ok (), gs)) :
    ∃ s t content executable, Copied cwd source target fs gs s t content executable := by
  rw [copy, perform_get_bind] at hr
  split at hr
  · cases hr
  · next s content executable hfind =>
    have hsource : fs.resolve cwd .follow source = .ok (.found s (.file content executable)) := by
      unfold find? at hfind
      split at hfind <;> cases hfind
      assumption
    obtain ⟨o, fs₁, hopen, hr⟩ := perform_bind_eq_ok.mp hr
    obtain ⟨x, hread⟩ := get?_of_opened (resolve_eq_found htree hsource) hopen
    rw [perform_get_bind, hread] at hr
    cases hr
    obtain ⟨place, hres, htarget, rfl⟩ := openForWriting_eq_ok hopen
    exact ⟨s, o.1, content, executable, hsource, ⟨place, hres, htarget⟩,
      get?_insert_insert htarget.ne_nil _ _⟩
  · cases hr

namespace Copied

variable (h : Copied cwd source target fs gs s t content executable)

include h

theorem resolve_target (hcwd : cwd.settle gs = cwd.settle fs) {purpose : Purpose}
    (hp : purpose ≠ .inspect) : gs.resolve cwd purpose target =
      .ok (.found t (.file (if s = t then .empty else content) executable)) := by
  obtain ⟨place, hres, htarget⟩ := h.target
  exact resolve_of_target (.inr hcwd) hp h.get?_eq htarget hres

theorem resolve_source (hf : Footing fs cwd) (hextends : Extends fs gs) :
    gs.resolve cwd .follow source =
      .ok (.found s (.file (if s = t then .empty else content) executable)) := by
  obtain ⟨e, hr, -⟩ := hf.resolve_of_extends hextends h.source
  have hget := resolve_eq_found (hextends.isTree hf.toIsTree) hr
  rw [h.get?_eq] at hget
  by_cases hs : s = t
  · rw [if_pos hs] at hget
    rw [hr, ← Option.some.inj hget]
  · rw [if_neg hs, resolve_eq_found hf.toIsTree h.source] at hget
    rw [hr, ← Option.some.inj hget, if_neg hs]

/-- The same copy, made once more, comes to the same tree. -/
theorem again (hf : Footing fs cwd) (hextends : Extends fs gs) :
    ∃ ks, perform (copy cwd source target) gs = (.ok (), ks) ∧ Same gs ks := by
  have hf' := hf.of_extends hextends
  have hwrite : Purpose.write ≠ .inspect := by decide
  have htarget := h.resolve_target (hf'.settle.trans hf.settle.symm) hwrite
  obtain ⟨ks, hcopy, hput⟩ := copy_of_found hf'.toIsTree (h.resolve_source hf hextends) htarget
  refine ⟨ks, hcopy, fun m => ?_⟩
  rw [hput, h.get?_eq]
  split
  · split <;> rfl
  · rfl

end Copied

theorem copy_free_eq_ok (htree : IsTree fs) (hopen : fs.resolve cwd .write target = .ok (.free l))
    (hr : perform (copy cwd source target) fs = (.ok (), gs)) :
    ∃ s content executable,
      fs.resolve cwd .follow source = .ok (.found s (.file content executable)) ∧
      ∀ m, gs.get? m = if m = l then some (.file content executable) else fs.get? m := by
  obtain ⟨s, t, content, executable, hsource, ⟨place, hres, htarget⟩, hget⟩ := exists_copied htree hr
  rw [hopen] at hres
  cases hres
  obtain rfl := htarget.eq_of_free
  have hne : s ≠ l := by
    rintro rfl
    have hfile := resolve_eq_found htree hsource
    simp [(resolve_eq_free hopen).1] at hfile
  exact ⟨s, content, executable, hsource, by simpa only [if_neg hne] using hget⟩

end Copy

section Entry

variable (h : Leads fs cwd p l) (hp : EndsInName (pieces p)) (hn : IsName n)
  (hfit : n.utf8ByteSize ≤ nameLimit)

include h hp hn hfit

theorem Leads.resolve_entry :
    (∃ e, ∀ fs cwd purpose, FileSystem.resolve fs cwd purpose (join p n) = .error e) ∨
      (fs.get? (l ++ [n]) = none →
        ∀ purpose, fs.resolve cwd purpose (join p n) = .ok (.free (l ++ [n]))) ∧
      ∀ content executable, fs.get? (l ++ [n]) = some (.file content executable) →
        ∀ purpose, fs.resolve cwd purpose (join p n) =
          .ok (.found (l ++ [n]) (.file content executable)) := by
  have habs := isAbsolute_of_isName hn
  have hnames : Path.names (join p n) = Path.names p ++ [n] := by
    rw [names_join habs, names_of_isName hn]
  rcases FileSystem.resolve_entry (t := .ofPlace l) (isAbsolute_join habs) hnames
    (endsInName_entry p hn) (.inr hp) h.follow with hbad | ⟨k, hk⟩
  · exact .inl hbad
  · have hleads : leads n = true := leads_iff.mpr ⟨hn.1, hn.2.1⟩
    refine .inr ⟨fun hfree purpose => ?_, fun content executable hfile purpose => ?_⟩
    · rw [hk, walk_name hleads hn.2.2.1, if_neg (by simp), if_neg hfit.not_gt, hfree]
      rfl
    · rw [hk, walk_name hleads hn.2.2.1, if_neg (by simp), if_neg hfit.not_gt, hfile]
      rfl

theorem Leads.copy (hfree : fs.get? (l ++ [n]) = none)
    (hr : perform (copy cwd source (join p n)) fs = (.ok (), gs)) :
    ∃ s content executable,
      fs.resolve cwd .follow source = .ok (.found s (.file content executable)) ∧
      gs.resolve cwd .follow (join p n) = .ok (.found (l ++ [n]) (.file content executable)) ∧
      Leads gs cwd p l ∧
      ∀ m, gs.get? m = if m = l ++ [n] then some (.file content executable) else fs.get? m := by
  have htree := ((copy_extends cwd source (join p n)).of_perform hr).isTree h.toIsTree
  rcases h.resolve_entry hp hn hfit with ⟨e, he⟩ | ⟨hentry, -⟩
  · rw [FileSystem.copy, perform_get_bind] at hr
    split at hr
    · cases hr
    · obtain ⟨o, fs₁, hopened, -⟩ := perform_bind_eq_ok.mp hr
      rw [openForWriting, perform_get_bind, he] at hopened
      cases hopened
    · cases hr
  · have hopen := hentry hfree
    obtain ⟨s, content, executable, hsource, hput⟩ := copy_free_eq_ok h.toIsTree (hopen .write) hr
    have hwithin : Within fs gs := by
      intro m e he
      rw [hput, if_neg, he]
      rintro rfl
      simp [hfree] at he
    have hleads := h.of_within hwithin htree
    refine ⟨s, content, executable, hsource, ?_, hleads, hput⟩
    rcases hleads.resolve_entry hp hn hfit with ⟨e, he⟩ | ⟨-, hfile⟩
    · have hfollow := hopen .follow
      rw [he] at hfollow
      cases hfollow
    · exact hfile content executable (by rw [hput, if_pos rfl]) .follow

end Entry

end FlutterInstaller.FileSystem
