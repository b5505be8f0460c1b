import FlutterInstaller.Proofs.FileSystem.Filling
import FlutterInstaller.Proofs.Host.Directories
import FlutterInstaller.Proofs.Config.Precedence

/-!
Copying a file between any two paths, through whatever links they lead. The target comes to hold what the
source held, and the source goes on to hold it, unless both lead to one file: that one is emptied.
-/
namespace FlutterInstaller

open FileSystem FlutterInstaller.Path

namespace Host

structure Seated (h : Host) (target : String) (h' : Host) : Prop where
  rest : h' = { h with files := h'.files }
  footing : Footing h'.files h'.workingDirectory
  dug : Dug h.files h'.files
  made : ∀ q, parent? target = some q → parent? q = none ∨ h'.isDirectory q = true

/-- A file that one path leads to was copied to where another one leads, and nothing else changed but that
directories may have been made. -/
structure Copied (h : Host) (source target : String) (h' : Host) (s t : Location)
    (content : ByteArray) (executable : Bool) : Prop where
  before : h.HasFile source s content executable
  target : h'.HasFile target t (if s = t then .empty else content) executable
  source : h'.HasFile source s (if s = t then .empty else content) executable
  kept : ∀ m e, m ≠ t → h.files.get? m = some e → h'.files.get? m = some e
  new : ∀ m e, m ≠ t → h'.files.get? m = some e → h.files.get? m = some e ∨ e = .directory

end Host

namespace Action

open Host

variable {h h₁ h' : Host} {p source target : String} {s t : Location} {content : ByteArray}
  {executable : Bool}

theorem read_of_hasFile (hfile : h.HasFile p s content executable) :
    h.files.read h.workingDirectory p = .ok content := by
  rw [FileSystem.read, find?_eq_of_resolve hfile]

theorem seated_of_makeParent (hf : Footing h.files h.workingDirectory)
    (hr : perform (makeParent target) h = (.ok (), h')) : h.Seated target h' := by
  cases hparent : parent? target with
  | none =>
    rw [makeParent, hparent] at hr
    cases hr
    exact ⟨rfl, hf, Std.Refl.refl h.files, by simp [hparent]⟩
  | some q =>
    rw [makeParent_eq_makeDirectories hparent] at hr
    obtain ⟨hmake, hh', hf'⟩ := makeDirectories_eq_ok_of_footing hf hr
    refine ⟨hh', hf', (makeDirectories_dug _ q).of_perform hmake, fun k hk => ?_⟩
    obtain rfl : q = k := Option.some.inj (hparent.symm.trans hk)
    by_cases hq : parent? q = none
    · exact .inl hq
    · have hcwd : h'.workingDirectory = h.workingDirectory := by rw [hh']
      rw [Host.isDirectory, hcwd]
      exact .inr (hf.isDirectory_of_makeDirectories hq hmake)

theorem makeParent_of_made (hf : Footing h.files h.workingDirectory)
    (hd : ∀ q, parent? target = some q → parent? q = none ∨ h.isDirectory q = true) :
    perform (makeParent target) h = (.ok (), h) := by
  cases hparent : parent? target with
  | none =>
    rw [makeParent, hparent]
    rfl
  | some q =>
    rw [makeParent_eq_makeDirectories hparent]
    exact makeDirectories_of_made hf (hd q hparent)

theorem copyFile_of_not_isFile (hfile : h.isFile source = false) :
    perform (copyFile source target) h = (.error (.notAFile source), h) := by
  rw [copyFile, perform_get_bind, hfile]
  rfl

theorem copyFile_of_isFile (hfile : h.isFile source = true) :
    perform (copyFile source target) h = perform (do
      makeParent target
      edit .copyingFile target fun cwd => FileSystem.copy cwd source target) h := by
  rw [copyFile, perform_get_bind, if_pos hfile]

theorem isFile_source_of_copyFile (hr : perform (copyFile source target) h = (.ok (), h')) :
    h.isFile source = true := by
  rw [← Bool.not_eq_false]
  intro hnot
  rw [copyFile_of_not_isFile hnot] at hr
  cases hr

theorem exists_seated (hf : Footing h.files h.workingDirectory)
    (hr : perform (copyFile source target) h = (.ok (), h')) :
    ∃ h₁, h.Seated target h₁ ∧ h' = { h₁ with files := h'.files } ∧
      Footing h'.files h'.workingDirectory ∧ Extends h₁.files h'.files ∧
      ∃ s t content executable, FileSystem.Copied h₁.workingDirectory source target h₁.files h'.files
        s t content executable := by
  rw [copyFile_of_isFile (isFile_source_of_copyFile hr)] at hr
  obtain ⟨_, h₁, hparent, hcopy⟩ := perform_bind_eq_ok.mp hr
  have hseated := seated_of_makeParent hf hparent
  obtain ⟨hcopied, hh', hf', hextends⟩ :=
    edit_extends_eq_ok hseated.footing (copy_extends _ source target) hcopy
  exact ⟨h₁, hseated, hh', hf', hextends, exists_copied hseated.footing.toIsTree hcopied⟩

theorem copied_of_seated (htree : h.files.IsTree) (hfile : h.isFile source = true)
    (hseated : h.Seated target h₁) (hh' : h' = { h₁ with files := h'.files })
    (hf' : Footing h'.files h'.workingDirectory) (hextends : Extends h₁.files h'.files)
    (hc : FileSystem.Copied h₁.workingDirectory source target h₁.files h'.files s t content executable) :
    h.Copied source target h' s t content executable := by
  have hcwd₁ : h₁.workingDirectory = h.workingDirectory := by rw [hseated.rest]
  have hcwd : h₁.workingDirectory = h'.workingDirectory := by rw [hh']
  have hsettle : h₁.workingDirectory.settle h'.files = h₁.workingDirectory.settle h₁.files := by
    rw [hseated.footing.settle, hcwd, hf'.settle]
  obtain ⟨s', content', executable', hbefore⟩ := isFile_iff_hasFile.mp hfile
  -- New directories take nothing from the way to the source, so what it leads to now it led to before.
  have hsame := hbefore.of_within htree hseated.dug.within hcwd₁
  rw [HasFile, hc.source] at hsame
  cases hsame
  refine ⟨hbefore, ?_, ?_, fun m e hm he => ?_, fun m e hm he => ?_⟩
  · rw [HasFile, ← hcwd]
    exact hc.resolve_target hsettle (by decide)
  · rw [HasFile, ← hcwd]
    exact hc.resolve_source hseated.footing hextends
  · rw [hc.get?_eq, if_neg hm]
    exact hseated.dug.within m e he
  · rw [hc.get?_eq, if_neg hm] at he
    by_cases hd : e = .directory
    · exact .inr hd
    · exact .inl (hseated.dug.only m e he hd)

theorem copyFile_again (hfile : h'.isFile source = true) (hseated : h.Seated target h₁)
    (hh' : h' = { h₁ with files := h'.files }) (hf' : Footing h'.files h'.workingDirectory)
    (hextends : Extends h₁.files h'.files)
    (hc : FileSystem.Copied h₁.workingDirectory source target h₁.files h'.files s t content executable) :
    ∃ g, perform (copyFile source target) h' = (.ok (), g) ∧ h'.Alike g := by
  have hcwd : h'.workingDirectory = h₁.workingDirectory := by rw [hh']
  -- The copy removes no directory, so the parent need not be made again.
  have hmade : ∀ q, parent? target = some q → parent? q = none ∨ h'.isDirectory q = true := by
    intro q hq
    refine (hseated.made q hq).imp_right fun hd => ?_
    rw [Host.isDirectory, hcwd]
    exact hseated.footing.isDirectory_of_extends hextends hd
  obtain ⟨ks, hagain, hsame⟩ := hc.again hseated.footing hextends
  rw [← hcwd] at hagain
  refine ⟨{ h' with files := ks }, ?_, hsame, rfl⟩
  rw [copyFile_of_isFile hfile, perform_bind_of_ok (makeParent_of_made hf' hmade)]
  exact edit_of_footing (hf'.of_same hsame) hagain

/-- A file is not copied from where there is none. When one is copied, the target holds what the source
held and the source still does, if they do not lead to one file or that one is empty, and only then. To
copy it once more changes nothing. -/
theorem copyFile_faithful_iff (hf : Footing h.files h.workingDirectory) (source target : String) :
    (h.isFile source = false →
      perform (copyFile source target) h = (.error (.notAFile source), h)) ∧
    ∀ h', perform (copyFile source target) h = (.ok (), h') →
      ∃ s t content executable, h.Copied source target h' s t content executable ∧
        (h'.files.read h'.workingDirectory target = .ok content ∧
            h'.files.read h'.workingDirectory source = .ok content ↔
          s ≠ t ∨ content = .empty) ∧
        ∃ g, perform (copyFile source target) h' = (.ok (), g) ∧ h'.Alike g := by
  refine ⟨copyFile_of_not_isFile, fun h' hr => ?_⟩
  obtain ⟨h₁, hseated, hh', hf', hextends, s, t, content, executable, hc⟩ := exists_seated hf hr
  have hcopied := copied_of_seated hf.toIsTree (isFile_source_of_copyFile hr) hseated hh' hf' hextends hc
  have hfile : h'.isFile source = true := isFile_iff_hasFile.mpr ⟨s, _, executable, hcopied.source⟩
  refine ⟨s, t, content, executable, hcopied, ?_, copyFile_again hfile hseated hh' hf' hextends hc⟩
  rw [read_of_hasFile hcopied.target, read_of_hasFile hcopied.source]
  by_cases hst : s = t
  · simp [hst, eq_comm]
  · simp [hst]

section Sample

def noteTree : FileSystem := (ofDirectories []).insert ["f"] (.file ⟨#[120]⟩ false)

def noteHost : Host := { sampleHost [] with files := noteTree }

theorem footing_noteHost : Footing noteHost.files noteHost.workingDirectory where
  toIsTree := by
    have hplain : Plain (ofDirectories []) := plain_ofDirectories (by simp) (by simp)
    have hnote := hplain.insert (l := []) (n := "f") (e := .file ⟨#[120]⟩ false) rfl (by decide)
      (.inr (by simp [get?_ofDirectories])) (by simp)
    exact hnote.toIsTree
  here := rfl

theorem resolve_note (purpose : Purpose) : noteHost.files.resolve noteHost.workingDirectory purpose "/f" =
    .ok (.found ["f"] (.file ⟨#[120]⟩ false)) :=
  (resolve_eq_walk (by decide) (by decide) _ purpose).trans
    (walk_text_file (l := []) (n := "f") footing_noteHost.toIsTree (by simp) rfl (by decide) (by decide)
      rfl _ _)

theorem copyFile_note : ∃ g, perform (copyFile "/f" "/f") noteHost = (.ok (), g) := by
  have hfile : noteHost.isFile "/f" = true :=
    isFile_iff_hasFile.mpr ⟨_, _, _, resolve_note .follow⟩
  have hmade : ∀ q, parent? "/f" = some q → parent? q = none ∨ noteHost.isDirectory q = true := by
    intro q hq
    have hroot : parent? "/f" = some "/" := by decide
    rw [hroot] at hq
    cases hq
    exact .inl (by decide)
  obtain ⟨gs, hcopy, -⟩ :=
    copy_of_found footing_noteHost.toIsTree (resolve_note .follow) (resolve_note .write)
  rw [copyFile_of_isFile hfile, perform_bind_of_ok (makeParent_of_made footing_noteHost hmade)]
  exact ⟨noteHost.withFiles gs, perform_edit_eq_ok.mpr ⟨gs, hcopy, rfl⟩⟩

theorem copyFile_faithful_iff_self : Footing noteHost.files noteHost.workingDirectory ∧
    ∃ g, perform (copyFile "/f" "/f") noteHost = (.ok (), g) ∧
      noteHost.files.read noteHost.workingDirectory "/f" = .ok ⟨#[120]⟩ ∧
      g.files.read g.workingDirectory "/f" = .ok .empty := by
  obtain ⟨g, hr⟩ := copyFile_note
  obtain ⟨s, t, content, executable, hcopied, -⟩ :=
    (copyFile_faithful_iff footing_noteHost "/f" "/f").2 g hr
  have hone : s = t := by
    have hsource := hcopied.source
    rw [Host.HasFile, hcopied.target] at hsource
    cases hsource
    rfl
  have htarget := hcopied.target
  rw [if_pos hone] at htarget
  exact ⟨footing_noteHost, g, hr, read_of_hasFile (resolve_note .follow), read_of_hasFile htarget⟩

end Sample

end Action

end FlutterInstaller
