import FlutterInstaller.Proofs.FileSystem.Renewal
import FlutterInstaller.Proofs.Host.Likeness

/-!
Directories that a run makes, in any tree and through any links. What stands elsewhere is left as it was,
and what is new are directories on the way.
-/
namespace FlutterInstaller

open FileSystem FlutterInstaller.Path

namespace Host

def HasFile (h : Host) (p : String) (l : Location) (content : ByteArray) (executable : Bool) : Prop :=
  h.files.resolve h.workingDirectory .follow p = .ok (.found l (.file content executable))

def Leads (h : Host) (p : String) (l : Location) : Prop := h.files.Leads h.workingDirectory p l

def Misses (h : Host) (p q : String) : Prop := h.files.Misses h.workingDirectory p q

variable {h h' : Host} {p : String} {l : Location} {content : ByteArray} {executable : Bool}

theorem isFile_iff_hasFile :
    h.isFile p = true ↔ ∃ l content executable, h.HasFile p l content executable :=
  isFile_iff_resolve

theorem HasFile.get? (hfile : h.HasFile p l content executable) (htree : h.files.IsTree) :
    h.files.get? l = some (.file content executable) :=
  resolve_eq_found htree hfile

theorem HasFile.of_within (hfile : h.HasFile p l content executable) (htree : h.files.IsTree)
    (hwithin : Within h.files h'.files) (hcwd : h'.workingDirectory = h.workingDirectory) :
    h'.HasFile p l content executable := by
  rw [HasFile, hcwd]
  exact hwithin.resolve htree hfile

/-- The host once what a path names is removed, as far as it can be. -/
def without (h : Host) (p : String) : Host :=
  h.withFiles (perform (FileSystem.removeDirectories h.workingDirectory p) h.files).2

/-- What making the directories of a path does to the files: when they are made afresh, what stands at the
path and below it may go, and nothing else. What is new are directories to which the path and those above
it lead. -/
structure Contained (h : Host) (path : String) (erase : Bool) (h' : Host) : Prop where
  kept : ∀ m e, (erase = true → ∀ k d,
      h.files.resolve h.workingDirectory .inspect path = .ok (.found k d) → ¬ k <+: m) →
    h.files.get? m = some e → h'.files.get? m = some e
  new : ∀ m e, h'.files.get? m = some e → h.files.get? m = some e ∨ e = .directory ∧
    ∃ q ∈ lineage (path.length + 1) path,
      h'.files.resolve h'.workingDirectory .follow q = .ok (.found m .directory)

end Host

namespace Action

open Host

variable {h h' : Host} {path target directory : String} {l : Location} {erase : Bool}

section Edit

variable {α : Type} {a : α} {action : FileAction} {change : Standpoint → Edit α}

theorem edit_of_footing {gs : FileSystem} (hf : Footing gs h.workingDirectory)
    (hchange : perform (change h.workingDirectory) h.files = (.ok a, gs)) :
    perform (edit action path change) h = (.ok a, { h with files := gs }) := by
  refine perform_edit_eq_ok.mpr ⟨gs, hchange, ?_⟩
  rw [withFiles, hf.settle]

theorem edit_extends_eq_ok (hf : Footing h.files h.workingDirectory)
    (hextends : Advances Extends (change h.workingDirectory))
    (hr : perform (edit action path change) h = (.ok a, h')) :
    perform (change h.workingDirectory) h.files = (.ok a, h'.files) ∧
      h' = { h with files := h'.files } ∧ Footing h'.files h'.workingDirectory ∧
      Extends h.files h'.files := by
  obtain ⟨gs, hchange, rfl⟩ := perform_edit_eq_ok.mp hr
  have hgs := hextends.of_perform hchange
  have hf' := hf.of_extends hgs
  have hcwd : h.workingDirectory.settle gs = h.workingDirectory := hf'.settle
  rw [withFiles, hcwd]
  exact ⟨hchange, rfl, hf', hgs⟩

end Edit

theorem makeDirectories_false : makeDirectories path false =
    edit .creatingDirectory path fun cwd => FileSystem.makeDirectories cwd path :=
  rfl

theorem makeParent_eq_makeDirectories (hparent : parent? target = some path) :
    makeParent target = makeDirectories path false := by
  rw [makeParent, hparent]
  rfl

section Made

theorem makeDirectories_eq_ok_of_footing (hf : Footing h.files h.workingDirectory)
    (hr : perform (makeDirectories path false) h = (.ok (), h')) :
    perform (FileSystem.makeDirectories h.workingDirectory path) h.files = (.ok (), h'.files) ∧
      h' = { h with files := h'.files } ∧ Footing h'.files h'.workingDirectory := by
  rw [makeDirectories_false] at hr
  obtain ⟨hmake, hh', hf', -⟩ := edit_extends_eq_ok hf (makeDirectories_extends _ path) hr
  exact ⟨hmake, hh', hf'⟩

theorem isDirectory_of_made (hf : Footing h.files h.workingDirectory) (hne : path ≠ "")
    (hshort : parent? path = none → path.utf8ByteSize < pathLimit)
    (hr : perform (makeDirectories path false) h = (.ok (), h')) : h'.isDirectory path = true := by
  obtain ⟨hmake, hh', -⟩ := makeDirectories_eq_ok_of_footing hf hr
  rw [Host.isDirectory, show h'.workingDirectory = h.workingDirectory by rw [hh']]
  by_cases hparent : parent? path = none
  · exact isDirectory_of_parent?_eq_none hparent hne (hshort hparent)
  · exact hf.isDirectory_of_makeDirectories hparent hmake

theorem makeDirectories_of_made (hf : Footing h.files h.workingDirectory)
    (hd : parent? path = none ∨ h.isDirectory path = true) :
    perform (makeDirectories path false) h = (.ok (), h) := by
  have hmake : perform (FileSystem.makeDirectories h.workingDirectory path) h.files =
      (.ok (), h.files) := by
    rcases hd with hparent | hd
    · rw [FileSystem.makeDirectories, lineage, hparent]
      rfl
    · exact makeDirectories_of_isDirectory hd
  rw [makeDirectories_false]
  exact edit_of_footing hf hmake

theorem makeParent_of_leads (hleads : h.Leads directory l)
    (hparent : parent? target = some directory) : perform (makeParent target) h = (.ok (), h) := by
  rw [makeParent_eq_makeDirectories hparent]
  exact makeDirectories_of_made hleads.toFooting (.inr hleads.isDirectory)

end Made

section Erase

theorem makeDirectories_erase_iff : perform (makeDirectories path true) h = (.ok (), h') ↔
    perform (FileSystem.removeDirectories h.workingDirectory path) h.files =
        (.ok (), (h.without path).files) ∧
      perform (makeDirectories path false) (h.without path) = (.ok (), h') := by
  rw [makeDirectories, if_pos rfl, perform_bind_eq_ok]
  constructor
  · rintro ⟨_, h₁, hfirst, hsecond⟩
    obtain ⟨gs, hremove, rfl⟩ := perform_edit_eq_ok.mp hfirst
    rw [Host.without, hremove]
    exact ⟨rfl, hsecond⟩
  · rintro ⟨hremove, hmake⟩
    exact ⟨(), h.without path, perform_edit_eq_ok.mpr ⟨_, hremove, rfl⟩, hmake⟩

theorem footing_without (htree : IsTree h.files)
    (hremove : perform (FileSystem.removeDirectories h.workingDirectory path) h.files =
      (.ok (), (h.without path).files)) :
    Removed h.workingDirectory path h.files (h.without path).files ∧
      Footing (h.without path).files (h.without path).workingDirectory :=
  have hremoved := removed_of_removeDirectories htree hremove
  ⟨hremoved, .of_settle hremoved.isTree h.workingDirectory⟩

theorem parent?_ne_none_of_erased (htree : IsTree h.files) (hne : path ≠ "")
    (hshort : parent? path = none → path.utf8ByteSize < pathLimit)
    (hr : perform (makeDirectories path true) h = (.ok (), h')) : parent? path ≠ none := by
  intro hparent
  obtain ⟨hremove, -⟩ := makeDirectories_erase_iff.mp hr
  have hgone := (removed_of_removeDirectories htree hremove).gone
  rw [isDirectory_of_parent?_eq_none hparent hne (hshort hparent)] at hgone
  cases hgone

theorem renewed_of_makeDirectories (htree : IsTree h.files) (hparent : parent? path ≠ none)
    (hup : ∀ q ∈ lineage (path.length + 1) path, (Path.names q).getLast? = some ".." →
      (h.without path).isDirectory q = true)
    (hr : perform (makeDirectories path true) h = (.ok (), h')) :
    ∃ l, Renewed path h.workingDirectory h.files h'.workingDirectory h'.files l := by
  obtain ⟨hremove, hmade⟩ := makeDirectories_erase_iff.mp hr
  have hf := (footing_without htree hremove).2
  obtain ⟨hmake, hh', -⟩ := makeDirectories_eq_ok_of_footing hf hmade
  rw [hh']
  exact exists_renewed htree hparent hup hremove hmake

theorem makeDirectories_of_founded (hfounded : Founded h.files h.workingDirectory path l) :
    ∃ g, perform (makeDirectories path true) h = (.ok (), g) ∧ h.Alike g := by
  obtain ⟨gs, ks, hremove, hgs, hmake, hsame⟩ := hfounded.again
  have hwithout : h.without path = { h with files := gs } := by
    rw [Host.without, hremove, withFiles, hgs.settle]
  have hks := hfounded.fresh.toFooting.of_same hsame
  refine ⟨{ h with files := ks }, makeDirectories_erase_iff.mpr ⟨?_, ?_⟩, hsame, rfl⟩
  · rw [hwithout]
    exact hremove
  · rw [hwithout]
    rw [makeDirectories_false]
    exact edit_of_footing hks hmake

end Erase

section Contain

theorem contained_of_dug {g : Host} (hwithin : Within g.files h.files)
    (helse : ∀ m, (erase = true → ∀ k d,
      h.files.resolve h.workingDirectory .inspect path = .ok (.found k d) → ¬ k <+: m) →
        g.files.get? m = h.files.get? m)
    (hf : Footing g.files g.workingDirectory)
    (hr : perform (makeDirectories path false) g = (.ok (), h')) : h.Contained path erase h' := by
  obtain ⟨hmake, hh', hf'⟩ := makeDirectories_eq_ok_of_footing hf hr
  obtain ⟨-, hdug⟩ := (makeDirectories_digsTo g.workingDirectory path).of_perform hmake hf
  have hcwd : h'.workingDirectory = g.workingDirectory := by rw [hh']
  refine ⟨fun m e hm he => hdug.within m e ((helse m hm).trans he), fun m e he => ?_⟩
  cases hget : g.files.get? m with
  | some old =>
    have hold := hdug.within m old hget
    rw [he] at hold
    exact .inl (hwithin m e (hold ▸ hget))
  | none =>
    obtain ⟨q, hq, hres⟩ := hdug.reached m hget (by simp [he])
    have hd := resolve_eq_found hf'.toIsTree hres
    rw [he] at hd
    exact .inr ⟨Option.some.inj hd, q, hq, hcwd ▸ hres⟩

theorem contained_of_makeDirectories (hf : Footing h.files h.workingDirectory)
    (hr : perform (makeDirectories path erase) h = (.ok (), h')) : h.Contained path erase h' := by
  cases erase with
  | false => exact contained_of_dug (Std.Refl.refl h.files) (fun _ _ => rfl) hf hr
  | true =>
    obtain ⟨hremove, hmade⟩ := makeDirectories_erase_iff.mp hr
    obtain ⟨hremoved, hf'⟩ := footing_without hf.toIsTree hremove
    exact contained_of_dug hremoved.within (fun m hm => hremoved.elsewhere m (hm rfl)) hf' hmade

end Contain

end Action

end FlutterInstaller
