import FlutterInstaller.Proofs.Script.Likeness
import FlutterInstaller.Proofs.Script.Staging

/-!
Building as rendering and then writing, from a host without links in which a request finds its
directories.
-/
namespace FlutterInstaller.Script.Request

open FileSystem FlutterInstaller.Path FlutterInstaller.Action Host

variable {r : Request} {p : Places} {w : Location} {h g h' : Host} {text path : String}

/-- A host without links, in which a request finds its directories from a place. -/
structure Finds (r : Request) (h : Host) (p : Places) (w : Location) : Prop where
  linkFree : Plain h.files
  currentDirectory : h.currentDirectory = .ok w
  places : perform r.places h = (.ok p, h)

theorem Finds.standing (hf : r.Finds h p w) : h.Standing w :=
  standing_of_currentDirectory hf.linkFree hf.currentDirectory

theorem Finds.places_eq (hf : r.Finds h p w) : p = r.placesFrom h w := by
  obtain ⟨_, cwd, hcwd, hp⟩ := perform_places_eq_ok_iff.mp hf.places
  rw [hf.currentDirectory] at hcwd
  cases hcwd
  exact hp

theorem Finds.isName_project (hf : r.Finds h p w) : ∀ n ∈ r.projectFrom w, IsName n := by
  have hw : ∀ n ∈ w, IsName n := hf.linkFree.isName (by simp [hf.standing.ground.here])
  unfold projectFrom
  cases r.workDirectory with
  | none => exact hw
  | some dir => exact isName_locate hw dir

theorem straight_outputDirectory {project : String} (hp : Straight project) (mode : BuildMode) :
    Straight (Layout.outputDirectory project mode) := by
  refine straight_join (by cases mode <;> decide) (straight_join (by decide) hp (by decide)) ?_
  cases mode <;> decide

theorem Finds.of_becomes (hf : r.Finds h p w) {v : View} (hh : h.Becomes w v g) : r.Finds g p w where
  linkFree := hh.standing.ground.toPlain
  currentDirectory := hh.standing.currentDirectory
  places := by
    refine perform_places_eq_ok_iff.mpr ⟨rfl, w, hh.standing.currentDirectory, ?_⟩
    rw [hf.places_eq, placesFrom, placesFrom, hh.rest]

def scriptPath (p : Places) : String := join p.output Layout.scriptName

def scriptContent (text : String) : ByteArray := (byteOrderMark ++ text).toUTF8

theorem scriptContent_injective : Function.Injective scriptContent := by
  intro s t h
  have hbytes : byteOrderMark ++ s = byteOrderMark ++ t := String.toByteArray_inj.mp h
  simpa [← String.toList_inj] using hbytes

theorem isName_scriptName : IsName Layout.scriptName := by simp [IsName, Layout.scriptName]

theorem build_eq_ok (hp : perform r.places h = (.ok p, h))
    (hb : perform r.build h = (.ok path, h')) :
    path = scriptPath p ∧ ∃ text h₁ h₂, perform r.render h = (.ok text, h₁) ∧
      perform (writeFile (scriptPath p) (scriptContent text)) h₁ = (.ok (), h₂) ∧ h₂.Alike h' := by
  rw [build, perform_bind_of_ok hp] at hb
  obtain ⟨k, hlike, hlog⟩ := exists_alike_info h _ _
  rw [hlog] at hb
  obtain ⟨text, k₁, hr, hb⟩ := perform_bind_eq_ok.mp hb
  obtain ⟨_, k₂, hw, hb⟩ := perform_bind_eq_ok.mp hb
  cases hb
  obtain ⟨h₁, hr₁, hlike₁⟩ := (respects_renderAt r p hlike.symm).of_ok hr
  obtain ⟨h₂, hw₂, hlike₂⟩ := (respects_writeFile _ _ hlike₁).of_ok hw
  refine ⟨rfl, text, h₁, h₂, ?_, hw₂, hlike₂.symm.trans (alike_log k₂ _)⟩
  rw [render, perform_bind_of_ok hp, hr₁]

theorem build_of_ok {h₁ h₂ : Host} (hp : perform r.places h = (.ok p, h))
    (hr : perform r.render h = (.ok text, h₁))
    (hw : perform (writeFile (scriptPath p) (scriptContent text)) h₁ = (.ok (), h₂)) :
    ∃ h', perform r.build h = (.ok (scriptPath p), h') ∧ h₂.Alike h' := by
  rw [render, perform_bind_of_ok hp] at hr
  rw [build, perform_bind_of_ok hp]
  obtain ⟨k, hlike, hlog⟩ := exists_alike_info h _ _
  rw [hlog]
  obtain ⟨k₁, hr₁, hlike₁⟩ := (respects_renderAt r p hlike).of_ok hr
  obtain ⟨k₂, hw₂, hlike₂⟩ := (respects_writeFile _ _ hlike₁).of_ok hw
  rw [perform_bind_of_ok hr₁]
  obtain ⟨k', hlike', hlog'⟩ := exists_alike_info k₂ _ _
  refine ⟨k', (perform_bind_of_ok hw₂).trans hlog', hlike₂.trans hlike'⟩

def Holds (h : Host) (path text : String) : Prop :=
  h.files.read h.workingDirectory path = .ok (scriptContent text)

theorem Holds.of_alike (hh : Holds h path text) (hlike : h.Alike g) : Holds g path text := by
  rwa [Holds, ← hlike.files.read, ← hlike.workingDirectory]

end FlutterInstaller.Script.Request
