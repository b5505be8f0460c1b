import FlutterInstaller.Proofs.Config.DisplayName
import FlutterInstaller.Proofs.Text.Lines
import FlutterInstaller.Proofs.Uuid.Text

/-!
Fields of a configuration that stand on one line, whatever the manifest says: the identifier, the
display name, and the names out of a catalogue.
-/
namespace FlutterInstaller

namespace Text

theorem oneLine_uuid (u : Uuid) : OneLine u.text := by
  have hdigit : ∀ d : HexDigit, d.char ≠ '\n' := by decide
  intro h
  rw [Uuid.text, String.toList_ofList, Uuid.chars] at h
  rcases Uuid.mem_of_mem_group h with h | h
  · exact absurd h (by decide)
  · obtain ⟨d, _, hd⟩ := List.mem_map.mp h
    exact hdigit d hd

theorem oneLine_pageSwitch (p : PageSwitch) : OneLine p.token := by cases p <;> decide

theorem oneLine_languageName (l : Language) : OneLine l.name := by cases l <;> decide

end Text

theorem Config.Resolves.oneLine_displayName {r : Config.Request} {c : Config}
    (h : Config.Resolves r c) : Text.OneLine c.displayName := by
  rcases Config.Request.displayName_eq_ok h.displayName with ⟨_, _, hvalid⟩ | ⟨_, heq⟩
  · intro hbreak
    exact absurd (hvalid '\n' hbreak) (by decide +kernel)
  · rw [heq]
    exact Text.oneLine_camelCase c.manifestName

/-- What no display name may have gets into one from the name of the manifest only. -/
theorem Config.Resolves.not_mem_displayName {r : Config.Request} {c : Config}
    (h : Config.Resolves r c) {x : Char} (hx : Config.isDisplayChar x = false)
    (hname : (r.tool "name").Empty → x ∉ c.displayName.toList) : x ∉ c.displayName.toList := by
  rcases Config.Request.displayName_eq_ok h.displayName with ⟨_, _, hvalid⟩ | ⟨hempty, _⟩
  · intro hmem
    rw [hvalid x hmem] at hx
    cases hx
  · exact hname hempty

end FlutterInstaller
