import FlutterInstaller.Proofs.Config.DisplayName
import FlutterInstaller.Proofs.Text.Capitals

/-!
The display name that is made from the name of the manifest. It is in camel case, and camel case leaves
it as it is, so a configuration with such a name has one name for both purposes.
-/
namespace FlutterInstaller

open Text

theorem Config.Resolves.camelCaseName_eq {r : Config.Request} {c : Config} (h : Config.Resolves r c)
    (hempty : (r.tool "name").Empty) : c.camelCaseName = c.displayName := by
  rcases Config.Request.displayName_eq_ok h.displayName with ⟨hchosen, _⟩ | ⟨_, heq⟩
  · exact absurd hempty (Source.not_empty_of_chosen_singleton hchosen)
  · rw [Config.camelCaseName, heq, camelCase_camelCase]

/-- Camel case puts the first letter of a word in upper case, and a separator parts what stands before
it from what stands after it. The result has no separator in it, is left as it is when it is put into
camel case again, and is empty exactly for texts of separators alone. So a display name that comes from
the name of the manifest is its own name in camel case. -/
theorem Project.camelCase_lawful :
    (∀ c word, (∀ x ∈ c :: word, isSeparator x = false) →
      camelCase (String.ofList (c :: word)) = String.ofList (upper c ++ word)) ∧
    (∀ a b s, isSeparator s = true →
      camelCase (a ++ String.singleton s ++ b) = camelCase a ++ camelCase b) ∧
    (∀ t, (∀ x ∈ (camelCase t).toList, isSeparator x = false) ∧
      camelCase (camelCase t) = camelCase t ∧
      (camelCase t = "" ↔ ∀ x ∈ t.toList, isSeparator x = true)) ∧
    ∀ {m o w h h' c}, perform (resolve m o w) h = (.ok c, h') → (Source.tool m "name").Empty →
      c.camelCaseName = c.displayName := by
  refine ⟨fun c word hword => ?_, fun a b s hs => camelCase_append hs a b, fun t => ⟨?_, ?_, ?_⟩, ?_⟩
  · rw [camelCase, String.toList_ofList, camelCaseChars_of_word hword, capitalize]
  · intro x hx
    rw [camelCase, String.toList_ofList] at hx
    exact not_isSeparator_of_mem_camelCaseChars hx
  · exact camelCase_camelCase t
  · exact camelCase_eq_empty_iff
  · intro m o w h h' c hr hempty
    obtain ⟨b, _, hc⟩ := perform_resolve_eq_ok_iff.mp ⟨h', hr⟩
    exact hc.camelCaseName_eq hempty

theorem camelCase_lawful_sample :
    let m := sampleManifest "-ßa_app " []
    let c := { sampleConfig with manifestName := "-ßa_app ", displayName := "SSaApp" }
    (∃ h', perform (Project.resolve m {} none) (sampleHost []) = (.ok c, h')) ∧
      camelCase "-ßa_app " = camelCase "-ßa" ++ camelCase "app " ∧
      camelCase (camelCase "-ßa_app ") = camelCase "-ßa_app " ∧ c.camelCaseName = c.displayName := by
  intro m c
  have hc : Config.resolve ⟨m, {}, [], ⟨[]⟩⟩ = .ok c := rfl
  obtain ⟨h', hr⟩ := Project.perform_resolve_eq_ok_iff.mpr
    ⟨[], perform_base_sampleHost [], Config.resolve_eq_ok_iff.mp hc⟩
  obtain ⟨-, happend, hlaws, hdefault⟩ := Project.camelCase_lawful
  exact ⟨⟨h', hr⟩, happend "-ßa" "app " '_' (by decide), (hlaws _).2.1, hdefault hr (.absent _)⟩

end FlutterInstaller
