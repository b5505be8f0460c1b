import FlutterInstaller.Proofs.Config.Precedence
import FlutterInstaller.Proofs.Text.CamelCase

/-!
Which configurations have a display name that fits a file name. A name that the section for
installers gives always does. One that is made from the name of the manifest is not looked at again:
it fits exactly when there is something between the separators and every word, once capitalized, is
made of characters that a display name may have.
-/
namespace FlutterInstaller

namespace Source

theorem Holds.unique {s : Source} {t u : String} (ht : s.Holds t) (hu : s.Holds u) : t = u := by
  have h := (holds_iff.mp ht).symm.trans (holds_iff.mp hu)
  simpa using h

theorem Empty.blank_of_holds {s : Source} {t : String} (he : s.Empty) (ht : s.Holds t) :
    Text.Blank t := by
  cases he with
  | notGiven => cases ht
  | absent name => cases ht
  | null name => cases ht
  | blank hu hb => exact ht.unique hu ▸ hb

theorem not_empty_of_chosen_singleton {s : Source} {t : String} (h : Chosen [s] t) : ¬ s.Empty := by
  obtain ⟨before, s', after, heq, _, ht, hb⟩ := h
  have hs : s' = s := by
    have hm : s' ∈ [s] := heq ▸ List.mem_append_right before List.mem_cons_self
    exact List.mem_singleton.mp hm
  subst hs
  exact fun he => hb (he.blank_of_holds ht)

end Source

namespace Config

theorem isDisplayName_camelCase_iff {s : String} :
    IsDisplayName (Text.camelCase s) ↔
      (∃ c ∈ s.toList, Text.isSeparator c = false) ∧
        ∀ word ∈ Text.splitBy Text.isSeparator s.toList, ∀ c ∈ Text.capitalize word,
          isDisplayChar c = true := by
  rw [IsDisplayName, Text.camelCase, String.toList_ofList, Text.camelCaseChars_ne_nil_iff,
    Text.camelCaseChars]
  simp only [List.mem_flatMap, forall_exists_index, and_imp]
  constructor
  · rintro ⟨hne, hall⟩
    exact ⟨hne, fun word hw c hc => hall c word hw hc⟩
  · rintro ⟨hne, hall⟩
    exact ⟨hne, fun c word hw hc => hall word hw c hc⟩

end Config

/-- The display name of a project that resolves fits a file name exactly when the section for
installers gives one, or the name of the manifest has a word and only words that fit. -/
theorem Project.isDisplayName_resolve_iff {m : Manifest} {o : Overrides} {w : Option String}
    {h h' : Host} {c : Config} (hr : perform (Project.resolve m o w) h = (.ok c, h')) :
    Config.IsDisplayName c.displayName ↔
      ¬ (Source.tool m "name").Empty ∨
        (∃ x ∈ c.manifestName.toList, Text.isSeparator x = false) ∧
          ∀ word ∈ Text.splitBy Text.isSeparator c.manifestName.toList,
            ∀ x ∈ Text.capitalize word, Config.isDisplayChar x = true := by
  obtain ⟨b, _, hc⟩ := Project.perform_resolve_eq_ok_iff.mp ⟨h', hr⟩
  rcases Config.Request.displayName_eq_ok hc.displayName with ⟨hchosen, hvalid⟩ | ⟨hempty, heq⟩
  · have hne := Source.not_empty_of_chosen_singleton hchosen
    exact ⟨fun _ => .inl hne, fun _ => hvalid⟩
  · have hempty' : (Source.tool m "name").Empty := hempty
    rw [heq, Config.isDisplayName_camelCase_iff]
    simp [hempty']

theorem isDisplayName_resolve_slash :
    let m := sampleManifest "a/b" []
    let c := { sampleConfig with manifestName := "a/b", displayName := "A/b" }
    ∃ h', perform (Project.resolve m {} none) (sampleHost []) = (.ok c, h') ∧
      ¬ Config.IsDisplayName c.displayName := by
  intro m c
  have hc : Config.resolve ⟨m, {}, [], ⟨[]⟩⟩ = .ok c := rfl
  obtain ⟨h', hr⟩ := Project.perform_resolve_eq_ok_iff.mpr
    ⟨[], perform_base_sampleHost [], Config.resolve_eq_ok_iff.mp hc⟩
  refine ⟨h', hr, fun hvalid => ?_⟩
  rcases (Project.isDisplayName_resolve_iff hr).mp hvalid with hne | ⟨_, hall⟩
  · exact hne (.absent _)
  · have hslash : Config.isDisplayChar '/' = true :=
      hall ['a', '/', 'b'] (by decide) '/' (by decide +kernel)
    exact absurd hslash (by decide +kernel)

end FlutterInstaller
