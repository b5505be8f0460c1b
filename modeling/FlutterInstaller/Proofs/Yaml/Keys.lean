import FlutterInstaller.Yaml.Document

/-!
The keys of a mapping. A document gives no key twice, and then looking up a key does not depend on the
order of the entries, nor on entries under keys that nobody looks up.
-/
namespace FlutterInstaller.Yaml.Value

abbrev Entries := List (Value × Value)

def Distinct (es : Entries) : Prop :=
  es.Pairwise fun e f => ∀ s, e.1 = .string s → f.1 ≠ .string s

def Keyed (v : Value) : Prop := ∀ es, v.untag = .mapping es → Distinct es

def under (keys : List String) (es : Entries) : Entries :=
  es.filter fun e => keys.any fun k => e.1.isString k

/-- Two values that are the same up to the order of their entries and to entries under other keys than
these. -/
inductive Rearranged (keys : List String) (v : Value) : Value → Prop
  | refl : Rearranged keys v v
  | mapping {w : Value} {es fs : Entries} (hv : v.untag = .mapping es) (hw : w.untag = .mapping fs)
      (hperm : (under keys es).Perm (under keys fs)) : Rearranged keys v w

theorem isString_iff {v : Value} {s : String} : v.isString s = true ↔ v = .string s := by
  cases v <;> simp [isString]
  exact eq_comm

theorem find?_eq_some_iff {es : Entries} (hd : Distinct es) {s : String} {e : Value × Value} :
    es.find? (fun e => e.1.isString s) = some e ↔ e ∈ es ∧ e.1 = .string s := by
  induction es with
  | nil => simp
  | cons f es ih =>
    obtain ⟨hf, hes⟩ := List.pairwise_cons.mp hd
    by_cases hs : f.1 = .string s
    · have hfind : (f :: es).find? (fun e => e.1.isString s) = some f :=
        List.find?_cons_of_pos (isString_iff.mpr hs)
      rw [hfind]
      constructor
      · intro h
        cases h
        exact ⟨List.mem_cons_self, hs⟩
      · intro h
        rcases List.mem_cons.mp h.1 with rfl | he
        · rfl
        · exact absurd h.2 (hf e he s hs)
    · have hfind : (f :: es).find? (fun e => e.1.isString s) = es.find? fun e => e.1.isString s :=
        List.find?_cons_of_neg (mt isString_iff.mp hs)
      rw [hfind, ih hes, List.mem_cons]
      constructor
      · intro h
        exact ⟨.inr h.1, h.2⟩
      · intro h
        refine ⟨h.1.resolve_left ?_, h.2⟩
        intro he
        exact hs (he ▸ h.2)

theorem mem_under_iff {keys : List String} {es : Entries} {s : String} (hs : s ∈ keys)
    {e : Value × Value} (he : e.1 = .string s) : e ∈ under keys es ↔ e ∈ es := by
  rw [under, List.mem_filter, and_iff_left_iff_imp]
  intro _
  exact List.any_eq_true.mpr ⟨s, hs, isString_iff.mpr he⟩

namespace Rearranged

variable {keys : List String} {v w : Value}

theorem get?_eq (h : Rearranged keys v w) (hv : v.Keyed) (hw : w.Keyed) {s : String}
    (hs : s ∈ keys) : v.get? s = w.get? s := by
  cases h with
  | refl => rfl
  | @mapping _ es fs hes hfs hperm =>
    have hfind : es.find? (fun e => e.1.isString s) = fs.find? (fun e => e.1.isString s) := by
      apply Option.ext
      intro e
      rw [find?_eq_some_iff (hv es hes), find?_eq_some_iff (hw fs hfs)]
      apply and_congr_left
      intro he
      calc e ∈ es ↔ e ∈ under keys es := (mem_under_iff hs he).symm
        _ ↔ e ∈ under keys fs := hperm.mem_iff
        _ ↔ e ∈ fs := mem_under_iff hs he
    rw [get?, get?, hes, hfs]
    exact congrArg (Option.map Prod.snd) hfind

theorem isMapping_eq (h : Rearranged keys v w) : v.isMapping = w.isMapping := by
  cases h with
  | refl => rfl
  | mapping hes hfs _ => rw [isMapping, isMapping, hes, hfs]

theorem isNull_eq (h : Rearranged keys v w) : v.isNull = w.isNull := by
  cases h with
  | refl => rfl
  | mapping hes hfs _ => rw [isNull, isNull, hes, hfs]

end Rearranged

theorem untag_wrap (t : Option Tag) (v : Value) : (wrap t v).untag = v.untag := by
  unfold wrap
  split
  · rw [untag]
  · rfl

theorem isMapping_wrap (t : Option Tag) (v : Value) : (wrap t v).isMapping = v.isMapping := by
  rw [isMapping, isMapping, untag_wrap]

theorem keyed_of_not_mapping {v : Value} (hv : v.isMapping = false) : v.Keyed := by
  intro es hes
  rw [isMapping, hes] at hv
  cases hv

theorem not_mapping_of_integerValue? {cs : List Char} {v : Value}
    (h : Scalar.integerValue? cs = some (.ok v)) : v.isMapping = false := by
  obtain ⟨n, _, hn⟩ := Option.bind_eq_some_iff.mp h
  unfold Scalar.ofInteger at hn
  split at hn
  · cases hn
    rfl
  · split at hn <;> cases hn

theorem not_mapping_of_plain {s : String} {v : Value} (h : Scalar.plain s = .ok v) :
    v.isMapping = false := by
  unfold Scalar.plain at h
  dsimp only at h
  split at h
  · cases h
    rfl
  · split at h
    · cases h
      rfl
    · split at h
      · next hv =>
        rw [h] at hv
        exact not_mapping_of_integerValue? hv
      · split at h <;> cases h <;> rfl

theorem not_mapping_of_elim {α : Type} {f : α → Value} (hf : ∀ a, (f a).isMapping = false)
    {o : Option α} {e : Error} {v : Value} (h : (o.map f).elim (.error e) Except.ok = .ok v) :
    v.isMapping = false := by
  cases o with
  | none => cases h
  | some a =>
    cases h
    exact hf a

theorem not_mapping_of_underTag {t : Tag} {s : String} {v : Value}
    (h : Scalar.underTag t s = .ok v) : v.isMapping = false := by
  unfold Scalar.underTag at h
  dsimp only at h
  split at h
  · exact not_mapping_of_elim (fun _ => rfl) h
  · split at h
    · cases hi : Scalar.integerValue? s.toList with
      | none => simp [hi] at h
      | some x =>
        rw [hi, Option.getD_some] at h
        exact not_mapping_of_integerValue? (h ▸ hi)
    · split at h
      · exact not_mapping_of_elim (fun _ => rfl) h
      · split at h
        · exact not_mapping_of_elim (fun _ => rfl) h
        · cases h
          rfl

theorem not_mapping_of_ofScalar {p : Properties} {text : String} {plain : Bool} {v : Value}
    (h : ofScalar p text plain = .ok v) : v.isMapping = false := by
  unfold ofScalar at h
  split at h
  · exact not_mapping_of_underTag h
  · cases plain with
    | false =>
      cases h
      exact isMapping_wrap p.tag (.string text)
    | true =>
      rw [if_pos rfl] at h
      cases hs : Scalar.plain text with
      | error e =>
        rw [hs] at h
        cases h
      | ok u =>
        rw [hs] at h
        cases h
        rw [isMapping_wrap]
        exact not_mapping_of_plain hs

theorem run_bind_eq_ok {α β : Type} {x : Build α} {f : α → Build β} {a c : Anchors} {v : β} :
    (x >>= f).run a = .ok (v, c) ↔ ∃ u b, x.run a = .ok (u, b) ∧ (f u).run b = .ok (v, c) := by
  rw [StateT.run_bind]
  cases x.run a with
  | error e => simp [bind, Except.bind]
  | ok p =>
    constructor
    · intro h
      exact ⟨p.1, p.2, rfl, h⟩
    · intro h
      obtain ⟨u, b, hp, h⟩ := h
      cases hp
      exact h

section Entries

variable {build : Node → Build Value} {P : Value → Prop}

theorem of_buildEntries (hbuild : ∀ {n a v b}, (build n).run a = .ok (v, b) → P v)
    {entries : List (Node × Node)} {seen : List Value} {a b : Anchors} {es : Entries}
    (h : (buildEntries build seen entries).run a = .ok (es, b)) :
    (∀ e ∈ es, ∀ s, e.1 = .string s → .string s ∉ seen) ∧ Distinct es ∧ ∀ e ∈ es, P e.2 := by
  induction entries generalizing seen a es with
  | nil =>
    rw [buildEntries] at h
    cases h
    simp [Distinct]
  | cons e rest ih =>
    rw [buildEntries, run_bind_eq_ok] at h
    obtain ⟨key, a₁, _, h⟩ := h
    split at h
    · cases h
    · next hkey =>
      rw [run_bind_eq_ok] at h
      obtain ⟨value, a₂, hvalue, h⟩ := h
      rw [run_bind_eq_ok] at h
      obtain ⟨others, a₃, hothers, h⟩ := h
      cases h
      obtain ⟨hseen, hdistinct, hvalues⟩ := ih hothers
      refine ⟨?_, ?_, List.forall_mem_cons.mpr ⟨hbuild hvalue, hvalues⟩⟩
      · intro f hf s hs hmem
        rcases List.mem_cons.mp hf with rfl | hf
        · apply hkey
          have hs : key = .string s := hs
          exact List.any_eq_true.mpr ⟨_, hmem, by simp [hs, same]⟩
        · exact hseen f hf s hs (List.mem_cons_of_mem _ hmem)
      · apply List.pairwise_cons.mpr
        refine ⟨?_, hdistinct⟩
        intro f hf s hs hfs
        exact hseen f hf s hfs (hs ▸ List.mem_cons_self)

end Entries

theorem not_mapping_of_lift {p : Properties} {text : String} {plain : Bool} {v : Value}
    {a b : Anchors} (h : StateT.run (liftM (ofScalar p text plain) : Build Value) a = .ok (v, b)) :
    v.isMapping = false := by
  cases hs : ofScalar p text plain with
  | error e =>
    rw [hs] at h
    cases h
  | ok u =>
    rw [hs] at h
    cases h
    exact not_mapping_of_ofScalar hs

theorem build_cases {d : Nat} {n : Node} {a b : Anchors} {v : Value}
    (h : (build d n).run a = .ok (v, b)) :
    v.isMapping = false ∨ ∃ d' t entries es a' b', v = wrap t (.mapping es) ∧
      (buildEntries (build d') [] entries).run a' = .ok (es, b') := by
  cases d with
  | zero =>
    rw [build, run_bind_eq_ok] at h
    obtain ⟨target, a₁, _, h⟩ := h
    split at h
    · cases h
    · exact .inl (not_mapping_of_lift h)
    · cases h
  | succ d' =>
    rw [build, run_bind_eq_ok] at h
    obtain ⟨target, a₁, _, h⟩ := h
    split at h
    · cases h
    · exact .inl (not_mapping_of_lift h)
    · rw [run_bind_eq_ok] at h
      obtain ⟨items, a₂, _, h⟩ := h
      cases h
      exact .inl (isMapping_wrap _ _)
    · rw [run_bind_eq_ok] at h
      obtain ⟨es, a₂, hes, h⟩ := h
      cases h
      exact .inr ⟨d', _, _, es, a₁, _, rfl, hes⟩

theorem keyed_of_build {d : Nat} {n : Node} {a b : Anchors} {v : Value}
    (h : (build d n).run a = .ok (v, b)) : v.Keyed := by
  rcases build_cases h with hv | ⟨d', t, entries, es, a', b', rfl, hes⟩
  · exact keyed_of_not_mapping hv
  · have hdistinct := (of_buildEntries (P := fun _ => True) (fun _ => trivial) hes).2.1
    intro fs hfs
    rw [untag_wrap] at hfs
    cases hfs
    exact hdistinct

theorem keyed_get?_of_build {d : Nat} {n : Node} {a b : Anchors} {v w : Value} {s : String}
    (h : (build d n).run a = .ok (v, b)) (hw : v.get? s = some w) : w.Keyed := by
  rcases build_cases h with hv | ⟨d', t, entries, es, a', b', rfl, hes⟩
  · unfold get? at hw
    unfold isMapping at hv
    split at hw <;> simp_all
  · have hvalues := (of_buildEntries keyed_of_build hes).2.2
    rw [get?, untag_wrap] at hw
    obtain ⟨e, he, rfl⟩ := Option.map_eq_some_iff.mp hw
    exact hvalues e (List.mem_of_find?_eq_some he)

/-- No mapping of a document gives a text as a key twice: not the one it is, nor one under its keys. -/
theorem keyed_of_ofText {text : String} {v : Value} (h : ofText text = .ok v) :
    v.Keyed ∧ ∀ s w, v.get? s = some w → w.Keyed := by
  unfold ofText at h
  cases ht : Token.ofText text with
  | error e =>
    rw [ht] at h
    cases h
  | ok tokens =>
    cases hn : Node.ofTokens tokens with
    | error e =>
      simp only [ht, bind, Except.bind, hn] at h
      cases h
    | ok n =>
      simp only [ht, bind, Except.bind, hn] at h
      cases n with
      | none =>
        cases h
        exact ⟨keyed_of_not_mapping rfl, fun s w hw => nomatch hw⟩
      | some n =>
        cases hb : (build nestingLimit n).run ⟨n.anchored.reverse, 100 * n.size⟩ with
        | error e =>
          simp only [ofNode, StateT.run'_eq, hb] at h
          cases h
        | ok p =>
          simp only [ofNode, StateT.run'_eq, hb] at h
          cases h
          exact ⟨keyed_of_build hb, fun s w => keyed_get?_of_build hb⟩

end FlutterInstaller.Yaml.Value
