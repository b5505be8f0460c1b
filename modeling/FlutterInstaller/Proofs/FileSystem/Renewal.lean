import FlutterInstaller.Proofs.FileSystem.Removal

/-!
Making a directory anew, through any path. Once what a path names is removed, the path leads to no
directory; the directory that is made then is empty, as long as the path goes up only from directories
that are there.
-/
namespace FlutterInstaller.FileSystem

open FlutterInstaller.Path

variable {fs gs ks : FileSystem} {l : Location} {p q : String} {cwd : Standpoint}

section Make

/-- A tree, and a directory in it to stand in, or one that was removed from it. -/
structure Footing (fs : FileSystem) (cwd : Standpoint) : Prop extends IsTree fs where
  here : fs.get? cwd.place = some .directory

theorem Footing.settle (h : Footing fs cwd) : cwd.settle fs = cwd :=
  Standpoint.settle_of_hasDirectory ((hasDirectory_iff _ _).mpr h.here)

theorem Footing.of_extends (h : Footing fs cwd) (hextends : Extends fs gs) : Footing gs cwd where
  toIsTree := hextends.isTree h.toIsTree
  here := hextends.covers.directory h.here

theorem Footing.of_same (h : Footing fs cwd) (hsame : Same fs gs) : Footing gs cwd where
  toIsTree := h.toIsTree.of_same hsame
  here := (hsame cwd.place).symm.trans h.here

theorem Footing.of_settle (htree : IsTree fs) (s : Standpoint) : Footing fs (s.settle fs) where
  toIsTree := htree
  here := (hasDirectory_iff _ _).mp (Standpoint.hasDirectory_settle fs s)

theorem Footing.resolve_of_extends (h : Footing fs cwd) (hextends : Extends fs gs) {purpose : Purpose}
    {e : Entry} (hr : fs.resolve cwd purpose p = .ok (.found l e)) :
    ∃ e', gs.resolve cwd purpose p = .ok (.found l e') ∧ e.Akin e' := by
  rw [resolve_walks hr, (h.of_extends hextends).settle, ← h.settle]
  exact hextends.covers.walk (h.settle.symm ▸ walk_of_resolve hr)

theorem Footing.isDirectory_of_extends (h : Footing fs cwd) (hextends : Extends fs gs)
    (hd : fs.isDirectory cwd p = true) : gs.isDirectory cwd p = true := by
  obtain ⟨htaken, t, ht⟩ := isDirectory_iff_walk.mp hd
  refine isDirectory_iff_walk.mpr ⟨htaken, t, ?_⟩
  rw [h.settle] at ht
  rw [(h.of_extends hextends).settle]
  exact hextends.covers.walk_standing ht

theorem makeDirectory_of_found {place : Place}
    (hr : fs.resolve cwd .inspect (withoutSlash p) = .ok place) (hfree : ∀ l, place ≠ .free l) :
    perform (makeDirectory cwd p) fs = (.error .alreadyExists, fs) := by
  rw [makeDirectory, perform_get_bind, hr]
  cases place with
  | free l => exact absurd rfl (hfree l)
  | found l e => rfl
  | removed t => rfl

theorem ensureDirectory_of_isDirectory (hd : fs.isDirectory cwd p = true) :
    perform (ensureDirectory cwd p) fs = (.ok (), fs) := by
  have hd' : fs.isDirectory cwd (withoutSlash p) = true := isDirectory_withoutSlash.trans hd
  have hmake : perform (makeDirectory cwd p) fs = (.error .alreadyExists, fs) := by
    cases hr : fs.resolve cwd .inspect (withoutSlash p) with
    | error e =>
      rw [not_isDirectory_of_inspect hr (.inr ⟨e, rfl⟩)] at hd'
      cases hd'
    | ok place =>
      refine makeDirectory_of_found hr ?_
      rintro l rfl
      rw [not_isDirectory_of_inspect hr (.inl ⟨l, rfl⟩)] at hd'
      cases hd'
  rw [ensureDirectory, perform_tryCatch, hmake]
  dsimp only
  rw [perform_get_bind, if_pos ⟨rfl, hd⟩]
  rfl

theorem ensureDirectory_cases (fs : FileSystem) (cwd : Standpoint) (p : String) :
    (∃ l, fs.resolve cwd .inspect (withoutSlash p) = .ok (.free l) ∧
        perform (ensureDirectory cwd p) fs = (.ok (), fs.insert l .directory)) ∨
      fs.isDirectory cwd p = true ∧ perform (ensureDirectory cwd p) fs = (.ok (), fs) ∨
      ∃ e, (e = .notFound → fs.resolve cwd .inspect (withoutSlash p) = .error .notFound) ∧
        perform (ensureDirectory cwd p) fs = (.error e, fs) := by
  by_cases hd : fs.isDirectory cwd p = true
  · exact .inr (.inl ⟨hd, ensureDirectory_of_isDirectory hd⟩)
  · have herror {e : OsError} (hmake : perform (makeDirectory cwd p) fs = (.error e, fs)) :
        perform (ensureDirectory cwd p) fs = (.error e, fs) := by
      rw [ensureDirectory, perform_tryCatch, hmake]
      dsimp only
      rw [perform_get_bind, if_neg fun h => hd h.2]
      rfl
    cases hr : fs.resolve cwd .inspect (withoutSlash p) with
    | error e =>
      refine .inr (.inr ⟨e, fun he => he ▸ rfl, herror ?_⟩)
      rw [makeDirectory, perform_get_bind, hr]
      rfl
    | ok place =>
      by_cases hfree : ∃ l, place = .free l
      · obtain ⟨l, rfl⟩ := hfree
        refine .inl ⟨l, rfl, ?_⟩
        rw [ensureDirectory, perform_tryCatch, makeDirectory, perform_get_bind, hr]
        rfl
      · refine .inr (.inr ⟨.alreadyExists, by simp, herror ?_⟩)
        exact makeDirectory_of_found hr fun l hl => hfree ⟨l, hl⟩

structure Leads (fs : FileSystem) (cwd : Standpoint) (p : String) (l : Location) : Prop
    extends Footing fs cwd where
  found : ∀ purpose, purpose ≠ .write → fs.resolve cwd purpose p = .ok (.found l .directory)

/-- A path leads to a directory with nothing in it. -/
structure Fresh (fs : FileSystem) (cwd : Standpoint) (p : String) (l : Location) : Prop
    extends Leads fs cwd p l where
  empty : ∀ n, fs.get? (l ++ [n]) = none

theorem Leads.follow (h : Leads fs cwd p l) : fs.resolve cwd .follow p = .ok (.found l .directory) :=
  h.found .follow (by decide)

theorem Leads.isDirectory (h : Leads fs cwd p l) : fs.isDirectory cwd p = true :=
  isDirectory_iff_standing.mpr ⟨.ofPlace l, h.follow⟩

theorem Leads.of_within (h : Leads fs cwd p l) (hwithin : Within fs gs) (htree : IsTree gs) :
    Leads gs cwd p l where
  toIsTree := htree
  here := hwithin _ _ h.here
  found purpose hp := hwithin.resolve h.toIsTree (h.found purpose hp)

/-- The directory of a path is the last thing that was put into a tree, at a free place. -/
def Founded (fs : FileSystem) (cwd : Standpoint) (p : String) (l : Location) : Prop :=
  ∃ ks, Footing ks cwd ∧ ks.resolve cwd .inspect (withoutSlash p) = .ok (.free l) ∧
    fs = ks.insert l .directory

theorem Founded.fresh (h : Founded fs cwd p l) : Fresh fs cwd p l := by
  obtain ⟨ks, h, hr, rfl⟩ := h
  obtain ⟨hfree, hseat⟩ := resolve_eq_free hr
  have hfooting := h.of_extends (extends_insert_directory ks l hfree hseat)
  have hcwd := hfooting.settle.trans h.settle.symm
  refine ⟨⟨hfooting, fun purpose hp => ?_⟩, fun n => ?_⟩
  · exact resolve_of_withoutSlash (t := .ofPlace l) hp (resolve_of_free hp (.inr hcwd) hr)
  · rw [get?_insert ks _ (ne_nil_of_none hfree), if_neg (by simp)]
    exact h.none_of_append_none hfree [n]

theorem Fresh.not_isDirectory {n : String} (hfresh : Fresh fs cwd p l)
    (habs : isAbsolute q = isAbsolute p) (hnames : Path.names q = Path.names p ++ [n])
    (hup : n ≠ "..") : fs.isDirectory cwd q = false := by
  have hn : leads n = true := by
    have hmem : n ∈ Path.names q := by simp [hnames]
    exact (List.mem_filter.mp hmem).2
  have hlast : EndsInName [n] := ⟨[], n, rfl, hn⟩
  obtain ⟨-, hp⟩ := (resolve_eq_standing_iff (t := .ofPlace l)).mp hfresh.follow
  rw [Bool.eq_false_iff]
  intro hd
  obtain ⟨-, t, hq⟩ := isDirectory_iff_walk.mp hd
  rw [hnames, habs] at hq
  rcases walk_append hlast linkLimit (if isAbsolute p then .root else cwd.settle fs) (Path.names p)
    with ⟨t', k, hw, happend⟩ | ⟨hnot, -⟩
  · obtain rfl : t' = .ofPlace l := Place.standing_injective (Except.ok.inj (hw.symm.trans hp))
    rw [happend, walk_name hn hup, hfresh.empty] at hq
    simp only [reduceCtorEq, false_and, if_false] at hq
    split at hq
    · cases hq
    · exact Place.standing_ne_free (Except.ok.inj hq).symm
  · exact hnot _ hp

def Descends (p : String) : Prop := ∃ ns n, Path.names p = ns ++ [n] ∧ n ≠ ".."

theorem descends_of_ne_nil (hne : Path.names p ≠ []) (hup : (Path.names p).getLast? ≠ some "..") :
    Descends p := by
  obtain ⟨ns, n, hn⟩ := (List.eq_nil_or_concat' (Path.names p)).resolve_left hne
  rw [hn, List.getLast?_concat] at hup
  exact ⟨ns, n, hn, by simpa using hup⟩

theorem Descends.of_parent? (h : Descends q) (hpar : parent? q = some p) :
    isAbsolute q = isAbsolute p ∧ ∃ n, Path.names q = Path.names p ++ [n] ∧ n ≠ ".." := by
  obtain ⟨ns, n, hn, hup⟩ := h
  have hroute := route_parent? hpar
  have hnames : Path.names p = (Path.names q).dropLast := congrArg Prod.snd hroute
  rw [hn, List.dropLast_concat] at hnames
  exact ⟨(congrArg Prod.fst hroute).symm, n, hnames ▸ hn, hup⟩

theorem names_ne_nil_of_missing {purpose : Purpose} (hne : q ≠ "")
    (hr : fs.resolve cwd purpose q = .error .notFound) : Path.names q ≠ [] := by
  intro hnames
  rcases resolve_cases hne (.inl hnames) with ⟨e, he, -, hq⟩ | hq
  · rw [hq] at hr
    exact he (Except.error.inj hr)
  · rw [hq, hnames, walk] at hr
    cases (if isAbsolute q then Standpoint.root else cwd.settle fs).location? <;> cases hr

theorem Fresh.of_ensureDirectory (hfresh : Fresh fs cwd p l) (hpar : parent? q = some p)
    (hq : Descends q) (hr : perform (ensureDirectory cwd q) fs = (.ok (), gs)) :
    ∃ k, Founded gs cwd q k := by
  obtain ⟨habs, n, hnames, hup⟩ := hq.of_parent? hpar
  rcases ensureDirectory_cases fs cwd q with
    ⟨k, hk, hmade⟩ | ⟨hd, -⟩ | ⟨e, -, herror⟩
  · rw [hmade] at hr
    cases hr
    exact ⟨k, fs, hfresh.toFooting, hk, rfl⟩
  · rw [hfresh.not_isDirectory habs hnames hup] at hd
    cases hd
  · rw [herror] at hr
    cases hr

theorem founded_of_ensureDirectories {qs : List String} (hfounded : Founded fs cwd p l)
    (hchain : (p :: qs).IsChain fun a b => parent? b = some a) (hqs : ∀ q ∈ qs, Descends q)
    (hr : perform (qs.forM (ensureDirectory cwd)) fs = (.ok (), gs)) :
    ∃ k, Founded gs cwd ((p :: qs).getLast (List.cons_ne_nil _ _)) k := by
  induction qs generalizing fs p l with
  | nil =>
    cases hr
    exact ⟨l, hfounded⟩
  | cons q qs ih =>
    obtain ⟨hpar, hchain⟩ := List.isChain_cons_cons.mp hchain
    obtain ⟨hq, hqs⟩ := List.forall_mem_cons.mp hqs
    rw [List.forM] at hr
    obtain ⟨_, ks, hmade, hr⟩ := perform_bind_eq_ok.mp hr
    obtain ⟨k, hfounded⟩ := hfounded.fresh.of_ensureDirectory hpar hq hmade
    rw [List.getLast_cons (List.cons_ne_nil _ _)]
    exact ih hfounded hchain hqs hr

theorem ensureDirectories_ne_ok {b : String} {e : OsError}
    (hb : perform (ensureDirectory cwd b) fs = (.error e, fs)) (bs : List String) :
    perform ((b :: bs).forM (ensureDirectory cwd)) fs ≠ (.ok (), gs) := by
  intro hr
  rw [List.forM] at hr
  obtain ⟨_, _, hfirst, -⟩ := perform_bind_eq_ok.mp hr
  rw [hb] at hfirst
  cases hfirst

theorem founded_of_anchorLineage {fuel : Nat} {b : String} {bs below : List String} (h : Footing fs cwd)
    (hb : parent? b = some q) (hmissing : perform (ensureDirectory cwd b) fs = (.error .notFound, fs))
    (hchain : (b :: bs).IsChain fun a b => parent? b = some a) (hbs : ∀ q ∈ b :: bs, Descends q)
    (hup : ∀ a ∈ lineage fuel q, (Path.names a).getLast? = some ".." → fs.isDirectory cwd a = true)
    (ha : perform (anchorLineage cwd (lineage fuel q) (b :: bs)) fs = (.ok below, gs))
    (hr : perform (below.forM (ensureDirectory cwd)) gs = (.ok (), ks)) :
    ∃ l, Founded ks cwd ((b :: bs).getLast (List.cons_ne_nil _ _)) l := by
  induction fuel generalizing b bs q with
  | zero =>
    cases ha
    exact absurd hr (ensureDirectories_ne_ok hmissing bs)
  | succ fuel ih =>
    rw [lineage] at ha hup
    split at ha
    · cases ha
      exact absurd hr (ensureDirectories_ne_ok hmissing bs)
    · next a hq =>
      simp only [hq] at hup
      rw [perform_anchorLineage_cons] at ha
      rcases ensureDirectory_cases fs cwd q with
        ⟨l, hl, hmade⟩ | ⟨-, hthere⟩ | ⟨e, he, herror⟩
      · rw [hmade] at ha
        cases ha
        have hlast := founded_of_ensureDirectories ⟨fs, h, hl, rfl⟩
          (List.isChain_cons_cons.mpr ⟨hb, hchain⟩) hbs hr
        rwa [List.getLast_cons (List.cons_ne_nil _ _)] at hlast
      · rw [hthere] at ha
        cases ha
        exact absurd hr (ensureDirectories_ne_ok hmissing bs)
      · rw [herror] at ha
        dsimp only at ha
        split at ha
        · next hnotFound =>
          subst hnotFound
          have hne : q ≠ "" := by
            rintro rfl
            have hempty : parent? "" = none := by decide
            rw [hempty] at hq
            cases hq
          have hmissing' : fs.resolve cwd .inspect q = .error .notFound :=
            withoutSlash_eq_self (trimmed_parent? hb) ▸ he rfl
          have hdescends : Descends q := by
            refine descends_of_ne_nil (names_ne_nil_of_missing hne hmissing') fun hlast => ?_
            have hd := hup q List.mem_cons_self hlast
            rw [ensureDirectory_of_isDirectory hd] at herror
            cases herror
          have hlast := ih hq herror (List.isChain_cons_cons.mpr ⟨hb, hchain⟩)
            (List.forall_mem_cons.mpr ⟨hdescends, hbs⟩)
            (fun a ha => hup a (List.mem_cons_of_mem _ ha)) ha
          rwa [List.getLast_cons (List.cons_ne_nil _ _)] at hlast
        · cases ha

theorem founded_of_makeDirectories (h : Footing fs cwd) (hparent : parent? p ≠ none)
    (hgone : fs.isDirectory cwd p = false)
    (hup : ∀ q ∈ lineage (p.length + 1) p,
      (Path.names q).getLast? = some ".." → fs.isDirectory cwd q = true)
    (hr : perform (makeDirectories cwd p) fs = (.ok (), gs)) : ∃ l, Founded gs cwd p l := by
  obtain ⟨q, hq⟩ := Option.ne_none_iff_exists'.mp hparent
  rw [makeDirectories, lineage, hq] at hr
  rw [lineage, hq] at hup
  obtain ⟨below, ks, ha, hr⟩ := perform_bind_eq_ok.mp hr
  dsimp only at ha
  rw [perform_anchorLineage_cons] at ha
  rcases ensureDirectory_cases fs cwd p with
    ⟨l, hl, hmade⟩ | ⟨hd, -⟩ | ⟨e, he, herror⟩
  · rw [hmade] at ha
    cases ha
    cases hr
    exact ⟨l, fs, h, hl, rfl⟩
  · rw [hgone] at hd
    cases hd
  · rw [herror] at ha
    dsimp only at ha
    split at ha
    · next hnotFound =>
      subst hnotFound
      have hne : withoutSlash p ≠ "" := by
        refine withoutSlash_ne_empty ?_
        rintro rfl
        exact hparent (by decide)
      have hnames : Path.names (withoutSlash p) = Path.names p :=
        congrArg Prod.snd (route_withoutSlash p)
      have hdescends : Descends p := by
        refine descends_of_ne_nil (hnames ▸ names_ne_nil_of_missing hne (he rfl)) fun hlast => ?_
        rw [hup p List.mem_cons_self hlast] at hgone
        cases hgone
      have hfounded := founded_of_anchorLineage h hq herror (.singleton p) (by simpa using hdescends)
        (fun a ha => hup a (List.mem_cons_of_mem _ ha)) ha hr
      rwa [List.getLast_singleton] at hfounded
    · cases ha

theorem Footing.isDirectory_of_makeDirectories (h : Footing fs cwd) (hparent : parent? p ≠ none)
    (hr : perform (makeDirectories cwd p) fs = (.ok (), gs)) : gs.isDirectory cwd p = true := by
  obtain ⟨ks, hextends, hlast⟩ := exists_ensured hparent hr
  rcases ensureDirectory_cases ks cwd p with
    ⟨l, hl, hmade⟩ | ⟨hd, hthere⟩ | ⟨e, -, herror⟩
  · rw [hmade] at hlast
    cases hlast
    have hfounded : Founded (ks.insert l .directory) cwd p l := ⟨ks, h.of_extends hextends, hl, rfl⟩
    exact hfounded.fresh.isDirectory
  · rw [hthere] at hlast
    cases hlast
    exact hd
  · rw [herror] at hlast
    cases hlast

theorem within_insert {e : Entry} (hfree : fs.get? l = none) : Within fs (fs.insert l e) := by
  intro m old hold
  rw [get?_insert fs e (ne_nil_of_none hfree), if_neg]
  · exact hold
  · rintro rfl
    simp [hfree] at hold

structure Dug (fs gs : FileSystem) : Prop where
  within : Within fs gs
  only : ∀ m e, gs.get? m = some e → e ≠ .directory → fs.get? m = some e

instance : IsPreorder FileSystem Dug where
  refl fs := ⟨Std.Refl.refl fs, fun _ _ he _ => he⟩
  trans fs _ ks h h' :=
    ⟨IsTrans.trans fs _ ks h.within h'.within, fun m e he hne => h.only m e (h'.only m e he hne) hne⟩

theorem dug_insert_directory (hfree : fs.get? l = none) : Dug fs (fs.insert l .directory) where
  within := within_insert hfree
  only := by
    intro m e he hne
    rw [get?_insert fs _ (ne_nil_of_none hfree)] at he
    split at he
    · cases he
      exact absurd rfl hne
    · exact he

theorem makeDirectories_dug (cwd : Standpoint) (p : String) : Advances Dug (makeDirectories cwd p) :=
  makeDirectories_advances cwd fun q _ => ensureDirectory_advances cwd
    (makeDirectory_advances cwd (fun _ _ hfree _ => dug_insert_directory hfree) q)

theorem makeDirectories_of_isDirectory (hd : fs.isDirectory cwd p = true) :
    perform (makeDirectories cwd p) fs = (.ok (), fs) := by
  rw [makeDirectories, lineage]
  cases parent? p with
  | none => rfl
  | some q =>
    dsimp only
    rw [perform_bind, perform_anchorLineage_cons, ensureDirectory_of_isDirectory hd]
    rfl

structure DugTo (cwd : Standpoint) (qs : List String) (fs gs : FileSystem) : Prop
    extends Dug fs gs where
  reached : ∀ m, fs.get? m = none → gs.get? m ≠ none →
    ∃ q ∈ qs, gs.resolve cwd .follow q = .ok (.found m .directory)

def DigsTo (cwd : Standpoint) (qs : List String) (fs gs : FileSystem) : Prop :=
  Footing fs cwd → Footing gs cwd ∧ DugTo cwd qs fs gs

instance (cwd : Standpoint) (qs : List String) : IsPreorder FileSystem (DigsTo cwd qs) where
  refl fs := fun h => ⟨h, Std.Refl.refl fs, fun _ hnone hne => absurd hnone hne⟩
  trans fs gs ks h h' := fun hfooting => by
    obtain ⟨hfooting, hdug⟩ := h hfooting
    obtain ⟨hfooting', hdug'⟩ := h' hfooting
    refine ⟨hfooting', IsTrans.trans fs gs ks hdug.toDug hdug'.toDug, fun m hnone hne => ?_⟩
    by_cases hm : gs.get? m = none
    · exact hdug'.reached m hm hne
    · obtain ⟨q, hq, hr⟩ := hdug.reached m hnone hm
      exact ⟨q, hq, hdug'.within.resolve hfooting.toIsTree hr⟩

theorem ensureDirectory_digsTo {qs : List String} (hp : p ∈ qs) :
    Advances (DigsTo cwd qs) (ensureDirectory cwd p) := by
  intro fs h
  rcases ensureDirectory_cases fs cwd p with ⟨l, hl, hmade⟩ | ⟨-, hthere⟩ | ⟨e, -, herror⟩
  · have hfree := (resolve_eq_free hl).1
    have hfounded : Founded (fs.insert l .directory) cwd p l := ⟨fs, h, hl, rfl⟩
    rw [hmade]
    refine ⟨hfounded.fresh.toFooting, dug_insert_directory hfree, fun m hnone hne => ?_⟩
    have hm : m = l := by
      by_contra hm
      rw [get?_insert fs _ (ne_nil_of_none hfree), if_neg hm] at hne
      exact hne hnone
    exact ⟨p, hp, hm ▸ hfounded.fresh.follow⟩
  · rw [hthere]
    exact Std.Refl.refl (r := DigsTo cwd qs) fs h
  · rw [herror]
    exact Std.Refl.refl (r := DigsTo cwd qs) fs h

theorem makeDirectories_digsTo (cwd : Standpoint) (p : String) :
    Advances (DigsTo cwd (lineage (p.length + 1) p)) (makeDirectories cwd p) :=
  makeDirectories_advances cwd fun _ hq => ensureDirectory_digsTo hq

end Make

section Again

theorem removeEmptied_of_fresh (hfresh : Fresh fs cwd p l) (hl : l ≠ [])
    (hend : EndsBelow (pieces (withoutSlash p)))
    (hr : fs.resolve cwd .inspect (withoutSlash p) = .ok (.found l .directory)) :
    perform (removeEmptied cwd p) fs = (.ok (), fs.removeTree l) := by
  have hthere : ¬ fs.isStranded cwd p = true := by
    intro hstranded
    have hd := hfresh.isDirectory
    rw [not_isDirectory_of_stranded hstranded] at hd
    cases hd
  obtain ⟨hdot, hup⟩ := lastPiece?_of_endsBelow hend
  have hempty : (fs.names l).isEmpty = true := by
    rw [List.isEmpty_iff, List.eq_nil_iff_forall_not_mem]
    exact fun n hn => mem_names_iff.mp hn (hfresh.empty n)
  obtain ⟨n, m, rfl⟩ := List.exists_cons_of_ne_nil hl
  rw [removeEmptied, perform_get_bind, if_neg hthere, if_neg hdot, if_neg hup, hr]
  dsimp only
  rw [if_pos hempty]
  rfl

theorem makeDirectories_of_free_place (hparent : parent? p ≠ none)
    (hr : fs.resolve cwd .inspect (withoutSlash p) = .ok (.free l)) :
    perform (makeDirectories cwd p) fs = (.ok (), fs.insert l .directory) := by
  obtain ⟨q, hq⟩ := Option.ne_none_iff_exists'.mp hparent
  have hensure : perform (ensureDirectory cwd p) fs = (.ok (), fs.insert l .directory) := by
    rw [ensureDirectory, perform_tryCatch, makeDirectory, perform_get_bind, hr]
    rfl
  rw [makeDirectories, lineage, hq]
  dsimp only
  rw [perform_bind, perform_anchorLineage_cons, hensure]
  rfl

theorem Founded.again (h : Founded fs cwd p l) :
    ∃ gs ks, perform (removeDirectories cwd p) fs = (.ok (), gs) ∧ Footing gs cwd ∧
      perform (makeDirectories cwd p) gs = (.ok (), ks) ∧ Same fs ks := by
  have hfresh := h.fresh
  obtain ⟨ks, hks, hr, rfl⟩ := h
  obtain ⟨hfree, hseat⟩ := resolve_eq_free hr
  have hl := ne_nil_of_none hfree
  have hend := endsBelow_of_free hr
  have hnames : Path.names p ≠ [] := by
    rw [← show Path.names (withoutSlash p) = Path.names p from
      congrArg Prod.snd (route_withoutSlash p)]
    exact hend.endsInName.filter_ne_nil
  obtain ⟨q, hq⟩ := exists_parent? hnames
  have hcwd := hfresh.settle.trans hks.settle.symm
  have hinspect : Purpose.inspect ≠ .write := by decide
  have hfound := resolve_of_free hinspect (.inr hcwd) hr
  have hnone {m : Location} (hm : l <+: m) : ks.get? m = none := by
    obtain ⟨t, rfl⟩ := hm
    exact hks.none_of_append_none hfree t
  have hbelow : Same (ks.insert l .directory) ((ks.insert l .directory).removeBelow l) := by
    intro m
    rw [get?_removeBelow]
    split
    · next hm => rw [get?_insert ks _ hl, if_neg hm.2.1, hnone hm.1]
    · rfl
  have hremoved : Same ((ks.insert l .directory).removeTree l) ks := by
    intro m
    rw [get?_removeTree _ hl]
    split
    · next hm => exact (hnone hm).symm
    · next hm => rw [get?_insert ks _ hl, if_neg fun (he : m = l) => hm (he ▸ List.prefix_rfl)]
  obtain ⟨gs, hgs, hsame⟩ := (respects_removeEmptied cwd p hbelow).of_ok
    (removeEmptied_of_fresh hfresh hl hend hfound)
  have hback : Same ks gs := hremoved.symm.trans hsame
  obtain ⟨ms, hms, hagain⟩ := (respects_makeDirectories cwd p hback).of_ok
    (makeDirectories_of_free_place (by simp [hq]) hr)
  refine ⟨gs, ms, ?_, hks.of_same hback, hms, hagain⟩
  rw [removeDirectories, perform_get_bind, hfresh.found .inspect (by decide)]
  dsimp only
  rw [perform_set_bind]
  exact hgs

end Again

section Renew

/-- On its way a path comes past nothing that another path names, or that lies below it. -/
def Misses (fs : FileSystem) (cwd : Standpoint) (p q : String) : Prop :=
  ∀ l e, fs.resolve cwd .inspect p = .ok (.found l e) → ∀ m ∈ fs.wayOf cwd q, ¬ l <+: m

theorem Removed.settle (h : Removed cwd p fs gs) :
    (cwd.settle fs).settle gs = (cwd.settle gs).settle gs := by
  rw [Standpoint.settle_settle fun m => h.within m .directory, (Footing.of_settle h.isTree cwd).settle]

theorem Removed.kept (h : Removed cwd p fs gs) (hmiss : Misses fs cwd p q) :
    ∀ m ∈ fs.wayOf cwd q, gs.get? m = fs.get? m :=
  fun m hm => h.elsewhere m fun l e hr => hmiss l e hr m hm

/-- What a path names was removed and made anew, and it is a directory with nothing in it. The working
directory may have been lost on the way. -/
structure Renewed (p : String) (cwd : Standpoint) (fs : FileSystem) (cwd' : Standpoint)
    (gs : FileSystem) (l : Location) : Prop where
  founded : Founded gs cwd' p l
  kept : ∀ m e, (∀ k d, fs.resolve cwd .inspect p = .ok (.found k d) → ¬ k <+: m) →
    fs.get? m = some e → gs.get? m = some e
  only : ∀ m e, gs.get? m = some e → e ≠ .directory → fs.get? m = some e
  file : ∀ q k content executable, Misses fs cwd p q →
    fs.resolve cwd .follow q = .ok (.found k (.file content executable)) →
    gs.resolve cwd' .follow q = .ok (.found k (.file content executable))

theorem Removed.gone_settle (h : Removed cwd p fs gs) : gs.isDirectory (cwd.settle gs) p = false := by
  have hgone := h.gone
  unfold isDirectory find? FileSystem.resolve at hgone ⊢
  rwa [(Footing.of_settle h.isTree cwd).settle]

theorem exists_renewed (htree : IsTree fs) (hparent : parent? p ≠ none)
    (hup : ∀ q ∈ lineage (p.length + 1) p,
      (Path.names q).getLast? = some ".." → gs.isDirectory (cwd.settle gs) q = true)
    (hremove : perform (removeDirectories cwd p) fs = (.ok (), gs))
    (hmake : perform (makeDirectories (cwd.settle gs) p) gs = (.ok (), ks)) :
    ∃ l, Renewed p cwd fs (cwd.settle gs) ks l := by
  have hremoved := removed_of_removeDirectories htree hremove
  have hfooting := Footing.of_settle hremoved.isTree cwd
  have hdug := (makeDirectories_dug _ p).of_perform hmake
  obtain ⟨l, hfounded⟩ := founded_of_makeDirectories hfooting hparent hremoved.gone_settle hup hmake
  refine ⟨l, hfounded, ?_, ?_, ?_⟩
  · intro m e hm he
    exact hdug.within m e ((hremoved.elsewhere m hm).trans he)
  · intro m e he hne
    exact hremoved.within m e (hdug.only m e he hne)
  · intro q k content executable hmiss hq
    have hq' := resolve_of_way hremoved.isTree hremoved.settle (hremoved.kept hmiss) hq
    exact hdug.within.resolve hremoved.isTree hq'

end Renew

end FlutterInstaller.FileSystem
