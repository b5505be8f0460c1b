import FlutterInstaller.Proofs.Host.Files

/-!
Changing a tree at places that lie apart. A graft settles what stands at a place and below it, in
directories that are made for it, and leaves the rest as it is. Grafts at places that lie apart can be
made in any order.
-/
namespace FlutterInstaller

open FileSystem

/-- What is to stand at a place and below it. -/
structure Graft where
  place : Location
  below : View

namespace Graft

def file (l : Location) (content : ByteArray) (executable : Bool) : Graft where
  place := l
  below t := if t = [] then some (.file content executable) else none

def stock (l : Location) (entries : String → Option Entry) : Graft where
  place := l
  below
    | [] => some .directory
    | [n] => entries n
    | _ => none

end Graft

namespace View

def graft (v : View) (g : Graft) : View := fun m =>
  if g.place <+: m then g.below (m.drop g.place.length)
  else if m <+: g.place then some .directory
  else v m

def grafts (v : View) (gs : List Graft) : View := gs.foldl graft v

variable {v : View} {g k : Graft} {gs ks : List Graft} {m : Location}

theorem graft_append (v : View) (g : Graft) (t : Location) :
    v.graft g (g.place ++ t) = g.below t := by
  rw [graft, if_pos (List.prefix_append _ _), List.drop_left]

theorem graft_of_above (h : m <+: g.place) (hne : m ≠ g.place) :
    v.graft g m = some .directory := by
  have hnot : ¬ g.place <+: m := fun hg => hne (h.eq_of_length_le hg.length_le)
  rw [graft, if_neg hnot, if_pos h]

theorem graft_of_apart (h : Apart g.place m) : v.graft g m = v m := by
  rw [graft, if_neg h.1, if_neg h.2]

theorem eq_graft {v' : View} (hbelow : ∀ t, v' (g.place ++ t) = g.below t)
    (habove : ∀ m, m <+: g.place → m ≠ g.place → v' m = some .directory)
    (hapart : ∀ m, Apart g.place m → v' m = v m) : v' = v.graft g := by
  funext m
  by_cases hg : g.place <+: m
  · obtain ⟨t, rfl⟩ := hg
    rw [hbelow, graft_append]
  · by_cases hm : m <+: g.place
    · have hne : m ≠ g.place := fun he => hg (he ▸ List.prefix_rfl)
      rw [habove m hm hne, graft_of_above hm hne]
    · rw [hapart m ⟨hg, hm⟩, graft_of_apart ⟨hg, hm⟩]

theorem graft_comm (v : View) (h : Apart g.place k.place) :
    (v.graft g).graft k = (v.graft k).graft g := by
  funext m
  by_cases hg : g.place <+: m
  · obtain ⟨t, rfl⟩ := hg
    rw [graft_append, graft_of_apart (h.append_left t).symm, graft_append]
  · by_cases hk : k.place <+: m
    · obtain ⟨t, rfl⟩ := hk
      rw [graft_append, graft_of_apart (h.append_right t), graft_append]
    · simp only [graft, if_neg hg, if_neg hk]
      split
      · split <;> rfl
      · rfl

theorem graft_grafts (v : View) (h : ∀ k ∈ ks, Apart g.place k.place) :
    (v.graft g).grafts ks = (v.grafts ks).graft g := by
  induction ks generalizing v with
  | nil => rfl
  | cons k ks ih =>
    obtain ⟨hk, hks⟩ := List.forall_mem_cons.mp h
    calc
      (v.graft g).grafts (k :: ks) = ((v.graft g).graft k).grafts ks := rfl
      _ = ((v.graft k).graft g).grafts ks := by rw [graft_comm v hk]
      _ = ((v.graft k).grafts ks).graft g := ih (v.graft k) hks

/-- What is grafted at places apart can be grafted in either order. -/
theorem grafts_comm (v : View) (h : ∀ g ∈ gs, ∀ k ∈ ks, Apart g.place k.place) :
    (v.grafts gs).grafts ks = (v.grafts ks).grafts gs := by
  induction gs generalizing v with
  | nil => rfl
  | cons g gs ih =>
    obtain ⟨hg, hgs⟩ := List.forall_mem_cons.mp h
    calc
      (v.grafts (g :: gs)).grafts ks = ((v.graft g).grafts gs).grafts ks := rfl
      _ = ((v.graft g).grafts ks).grafts gs := ih (v.graft g) hgs
      _ = ((v.grafts ks).graft g).grafts gs := by rw [graft_grafts v hg]

theorem grafts_of_apart (h : ∀ g ∈ gs, Apart g.place m) : v.grafts gs m = v m := by
  induction gs generalizing v with
  | nil => rfl
  | cons g gs ih =>
    obtain ⟨hg, hgs⟩ := List.forall_mem_cons.mp h
    calc
      v.grafts (g :: gs) m = (v.graft g).grafts gs m := rfl
      _ = v.graft g m := ih hgs
      _ = v m := graft_of_apart hg

theorem grafts_append (v : View) (gs ks : List Graft) :
    v.grafts (gs ++ ks) = (v.grafts gs).grafts ks :=
  List.foldl_append

end View

theorem FileSystem.IsTree.put_eq_graft {fs : FileSystem} (h : IsTree fs) {l : Location}
    (hl : fs.get? l ≠ some .directory) (content : ByteArray) (executable : Bool) :
    View.put fs.get? l (.file content executable) =
      View.graft fs.get? (.file l content executable) := by
  apply View.eq_graft
  · intro t
    change View.put fs.get? l (.file content executable) (l ++ t) =
      if t = [] then some (.file content executable) else none
    split
    · next ht => rw [ht, List.append_nil, View.put_self]
    · next ht =>
      have hnot : ¬ l ++ t <+: l := fun hp => ht (by simpa using hp.length_le)
      rw [View.put_of_not_prefix hnot, h.none_of_append ht hl]
  · intro m hm hne
    exact (if_neg hne).trans (if_pos hm)
  · intro m hm
    exact View.put_of_not_prefix hm.2

end FlutterInstaller
