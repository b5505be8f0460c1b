import FlutterInstaller.Proofs.Script.Constants

/-!
The parameters that an entry is read for. They are parted by semicolons, and each is a key of letters
and a value, which ends at a quotation mark that is not doubled, or is bare and has none. The values of
an entry are written as they are, so its parameters are the intended ones exactly when in every quoted
value the marks stand in pairs.
-/
namespace FlutterInstaller.Script

open Text

def Argument.text : Argument → String
  | .quoted text => text
  | .bare text => text

def isGap (c : Char) : Bool := c ≤ ' '

/-- How far a parameter is read. A mark that closes a quoted value may turn out to be the first of two. -/
inductive Phase
  | key (key : List Char)
  | start (key : List Char)
  | quoted (key value : List Char)
  | closing (key value : List Char)
  | ended (key value : List Char)
  | bare (key value : List Char)

namespace Phase

def parameter (key value : List Char) : String × String := (String.ofList key, String.ofList value)

def next (c : Char) : Phase → Option (List (String × String) × Phase)
  | key k =>
    if c.isAlpha then some ([], key (k ++ [c]))
    else if k = [] then (if isGap c then some ([], key []) else none)
    else if c = ':' then some ([], start k)
    else none
  | start k =>
    if c = '"' then some ([], quoted k [])
    else if isGap c then some ([], start k)
    else if c = ';' then some ([parameter k []], key [])
    else some ([], bare k [c])
  | quoted k v => some ([], if c = '"' then closing k v else quoted k (v ++ [c]))
  | closing k v =>
    if c = '"' then some ([], quoted k (v ++ ['"']))
    else if c = ';' then some ([parameter k v], key [])
    else if isGap c then some ([], ended k v)
    else none
  | ended k v =>
    if c = ';' then some ([parameter k v], key [])
    else if isGap c then some ([], ended k v)
    else none
  | bare k v =>
    if c = ';' then some ([parameter k v], key [])
    else if c = '"' then none
    else some ([], bare k (v ++ [c]))

def finish : Phase → Option (List (String × String))
  | key k => if k = [] then some [] else none
  | quoted .. => none
  | start k => some [parameter k []]
  | closing k v | ended k v | bare k v => some [parameter k v]

end Phase

def readParameters : Phase → List Char → Option (List (String × String))
  | p, [] => p.finish
  | p, c :: cs => (p.next c).bind fun s => (readParameters s.2 cs).map (s.1 ++ ·)

def parameters? (line : String) : Option (List (String × String)) :=
  readParameters (.key []) line.toList

section Read

variable {k v cs rest : List Char} {qs : List (String × String)} {p : Phase} {c : Char}

theorem readParameters_silent {q : Phase} (h : p.next c = some ([], q)) (cs : List Char) :
    readParameters p (c :: cs) = readParameters q cs := by
  rw [readParameters, h, Option.bind_some]
  simp

theorem readParameters_none (h : p.next c = none) (cs : List Char) :
    readParameters p (c :: cs) = none := by
  rw [readParameters, h, Option.bind_none]

theorem readParameters_cons_eq_some_iff : readParameters p (c :: cs) = some qs ↔
    ∃ out p' qs', p.next c = some (out, p') ∧ readParameters p' cs = some qs' ∧ out ++ qs' = qs := by
  simp only [readParameters, Option.bind_eq_some_iff, Option.map_eq_some_iff, Prod.exists,
    exists_and_left]

theorem readParameters_letters (h : ∀ c ∈ cs, c.isAlpha = true) :
    readParameters (.key k) (cs ++ rest) = readParameters (.key (k ++ cs)) rest := by
  induction cs generalizing k with
  | nil => simp
  | cons c cs ih =>
    obtain ⟨hc, hcs⟩ := List.forall_mem_cons.mp h
    rw [List.cons_append, readParameters_silent (by rw [Phase.next, if_pos hc]), ih hcs]
    simp

theorem readParameters_key (hne : cs ≠ []) (h : ∀ c ∈ cs, c.isAlpha = true) :
    readParameters (.key []) (cs ++ ':' :: ' ' :: rest) = readParameters (.start cs) rest := by
  have hcolon : (Phase.key cs).next ':' = some ([], .start cs) := by
    rw [Phase.next, if_neg (by decide), if_neg hne, if_pos rfl]
  have hgap : (Phase.start cs).next ' ' = some ([], .start cs) := rfl
  rw [readParameters_letters h, List.nil_append, readParameters_silent hcolon, readParameters_silent hgap]

theorem readParameters_quoted (u : List Char) :
    readParameters (.quoted k v) (doubleChars '"' u ++ rest) =
      readParameters (.quoted k (v ++ u)) rest := by
  induction u generalizing v with
  | nil => simp [doubleChars]
  | cons c u ih =>
    have hnext : v ++ c :: u = v ++ [c] ++ u := by simp
    by_cases hc : c = '"'
    · subst hc
      rw [doubleChars, if_pos rfl, List.cons_append, List.cons_append,
        readParameters_silent (q := .closing k v) rfl,
        readParameters_silent (q := .quoted k (v ++ ['"'])) rfl, ih, hnext]
    · rw [doubleChars, if_neg hc, List.cons_append,
        readParameters_silent (q := .quoted k (v ++ [c])) (by rw [Phase.next, if_neg hc]), ih, hnext]

theorem readParameters_bare (hend : ';' ∉ cs) (hmark : '"' ∉ cs) :
    readParameters (.bare k v) (cs ++ rest) = readParameters (.bare k (v ++ cs)) rest := by
  induction cs generalizing v with
  | nil => simp
  | cons c cs ih =>
    rw [List.mem_cons, not_or] at hend hmark
    have hnext : (Phase.bare k v).next c = some ([], .bare k (v ++ [c])) := by
      rw [Phase.next, if_neg (Ne.symm hend.1), if_neg (Ne.symm hmark.1)]
    rw [List.cons_append, readParameters_silent hnext, ih hend.2 hmark.2]
    simp

end Read

/-- Nothing is read where it is taken for the rest of a quoted value. -/
def Stops (rest : List Char) : Prop := ∀ k v, readParameters (.quoted k v) rest = none

section Stops

variable {k v cs rest : List Char} {qs : List (String × String)} {p : Phase} {n : ℕ}

theorem readParameters_unmarked (h : '"' ∉ cs) :
    readParameters (.quoted k v) (cs ++ rest) = readParameters (.quoted k (v ++ cs)) rest := by
  rw [← readParameters_quoted, doubleChars_of_not_mem h]

theorem stops_of_not_mem (h : '"' ∉ cs) : Stops cs := by
  intro k v
  rw [← List.append_nil cs, readParameters_unmarked h]
  rfl

theorem stops_of_opened {c : Char} (h : '"' ∉ cs) (hmark : c ≠ '"') (hend : c ≠ ';')
    (hgap : isGap c = false) : Stops (cs ++ '"' :: c :: rest) := by
  intro k v
  have hnext : (Phase.closing k (v ++ cs)).next c = none := by
    rw [Phase.next, if_neg hmark, if_neg hend, if_neg (by simp [hgap])]
  rw [readParameters_unmarked h, readParameters_silent (q := .closing k (v ++ cs)) rfl,
    readParameters_none hnext]

variable (hstop : Stops rest)
  (hmany : ∀ k v qs, readParameters (.closing k v) rest = some qs → n ≤ qs.length)

include hstop hmany

theorem le_length_of_mark (h : readParameters p ('"' :: rest) = some qs) : n ≤ qs.length := by
  obtain ⟨out, p', qs', hnext, hread, rfl⟩ := readParameters_cons_eq_some_iff.mp h
  have hqs : n ≤ qs'.length := by
    -- where the mark opens a value, or is the second of two, the rest would be in the value
    cases p with
    | quoted k v =>
      cases hnext
      exact hmany k v qs' hread
    | start k =>
      cases hnext
      cases (hstop _ _).symm.trans hread
    | closing k v =>
      cases hnext
      cases (hstop _ _).symm.trans hread
    | key k =>
      rw [Phase.next, if_neg (by decide)] at hnext
      split at hnext <;> simp [isGap] at hnext
    | ended k v => cases hnext
    | bare k v => cases hnext
  rw [List.length_append]
  omega

theorem le_length_of_read (h : readParameters p (cs ++ '"' :: rest) = some qs) : n ≤ qs.length := by
  induction cs generalizing p qs with
  | nil => exact le_length_of_mark hstop hmany h
  | cons c cs ih =>
    obtain ⟨out, p', qs', -, hread, rfl⟩ := readParameters_cons_eq_some_iff.mp h
    have hqs := ih hread
    rw [List.length_append]
    omega

theorem lt_length_of_ended (h : readParameters (.ended k v) (cs ++ '"' :: rest) = some qs) :
    n < qs.length := by
  induction cs generalizing qs with
  | nil =>
    rw [List.nil_append, readParameters_none rfl] at h
    cases h
  | cons c cs ih =>
    obtain ⟨out, p', qs', hnext, hread, rfl⟩ := readParameters_cons_eq_some_iff.mp h
    rw [Phase.next] at hnext
    split_ifs at hnext
    · cases hnext
      have hqs := le_length_of_read hstop hmany hread
      simp only [List.length_append, List.length_singleton]
      omega
    · cases hnext
      exact ih hread

theorem paired_of_read (cs : List Char) :
    (∀ v qs, readParameters (.quoted k v) (cs ++ '"' :: rest) = some qs →
      n < qs.length ∨ ∃ u, cs = doubleChars '"' u ∧ readParameters (.closing k (v ++ u)) rest = some qs) ∧
    ∀ v qs, readParameters (.closing k v) (cs ++ '"' :: rest) = some qs →
      n < qs.length ∨
        ∃ u, '"' :: cs = doubleChars '"' u ∧ readParameters (.closing k (v ++ u)) rest = some qs := by
  induction cs with
  | nil =>
    constructor
    · intro v qs h
      rw [List.nil_append, readParameters_silent (q := .closing k v) rfl] at h
      exact .inr ⟨[], rfl, by rwa [List.append_nil]⟩
    · intro v qs h
      rw [List.nil_append, readParameters_silent (q := .quoted k (v ++ ['"'])) rfl, hstop] at h
      cases h
  | cons c cs ih =>
    obtain ⟨hquoted, hclosing⟩ := ih
    constructor
    · intro v qs h
      by_cases hc : c = '"'
      · subst hc
        rw [List.cons_append, readParameters_silent (q := .closing k v) rfl] at h
        exact hclosing v qs h
      · rw [List.cons_append, readParameters_silent (q := .quoted k (v ++ [c]))
          (by rw [Phase.next, if_neg hc])] at h
        refine (hquoted _ qs h).imp_right ?_
        rintro ⟨u, hcs, hrest⟩
        exact ⟨c :: u, by rw [doubleChars, if_neg hc, hcs], by simpa using hrest⟩
    · intro v qs h
      obtain ⟨out, p', qs', hnext, hread, rfl⟩ := readParameters_cons_eq_some_iff.mp h
      rw [Phase.next] at hnext
      -- the mark before was the first of two, or it has closed the value too early
      split_ifs at hnext with hmark hend hgap
      · cases hnext
        refine (hquoted _ qs' hread).imp_right ?_
        rintro ⟨u, hcs, hrest⟩
        exact ⟨'"' :: u, by rw [doubleChars, if_pos rfl, hmark, hcs], by simpa using hrest⟩
      · cases hnext
        have hqs := le_length_of_read hstop hmany hread
        refine .inl ?_
        simp only [List.length_append, List.length_singleton]
        omega
      · cases hnext
        exact .inl (lt_length_of_ended hstop hmany hread)

end Stops

section Entry

variable {p : Parameter} {ps : List Parameter} {qs : List (String × String)} {k v : List Char} {n : ℕ}

def tailChars (ps : List Parameter) : List Char := ps.flatMap fun p => ';' :: ' ' :: p.render.toList

theorem toList_render_entry (p : Parameter) (ps : List Parameter) :
    (Line.entry (p :: ps)).render.toList = p.render.toList ++ tailChars ps := by
  induction ps generalizing p with
  | nil => simp [Line.render, tailChars]
  | cons p' ps ih =>
    have hrender : (Line.entry (p :: p' :: ps)).render =
        p.render ++ "; " ++ (Line.entry (p' :: ps)).render := by
      rw [Line.render, List.map_cons, String.intercalate_cons_of_ne_nil (by simp), Line.render]
    rw [hrender, String.toList_append, String.toList_append, ih]
    simp [tailChars]

def IsWord (s : String) : Prop := s.toList ≠ [] ∧ s.toList.all Char.isAlpha = true

instance : DecidablePred IsWord := fun s =>
  inferInstanceAs (Decidable (s.toList ≠ [] ∧ s.toList.all Char.isAlpha = true))

theorem IsWord.mark_not_mem {s : String} (h : IsWord s) : '"' ∉ s.toList := fun hmark =>
  absurd (List.all_eq_true.mp h.2 _ hmark) (by decide)

def Argument.Proper : Argument → Prop
  | .quoted _ => True
  | .bare text =>
    text.toList.head?.map isGap = some false ∧ ';' ∉ text.toList ∧ '"' ∉ text.toList

structure Parameter.Proper (p : Parameter) : Prop where
  key : IsWord p.key
  argument : p.argument.Proper

def Parameter.Gives (p : Parameter) (x : String × String) : Prop :=
  x.1 = p.key ∧
    match p.argument with
    | .quoted text => text = double '"' x.2
    | .bare text => x.2 = text

/-- Each quoted value is free of marks, or what follows it makes no sense as a part of a value. -/
def Settled : List Parameter → Prop
  | [] => True
  | p :: ps => p.Proper ∧ ('"' ∉ p.argument.text.toList ∨ Stops (tailChars ps)) ∧ Settled ps

theorem readParameters_tail {p : Phase}
    (hend : p.finish = some [Phase.parameter k v])
    (hnext : p.next ';' = some ([Phase.parameter k v], .key [])) :
    readParameters p (tailChars ps) =
      (parameters? (Line.entry ps).render).map (Phase.parameter k v :: ·) := by
  cases ps with
  | nil => exact hend
  | cons p' ps =>
    have hread (cs : List Char) : readParameters p (';' :: ' ' :: cs) =
        (readParameters (.key []) cs).map (Phase.parameter k v :: ·) := by
      rw [readParameters, hnext, Option.bind_some, readParameters_silent (q := .key []) rfl]
      rfl
    rw [parameters?, toList_render_entry, ← hread]
    rfl

theorem readParameters_render (hp : p.Proper) (rest : List Char) :
    readParameters (.key []) (p.render.toList ++ rest) =
      readParameters (.start p.key.toList) (p.argument.render.toList ++ rest) := by
  rw [← readParameters_key hp.key.1 (List.all_eq_true.mp hp.key.2)]
  simp [Parameter.render]

theorem readParameters_argument_bare {text : String} (hp : (Argument.bare text).Proper)
    (k rest : List Char) : readParameters (.start k) (text.toList ++ rest) =
      readParameters (.bare k text.toList) rest := by
  obtain ⟨hhead, hend, hmark⟩ := hp
  obtain ⟨c, hc, hgap⟩ := Option.map_eq_some_iff.mp hhead
  obtain ⟨cs, htext⟩ := List.head?_eq_some_iff.mp hc
  rw [htext, List.mem_cons, not_or] at hend hmark
  have hnext : (Phase.start k).next c = some ([], .bare k [c]) := by
    rw [Phase.next, if_neg (Ne.symm hmark.1), if_neg (by simp [hgap]), if_neg (Ne.symm hend.1)]
  rw [htext, List.cons_append, readParameters_silent hnext, readParameters_bare hend.2 hmark.2]
  rfl

theorem readParameters_argument_quoted {text : String} {rest : List Char}
    (hstop : '"' ∉ text.toList ∨ Stops rest)
    (hmany : ∀ k v qs, readParameters (.closing k v) rest = some qs → n ≤ qs.length)
    (h : readParameters (.start k) ((Argument.quoted text).render.toList ++ rest) = some qs) :
    n < qs.length ∨
      ∃ u, text = double '"' u ∧ readParameters (.closing k u.toList) rest = some qs := by
  have hchars : (Argument.quoted text).render.toList ++ rest =
      '"' :: (text.toList ++ '"' :: rest) := by
    simp [Argument.render]
  rw [hchars, readParameters_silent (q := .quoted k []) rfl] at h
  rcases hstop with hplain | hstop
  · rw [readParameters_unmarked hplain, readParameters_silent (q := .closing k text.toList) rfl] at h
    exact .inr ⟨text, (double_eq_self_iff.mpr hplain).symm, h⟩
  · refine ((paired_of_read hstop hmany text.toList).1 [] qs h).imp_right ?_
    rintro ⟨u, htext, hread⟩
    exact ⟨String.ofList u, by rw [← String.toList_inj]; simpa [double] using htext, by simpa using hread⟩

theorem readParameters_double (k rest : List Char) (u : String) :
    readParameters (.start k) ((Argument.quoted (double '"' u)).render.toList ++ rest) =
      readParameters (.closing k u.toList) rest := by
  have hchars : (Argument.quoted (double '"' u)).render.toList ++ rest =
      '"' :: (doubleChars '"' u.toList ++ '"' :: rest) := by
    simp [Argument.render, double]
  rw [hchars, readParameters_silent (q := .quoted k []) rfl, readParameters_quoted, List.nil_append,
    readParameters_silent (q := .closing k u.toList) rfl]

theorem parameters?_cons {x : String × String} (hp : p.Proper) (hx : p.Gives x)
    (h : parameters? (Line.entry ps).render = some qs) :
    parameters? (Line.entry (p :: ps)).render = some (x :: qs) := by
  obtain ⟨key, value⟩ := x
  obtain ⟨rfl, hvalue⟩ := hx
  rw [parameters?, toList_render_entry, readParameters_render hp]
  have hgives (k : String) : Phase.parameter k.toList value.toList = (k, value) := by
    simp [Phase.parameter]
  rcases hp' : p.argument with text | text
  · rw [hp'] at hvalue
    rw [show text = double '"' value from hvalue, readParameters_double, readParameters_tail rfl rfl, h,
      hgives]
    rfl
  · have hproper := hp.argument
    rw [hp'] at hvalue hproper
    obtain rfl : value = text := hvalue
    rw [Argument.render, readParameters_argument_bare hproper, readParameters_tail rfl rfl, h, hgives]
    rfl

theorem parameters?_cons_inv (hp : p.Proper)
    (hstop : '"' ∉ p.argument.text.toList ∨ Stops (tailChars ps))
    (hmany : ∀ qs, parameters? (Line.entry ps).render = some qs → n ≤ qs.length)
    (h : parameters? (Line.entry (p :: ps)).render = some qs) :
    n + 1 < qs.length ∨
      ∃ x qs', p.Gives x ∧ parameters? (Line.entry ps).render = some qs' ∧ x :: qs' = qs := by
  rw [parameters?, toList_render_entry, readParameters_render hp] at h
  have hclosing (k v : List Char) : readParameters (.closing k v) (tailChars ps) =
      (parameters? (Line.entry ps).render).map (Phase.parameter k v :: ·) :=
    readParameters_tail rfl rfl
  have hmore : ∀ k v qs, readParameters (.closing k v) (tailChars ps) = some qs →
      n + 1 ≤ qs.length := by
    intro k v qs hread
    rw [hclosing] at hread
    obtain ⟨qs', hqs', rfl⟩ := Option.map_eq_some_iff.mp hread
    exact Nat.succ_le_succ (hmany qs' hqs')
  rcases hp' : p.argument with text | text
  · rw [hp'] at h hstop
    refine (readParameters_argument_quoted hstop hmore h).imp_right ?_
    rintro ⟨u, rfl, hread⟩
    rw [hclosing] at hread
    obtain ⟨qs', hqs', rfl⟩ := Option.map_eq_some_iff.mp hread
    exact ⟨_, qs', ⟨by simp [Phase.parameter], by simp [hp', Phase.parameter]⟩, hqs', rfl⟩
  · have hproper := hp.argument
    rw [hp'] at h hproper
    rw [Argument.render, readParameters_argument_bare hproper, readParameters_tail rfl rfl] at h
    obtain ⟨qs', hqs', rfl⟩ := Option.map_eq_some_iff.mp h
    exact .inr ⟨_, qs', ⟨by simp [Phase.parameter], by simp [hp', Phase.parameter]⟩, hqs', rfl⟩

theorem length_le_of_parameters? (hs : Settled ps)
    (h : parameters? (Line.entry ps).render = some qs) : ps.length ≤ qs.length := by
  induction ps generalizing qs with
  | nil => exact Nat.zero_le _
  | cons p ps ih =>
    obtain ⟨hp, hstop, hs⟩ := hs
    rcases parameters?_cons_inv hp hstop (fun _ => ih hs) h with hmore | ⟨x, qs', -, hqs', rfl⟩
    · exact hmore.le
    · exact Nat.succ_le_succ (ih hs hqs')

theorem parameters?_entry_iff (hs : Settled ps) :
    parameters? (Line.entry ps).render = some qs ∧ qs.length = ps.length ↔
      List.Forall₂ Parameter.Gives ps qs := by
  induction ps generalizing qs with
  | nil =>
    have hread : parameters? (Line.entry []).render = some [] := rfl
    rw [hread, Option.some.injEq, List.forall₂_nil_left_iff]
    constructor
    · exact fun h => h.1.symm
    · rintro rfl
      exact ⟨rfl, rfl⟩
  | cons p ps ih =>
    obtain ⟨hp, hstop, hs⟩ := hs
    rw [List.forall₂_cons_left_iff]
    constructor
    · rintro ⟨hread, hlength⟩
      rcases parameters?_cons_inv hp hstop (fun _ => length_le_of_parameters? hs) hread with
        hmore | ⟨x, qs', hx, hqs', rfl⟩
      · rw [hlength, List.length_cons] at hmore
        omega
      · exact ⟨x, qs', hx, (ih hs).mp ⟨hqs', Nat.succ_injective hlength⟩, rfl⟩
    · rintro ⟨x, qs', hx, hqs', rfl⟩
      obtain ⟨hread, hlength⟩ := (ih hs).mpr hqs'
      exact ⟨parameters?_cons hp hx hread, congrArg Nat.succ hlength⟩

end Entry

end FlutterInstaller.Script
