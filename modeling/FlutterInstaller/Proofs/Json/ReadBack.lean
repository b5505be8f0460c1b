import FlutterInstaller.Json.Basic
import FlutterInstaller.Proofs.Json.Reader
import Mathlib.Data.List.Forall2

/-!
What is written as JSON is read back. The text of a value is cut into the tokens of the value, however it
is indented, and these are read as the value.
-/
namespace FlutterInstaller

open Datum

namespace Json

mutual

def datum : Json → Datum
  | .null => .null
  | .bool b => .bool b
  | .string s => .string s
  | .array items => .array (itemData items)
  | .object members => .object (memberData members)

def itemData : List Json → List Datum
  | [] => []
  | j :: js => datum j :: itemData js

def memberData : List (String × Json) → List (String × Datum)
  | [] => []
  | (k, j) :: ms => (k, datum j) :: memberData ms

end

mutual

def tokens : Json → List Token
  | .null => [.scalar .null]
  | .bool b => [.scalar (.bool b)]
  | .string s => [.scalar (.string s)]
  | .array items => .mark '[' :: ([Token.mark ','].intercalate (itemTokens items) ++ [.mark ']'])
  | .object members =>
    .mark '{' :: ([Token.mark ','].intercalate (memberTokens members) ++ [.mark '}'])

def itemTokens : List Json → List (List Token)
  | [] => []
  | j :: js => tokens j :: itemTokens js

def memberTokens : List (String × Json) → List (List Token)
  | [] => []
  | (k, j) :: ms => (.scalar (.string k) :: .mark ':' :: tokens j) :: memberTokens ms

end

end Json

namespace Datum

section Lexing

variable {cs ds : List Char} {ts us : List Token} {x y : Lexer}

theorem Lexer.run_append (x : Lexer) (cs ds : List Char) :
    x.run (cs ++ ds) = (x.run cs).bind fun y => y.run ds := List.foldlM_append

theorem Lexer.run_cons (x : Lexer) (c : Char) (cs : List Char) :
    x.run (c :: cs) = (x.step c).bind fun y => y.run cs := rfl

/-- Characters that are read as tokens wherever a value or a mark may stand. -/
def Lexes (cs : List Char) (ts : List Token) : Prop :=
  ∀ before, ∃ x, Lexer.run ⟨before, .between⟩ cs = some x ∧
    x.settle? = some ⟨before ++ ts, .between⟩

theorem Lexer.step_of_settle (hx : x.settle? = some ⟨ts, .between⟩) {c : Char}
    (hc : isBlank c = true ∨ isMark c = true) : x.step c = Lexer.step ⟨ts, .between⟩ c := by
  obtain ⟨tokens, mode⟩ := x
  have houtside : Lexer.outside ⟨tokens, mode⟩ c = Lexer.outside ⟨ts, .between⟩ c := by
    have hsettled : Lexer.settle? ⟨ts, .between⟩ = some ⟨ts, .between⟩ := rfl
    unfold Lexer.outside
    rw [hx, hsettled]
    rcases hc with hc | hc
    · simp [hc]
    · simp [hc]
  cases mode with
  | between => exact houtside
  | word cs => exact houtside
  | string ps => cases hx
  | escape ps => cases hx
  | unit ps ds => cases hx

/-- Characters that are read as tokens, and after which anything may stand. -/
def Closes (cs : List Char) (ts : List Token) : Prop :=
  ∀ before, Lexer.run ⟨before, .between⟩ cs = some ⟨before ++ ts, .between⟩

theorem Closes.lexes (h : Closes cs ts) : Lexes cs ts := fun before => ⟨_, h before, rfl⟩

theorem Closes.append (h : Closes cs ts) (h' : Closes ds us) : Closes (cs ++ ds) (ts ++ us) := by
  intro before
  rw [Lexer.run_append, h, Option.bind_some, h', List.append_assoc]

theorem Closes.append_lexes (h : Closes cs ts) (h' : Lexes ds us) : Lexes (cs ++ ds) (ts ++ us) := by
  intro before
  rw [Lexer.run_append, h, Option.bind_some, ← List.append_assoc]
  exact h' _

theorem Lexes.run_append (h : Lexes cs ts) (before : List Token) {d : Char}
    (hd : isBlank d = true ∨ isMark d = true) (ds : List Char) :
    Lexer.run ⟨before, .between⟩ (cs ++ d :: ds) = Lexer.run ⟨before ++ ts, .between⟩ (d :: ds) := by
  obtain ⟨x, hx, hsettle⟩ := h before
  rw [Lexer.run_append, hx, Option.bind_some, Lexer.run_cons, Lexer.step_of_settle hsettle hd]
  rfl

theorem closes_blank (hc : ∀ c ∈ cs, isBlank c = true) : Closes cs [] := by
  intro before
  rw [List.append_nil]
  induction cs with
  | nil => rfl
  | cons c cs ih =>
    obtain ⟨hb, hcs⟩ := List.forall_mem_cons.mp hc
    have hstep : Lexer.step ⟨before, .between⟩ c = some ⟨before, .between⟩ := by
      simp [Lexer.step, Lexer.outside, hb, Lexer.settle?]
    rw [Lexer.run_cons, hstep]
    exact ih hcs

theorem closes_mark {c : Char} (hc : isMark c = true) : Closes [c] [.mark c] := by
  intro before
  have hb : isBlank c = false := by
    revert hc
    simp only [isMark, isBlank, List.mem_cons, decide_eq_true_eq, List.not_mem_nil, or_false]
    rintro (rfl | rfl | rfl | rfl | rfl | rfl) <;> decide
  simp [Lexer.run, Lexer.step, Lexer.outside, hb, hc, Lexer.settle?]

theorem lexes_null : Lexes "null".toList [.scalar .null] := fun _ => ⟨_, rfl, rfl⟩

theorem lexes_bool (b : Bool) : Lexes (if b then "true" else "false").toList [.scalar (.bool b)] := by
  cases b
  · exact fun _ => ⟨_, rfl, rfl⟩
  · exact fun _ => ⟨_, rfl, rfl⟩

end Lexing

section Strings

theorem ofChar?_hexDigit {n : Nat} (hn : n < 16) :
    HexDigit.ofChar? (Json.hexDigit n) = some (HexDigit.ofNat n) := by
  have hall : ∀ d : Fin 16, HexDigit.ofChar? (Json.hexDigit d.val) = some (HexDigit.ofNat d.val) := by
    decide
  exact hall ⟨n, hn⟩

theorem run_unit (before : List Token) (ps : List Piece) {n : Nat} (hn : n < 32) :
    Lexer.run ⟨before, .string ps⟩
        ['\\', 'u', '0', '0', Json.hexDigit (n / 16), Json.hexDigit (n % 16)] =
      some ⟨before, .string (ps ++ [.unit n])⟩ := by
  have hhigh := ofChar?_hexDigit (n := n / 16) (by omega)
  have hlow := ofChar?_hexDigit (n := n % 16) (by omega)
  have hzero : HexDigit.ofChar? '0' = some 0 := by decide
  have hvalue : hexValue [0, 0, HexDigit.ofNat (n / 16), HexDigit.ofNat (n % 16)] = n := by
    simp only [hexValue, HexDigit.ofNat, List.foldl_cons, List.foldl_nil, Fin.val_zero]
    omega
  simp [Lexer.run, Lexer.step, hhigh, hlow, hzero, hvalue]

theorem escapeChar_cases (c : Char) :
    (∃ e, Json.escapeChar c = ['\\', e] ∧ escaped? e = some c ∧ e ≠ 'u') ∨
    (c.toNat < 32 ∧ Json.escapeChar c =
      ['\\', 'u', '0', '0', Json.hexDigit (c.toNat / 16), Json.hexDigit (c.toNat % 16)]) ∨
    (c ≠ '"' ∧ c ≠ '\\' ∧ ¬ c.toNat < 32 ∧ Json.escapeChar c = [c]) := by
  by_cases hletter : c ∈ ['"', '\\', '\x08', '\x0c', '\n', '\r', '\t']
  · left
    simp only [List.mem_cons, List.not_mem_nil, or_false] at hletter
    rcases hletter with rfl | rfl | rfl | rfl | rfl | rfl | rfl <;>
      exact ⟨_, rfl, by decide, by decide⟩
  · right
    simp only [List.mem_cons, List.not_mem_nil, or_false, not_or] at hletter
    obtain ⟨hquote, hslash, hb, hf, hn, hr, ht⟩ := hletter
    by_cases hc : c.toNat < 32
    · exact .inl ⟨hc, by simp [Json.escapeChar, hquote, hslash, hb, hf, hn, hr, ht, hc]⟩
    · exact .inr ⟨hquote, hslash, hc,
        by simp [Json.escapeChar, hquote, hslash, hb, hf, hn, hr, ht, hc]⟩

theorem exists_piece (c : Char) : ∃ p,
    (∀ before ps, Lexer.run ⟨before, .string ps⟩ (Json.escapeChar c) =
      some ⟨before, .string (ps ++ [p])⟩) ∧
    ∀ qs, unite? (p :: qs) = (unite? qs).map (c :: ·) := by
  rcases escapeChar_cases c with ⟨e, hc, he, hu⟩ | ⟨hlow, hc⟩ | ⟨hquote, hslash, hlow, hc⟩
  · refine ⟨.char c, fun before ps => ?_, fun _ => rfl⟩
    rw [hc]
    simp [Lexer.run, Lexer.step, he, hu]
  · refine ⟨.unit c.toNat, fun before ps => hc ▸ run_unit before ps hlow, fun qs => ?_⟩
    conv_lhs => unfold unite?
    rw [if_pos (.inl (by omega)), Char.ofNat_toNat]
  · refine ⟨.char c, fun before ps => ?_, fun _ => rfl⟩
    rw [hc]
    simp [Lexer.run, Lexer.step, hquote, hslash, hlow]

theorem exists_pieces (cs : List Char) : ∃ ps,
    (∀ before qs, Lexer.run ⟨before, .string qs⟩ (cs.flatMap Json.escapeChar) =
      some ⟨before, .string (qs ++ ps)⟩) ∧ unite? ps = some cs := by
  induction cs with
  | nil => exact ⟨[], fun _ _ => by simp [Lexer.run], rfl⟩
  | cons c cs ih =>
    obtain ⟨p, hp, hunite⟩ := exists_piece c
    obtain ⟨ps, hps, hrest⟩ := ih
    refine ⟨p :: ps, fun before qs => ?_, by rw [hunite, hrest]; rfl⟩
    rw [List.flatMap_cons, Lexer.run_append, hp, Option.bind_some, hps, List.append_assoc]
    rfl

theorem closes_quote (s : String) : Closes (Json.quote s).toList [.scalar (.string s)] := by
  intro before
  obtain ⟨ps, hps, hunite⟩ := exists_pieces s.toList
  have hopen : Lexer.step ⟨before, .between⟩ '"' = some ⟨before, .string []⟩ := rfl
  rw [Json.quote, String.toList_ofList, List.cons_append, Lexer.run_cons, hopen, Option.bind_some,
    Lexer.run_append, hps, Option.bind_some]
  simp [Lexer.run, Lexer.step, hunite]

end Strings

section Texts

variable {members : List String} {tokens : List (List Token)}

theorem toList_newLine (level : Nat) :
    (Json.newLine level).toList = '\n' :: List.replicate (2 * level) ' ' := by
  simp [Json.newLine]

theorem closes_newLine (level : Nat) : Closes (Json.newLine level).toList [] := by
  refine closes_blank fun c hc => ?_
  rw [toList_newLine, List.mem_cons, List.mem_replicate] at hc
  rcases hc with rfl | ⟨_, rfl⟩ <;> decide

theorem lexes_lines (level : Nat)
    (h : List.Forall₂ (fun m ts => Lexes m.toList ts) members tokens) :
    Lexes (",".intercalate (members.map fun m => Json.newLine level ++ m)).toList
      ([Token.mark ','].intercalate tokens) := by
  induction h with
  | nil => exact (closes_blank (by simp)).lexes
  | @cons m ts members tokens hm hrest ih =>
    have hline : Lexes (Json.newLine level ++ m).toList ts := by
      rw [String.toList_append]
      exact (closes_newLine level).append_lexes hm
    cases hrest with
    | nil => simpa using hline
    | @cons m' ts' members tokens hm' hrest =>
      have hcomma := (closes_mark (c := ',') (by decide)).append_lexes ih
      intro before
      obtain ⟨x, hx, hsettle⟩ := hcomma (before ++ ts)
      refine ⟨x, ?_, by simpa [List.intercalate] using hsettle⟩
      rw [List.map_cons, List.map_cons, String.intercalate_cons_cons, String.toList_append,
        String.toList_append, List.append_assoc]
      exact (hline.run_append before (.inr (by decide)) _).trans hx

theorem closes_enclose {opening closing : String} {o c : Char} (ho : opening.toList = [o])
    (hc : closing.toList = [c]) (hmo : isMark o = true) (hmc : isMark c = true) (level : Nat)
    (h : List.Forall₂ (fun m ts => Lexes m.toList ts) members tokens) :
    Closes (Json.enclose opening closing level members).toList
      (.mark o :: ([Token.mark ','].intercalate tokens ++ [.mark c])) := by
  cases h with
  | nil => simpa [Json.enclose, ho, hc] using (closes_mark hmo).append (closes_mark hmc)
  | @cons m ts members tokens hm hrest =>
    intro before
    have hlines := lexes_lines (level + 1) (hrest.cons hm)
    have hend := (closes_newLine level).append (closes_mark hmc)
    rw [toList_newLine] at hend
    rw [Json.enclose, if_neg (by simp)]
    simp only [String.toList_append, ho, hc, List.append_assoc]
    rw [Lexer.run_append, closes_mark hmo, Option.bind_some, toList_newLine]
    refine (hlines.run_append _ (.inl (by decide)) _).trans ((hend _).trans ?_)
    simp

end Texts

mutual

theorem lexes_pretty (level : Nat) : (j : Json) → Lexes (j.pretty level).toList j.tokens
  | .null => lexes_null
  | .bool b => lexes_bool b
  | .string s => (closes_quote s).lexes
  | .array items => by
    rw [Json.pretty, Json.tokens]
    exact (closes_enclose (by decide) (by decide) (by decide) (by decide) level
      (lexes_items (level + 1) items)).lexes
  | .object members => by
    rw [Json.pretty, Json.tokens]
    exact (closes_enclose (by decide) (by decide) (by decide) (by decide) level
      (lexes_members (level + 1) members)).lexes

theorem lexes_items (level : Nat) : (js : List Json) →
    List.Forall₂ (fun s ts => Lexes s.toList ts) (Json.prettyItems level js) (Json.itemTokens js)
  | [] => .nil
  | j :: js => .cons (lexes_pretty level j) (lexes_items level js)

theorem lexes_members (level : Nat) : (ms : List (String × Json)) →
    List.Forall₂ (fun s ts => Lexes s.toList ts) (Json.prettyMembers level ms) (Json.memberTokens ms)
  | [] => .nil
  | (k, j) :: ms => by
    refine .cons ?_ (lexes_members level ms)
    have hblank : Closes [' '] [] := closes_blank (by simp [isBlank])
    have hcolon : Closes ": ".toList [.mark ':'] := (closes_mark (c := ':') (by decide)).append hblank
    rw [String.toList_append, String.toList_append]
    exact ((closes_quote k).append hcolon).append_lexes (lexes_pretty level j)

end

theorem tokens?_text (j : Json) : tokens? j.text.toList = some j.tokens := by
  obtain ⟨x, hx, hsettle⟩ := lexes_pretty 0 j []
  rw [tokens?, Json.text, hx, Option.bind_some, hsettle]
  rfl

section Parsing

variable {around : List Opened} {rest : List Token}

theorem intercalate_cons_cons (mark ts us : List Token) (tss : List (List Token)) :
    mark.intercalate (ts :: us :: tss) = ts ++ mark ++ mark.intercalate (us :: tss) := by
  simp [List.intercalate]

theorem exists_append_intercalate (mark ts : List Token) (tss : List (List Token)) :
    ∃ us, mark.intercalate (ts :: tss) = ts ++ us := by
  cases tss with
  | nil => exact ⟨[], by simp [List.intercalate]⟩
  | cons us tss => exact ⟨_, by rw [intercalate_cons_cons, List.append_assoc]⟩

theorem run_firstItem (j : Json) (js : List Json) (around : List Opened) (rest : List Token) :
    (Stage.firstItem around).run
        ([Token.mark ','].intercalate (Json.itemTokens (j :: js)) ++ rest) =
      (Stage.value (.array [] :: around)).run
        ([Token.mark ','].intercalate (Json.itemTokens (j :: js)) ++ rest) := by
  obtain ⟨us, hus⟩ := exists_append_intercalate [.mark ','] j.tokens (Json.itemTokens js)
  rw [Json.itemTokens, hus]
  cases j <;> simp [Json.tokens, Stage.run, Stage.step]

theorem run_firstKey (k : String) (j : Json) (ms : List (String × Json)) (around : List Opened)
    (rest : List Token) :
    (Stage.firstKey around).run
        ([Token.mark ','].intercalate (Json.memberTokens ((k, j) :: ms)) ++ rest) =
      (Stage.key around []).run
        ([Token.mark ','].intercalate (Json.memberTokens ((k, j) :: ms)) ++ rest) := by
  obtain ⟨us, hus⟩ := exists_append_intercalate [.mark ',']
    (.scalar (.string k) :: .mark ':' :: j.tokens) (Json.memberTokens ms)
  rw [Json.memberTokens, hus]
  rfl

mutual

theorem run_tokens : (j : Json) → ∀ around rest, (Stage.value around).run (j.tokens ++ rest) =
    (Stage.put j.datum around).run rest
  | .null, _, _ => rfl
  | .bool _, _, _ => rfl
  | .string _, _, _ => rfl
  | .array [], _, _ => rfl
  | .object [], _, _ => rfl
  | .array (j :: js), around, rest => by
    have hopen : ∀ ts, (Stage.value around).run (.mark '[' :: ts) =
        (Stage.firstItem around).run ts := fun _ => rfl
    rw [Json.tokens, List.cons_append, List.append_assoc, hopen, run_firstItem,
      run_items (j :: js) (by simp)]
    rfl
  | .object ((k, j) :: ms), around, rest => by
    have hopen : ∀ ts, (Stage.value around).run (.mark '{' :: ts) =
        (Stage.firstKey around).run ts := fun _ => rfl
    rw [Json.tokens, List.cons_append, List.append_assoc, hopen, run_firstKey,
      run_members ((k, j) :: ms) (by simp)]
    rfl

theorem run_items : (js : List Json) → js ≠ [] → ∀ around items rest,
    (Stage.value (.array items :: around)).run
        ([Token.mark ','].intercalate (Json.itemTokens js) ++ rest) =
      (Stage.nextItem around (items ++ Json.itemData js)).run rest
  | [], h, _, _, _ => absurd rfl h
  | [j], _, around, items, rest => by
    have hone : [Token.mark ','].intercalate (Json.itemTokens [j]) = j.tokens := by
      simp [Json.itemTokens, List.intercalate]
    rw [hone, run_tokens j]
    rfl
  | j :: j' :: js, _, around, items, rest => by
    have hnext : ∀ items ts, (Stage.nextItem around items).run (.mark ',' :: ts) =
        (Stage.value (.array items :: around)).run ts := fun _ _ => rfl
    rw [Json.itemTokens, Json.itemTokens, intercalate_cons_cons, List.append_assoc,
      List.append_assoc, run_tokens j, Stage.put, List.singleton_append, hnext, ← Json.itemTokens,
      run_items (j' :: js) (by simp)]
    simp [Json.itemData]

theorem run_members : (ms : List (String × Json)) → ms ≠ [] → ∀ around members rest,
    (Stage.key around members).run
        ([Token.mark ','].intercalate (Json.memberTokens ms) ++ rest) =
      (Stage.nextMember around (members ++ Json.memberData ms)).run rest
  | [], h, _, _, _ => absurd rfl h
  | [(k, j)], _, around, members, rest => by
    have hone : [Token.mark ','].intercalate (Json.memberTokens [(k, j)]) =
        .scalar (.string k) :: .mark ':' :: j.tokens := by
      simp [Json.memberTokens, List.intercalate]
    have hkey : ∀ ts, (Stage.key around members).run (.scalar (.string k) :: .mark ':' :: ts) =
        (Stage.value (.object members k :: around)).run ts := fun _ => rfl
    rw [hone, List.cons_append, List.cons_append, hkey, run_tokens j]
    rfl
  | (k, j) :: m :: ms, _, around, members, rest => by
    have hkey : ∀ ts, (Stage.key around members).run (.scalar (.string k) :: .mark ':' :: ts) =
        (Stage.value (.object members k :: around)).run ts := fun _ => rfl
    have hnext : ∀ members ts, (Stage.nextMember around members).run (.mark ',' :: ts) =
        (Stage.key around members).run ts := fun _ _ => rfl
    rw [Json.memberTokens, Json.memberTokens, intercalate_cons_cons, List.append_assoc,
      List.append_assoc, List.cons_append, List.cons_append, hkey, run_tokens j, Stage.put,
      List.singleton_append, hnext, ← Json.memberTokens, run_members (m :: ms) (by simp)]
    simp [Json.memberData]

end

end Parsing

/-- A text that a value was written as is read as that value, and as nothing else. -/
theorem read?_text (j : Json) : read? j.text = some j.datum := by
  have hrun := run_tokens j [] []
  rw [List.append_nil] at hrun
  rw [read?, tokens?_text, Option.bind_some, hrun]
  rfl

example : read? "[-1.5e+3,\"\\u0041\\uD83D\\ude00\\/\",\t[ ] ]" =
    some (.array [.number "-1.5e+3", .string "A😀/", .array []]) := by cbv

end Datum

end FlutterInstaller
