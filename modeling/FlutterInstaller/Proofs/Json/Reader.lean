import FlutterInstaller.Uuid.Basic

/-!
A reader of JSON. The text is cut into tokens by a machine that takes one character after the other; a
second machine takes the tokens and keeps a stack of what is open. Both stop at the first thing that the
grammar does not allow.
-/
namespace FlutterInstaller

/-- What a JSON text says, with numbers as they are written and members in their order. -/
inductive Datum
  | null
  | bool (b : Bool)
  | number (literal : String)
  | string (s : String)
  | array (items : List Datum)
  | object (members : List (String × Datum))

namespace Datum

inductive Token
  | scalar (d : Datum)
  | mark (c : Char)

section Numbers

inductive NumberPart
  | start
  | minus
  | zero
  | whole
  | point
  | fraction
  | exponent
  | sign
  | power
  deriving DecidableEq

def NumberPart.step (part : NumberPart) (c : Char) : Option NumberPart :=
  let isExponent := c = 'e' ∨ c = 'E'
  match part with
  | .start =>
    if c = '-' then some .minus
    else if c = '0' then some .zero
    else if c.isDigit then some .whole
    else none
  | .minus => if c = '0' then some .zero else if c.isDigit then some .whole else none
  | .zero => if c = '.' then some .point else if isExponent then some .exponent else none
  | .whole =>
    if c.isDigit then some .whole
    else if c = '.' then some .point
    else if isExponent then some .exponent
    else none
  | .point => if c.isDigit then some .fraction else none
  | .fraction =>
    if c.isDigit then some .fraction else if isExponent then some .exponent else none
  | .exponent =>
    if c.isDigit then some .power else if c = '+' ∨ c = '-' then some .sign else none
  | .sign => if c.isDigit then some .power else none
  | .power => if c.isDigit then some .power else none

def isNumber (cs : List Char) : Bool :=
  match cs.foldlM NumberPart.step .start with
  | some part => part ∈ [.zero, .whole, .fraction, .power]
  | none => false

def scalar? (cs : List Char) : Option Datum :=
  if cs = "null".toList then some .null
  else if cs = "true".toList then some (.bool true)
  else if cs = "false".toList then some (.bool false)
  else if isNumber cs then some (.number (String.ofList cs))
  else none

end Numbers

section Strings

inductive Piece
  | char (c : Char)
  | unit (n : Nat)

def unite? : List Piece → Option (List Char)
  | [] => some []
  | .char c :: ps => (unite? ps).map (c :: ·)
  | .unit n :: ps =>
    if n < 0xD800 ∨ 0xDFFF < n then (unite? ps).map (Char.ofNat n :: ·)
    else
      match ps with
      | .unit m :: ps =>
        if n < 0xDC00 ∧ 0xDC00 ≤ m ∧ m ≤ 0xDFFF then
          (unite? ps).map (Char.ofNat (0x10000 + (n - 0xD800) * 0x400 + (m - 0xDC00)) :: ·)
        else none
      | _ => none

def escaped? (c : Char) : Option Char :=
  ['"', '\\', '/', 'b', 'f', 'n', 'r', 't'].zip
    ['"', '\\', '/', '\x08', '\x0c', '\n', '\r', '\t'] |>.lookup c

def hexValue (ds : List HexDigit) : Nat := ds.foldl (fun n d => 16 * n + d.val) 0

end Strings

inductive Mode
  | between
  | word (cs : List Char)
  | string (ps : List Piece)
  | escape (ps : List Piece)
  | unit (ps : List Piece) (ds : List HexDigit)

structure Lexer where
  tokens : List Token
  mode : Mode

def isBlank (c : Char) : Bool := c ∈ [' ', '\t', '\n', '\r']

def isMark (c : Char) : Bool := c ∈ ['{', '}', '[', ']', ',', ':']

namespace Lexer

def settle? (x : Lexer) : Option Lexer :=
  match x.mode with
  | .between => some x
  | .word cs => (scalar? cs).map fun d => ⟨x.tokens ++ [.scalar d], .between⟩
  | _ => none

def outside (x : Lexer) (c : Char) : Option Lexer :=
  if isBlank c then x.settle?
  else if isMark c then x.settle?.map fun y => ⟨y.tokens ++ [.mark c], .between⟩
  else if c = '"' then x.settle?.map fun y => ⟨y.tokens, .string []⟩
  else
    match x.mode with
    | .word cs => some ⟨x.tokens, .word (cs ++ [c])⟩
    | _ => some ⟨x.tokens, .word [c]⟩

def step (x : Lexer) (c : Char) : Option Lexer :=
  match x.mode with
  | .string ps =>
    if c = '"' then
      (unite? ps).map fun cs => ⟨x.tokens ++ [.scalar (.string (String.ofList cs))], .between⟩
    else if c = '\\' then some ⟨x.tokens, .escape ps⟩
    else if c.toNat < 32 then none
    else some ⟨x.tokens, .string (ps ++ [.char c])⟩
  | .escape ps =>
    if c = 'u' then some ⟨x.tokens, .unit ps []⟩
    else (escaped? c).map fun d => ⟨x.tokens, .string (ps ++ [.char d])⟩
  | .unit ps ds =>
    (HexDigit.ofChar? c).map fun d =>
      if ds.length = 3 then ⟨x.tokens, .string (ps ++ [.unit (hexValue (ds ++ [d]))])⟩
      else ⟨x.tokens, .unit ps (ds ++ [d])⟩
  | _ => x.outside c

def run (x : Lexer) (cs : List Char) : Option Lexer := cs.foldlM step x

end Lexer

def tokens? (cs : List Char) : Option (List Token) :=
  ((Lexer.run ⟨[], .between⟩ cs).bind Lexer.settle?).map Lexer.tokens

inductive Opened
  | array (items : List Datum)
  | object (members : List (String × Datum)) (key : String)

/-- What may come next, and what is open around it, the innermost first. -/
inductive Stage
  | value (around : List Opened)
  | firstItem (around : List Opened)
  | nextItem (around : List Opened) (items : List Datum)
  | firstKey (around : List Opened)
  | key (around : List Opened) (members : List (String × Datum))
  | colon (around : List Opened) (members : List (String × Datum)) (key : String)
  | nextMember (around : List Opened) (members : List (String × Datum))
  | done (d : Datum)

namespace Stage

def put (d : Datum) : List Opened → Stage
  | [] => .done d
  | .array items :: around => .nextItem around (items ++ [d])
  | .object members k :: around => .nextMember around (members ++ [(k, d)])

def begin (around : List Opened) : Token → Option Stage
  | .scalar d => some (put d around)
  | .mark '[' => some (.firstItem around)
  | .mark '{' => some (.firstKey around)
  | _ => none

def step : Stage → Token → Option Stage
  | .value around, t => begin around t
  | .firstItem around, .mark ']' => some (put (.array []) around)
  | .firstItem around, t => begin (.array [] :: around) t
  | .nextItem around items, .mark ',' => some (.value (.array items :: around))
  | .nextItem around items, .mark ']' => some (put (.array items) around)
  | .firstKey around, .mark '}' => some (put (.object []) around)
  | .firstKey around, .scalar (.string k) => some (.colon around [] k)
  | .key around members, .scalar (.string k) => some (.colon around members k)
  | .colon around members k, .mark ':' => some (.value (.object members k :: around))
  | .nextMember around members, .mark ',' => some (.key around members)
  | .nextMember around members, .mark '}' => some (put (.object members) around)
  | _, _ => none

def run (x : Stage) (ts : List Token) : Option Stage := ts.foldlM step x

def result? : Stage → Option Datum
  | .done d => some d
  | _ => none

end Stage

/-- The one value that a text consists of. -/
def read? (s : String) : Option Datum :=
  (tokens? s.toList).bind fun ts => ((Stage.value []).run ts).bind Stage.result?

end Datum

end FlutterInstaller
