import FlutterInstaller.Yaml.Block
import FlutterInstaller.Yaml.Plain
import FlutterInstaller.Yaml.Quoted

/-!
From text to tokens. Indentation becomes tokens that open and close block collections, and a word
turns out to be a key only when the colon after it is found: until then its place among the tokens
is remembered, one place for each level of brackets.
-/
namespace FlutterInstaller.Yaml

structure KeyPlace where
  position : Nat
  required : Bool
  passed : Nat
  line : Nat
  column : Nat

/-- A key stands on one line, within 1024 octets of its colon. -/
def KeyPlace.isStale (c : Cursor) (k : KeyPlace) : Bool :=
  k.line < c.line || k.passed + 1024 < c.passed

/-- The reader of tokens. The tokens read so far are kept backwards, and the levels of brackets and
of indentation from the innermost outwards. -/
structure TokenStream where
  cursor : Cursor
  tokens : List Token
  keys : List (Option KeyPlace)
  keyAllowed : Bool
  indent : Int
  outer : List Int
  finished : Bool

namespace TokenStream

abbrev Step := Except Error TokenStream

def initial (s : String) : TokenStream where
  cursor := Cursor.ofText s
  tokens := []
  keys := [none]
  keyAllowed := true
  indent := -1
  outer := []
  finished := false

def flow (l : TokenStream) : Bool := 1 < l.keys.length

def push (t : Token) (l : TokenStream) : TokenStream := { l with tokens := t :: l.tokens }

def insert (position : Nat) (t : Token) (l : TokenStream) : TokenStream :=
  { l with tokens := l.tokens.insertIdx (l.tokens.length - position) t }

def allowKey (b : Bool) (l : TokenStream) : TokenStream := { l with keyAllowed := b }

def skip (n : Nat) (l : TokenStream) : TokenStream := { l with cursor := l.cursor.advance n }

def unroll (column : Int) : List Int → TokenStream → TokenStream
  | [], l => l
  | o :: os, l =>
    if column < l.indent then unroll column os { l.push .blockEnd with indent := o, outer := os }
    else l

def unindent (column : Int) (l : TokenStream) : TokenStream :=
  if l.flow then l else unroll column l.outer l

def indentTo (column position : Nat) (t : Token) (l : TokenStream) : TokenStream :=
  if !l.flow ∧ l.indent < column then
    { l.insert position t with indent := column, outer := l.indent :: l.outer }
  else l

def currentKey (l : TokenStream) : Option KeyPlace := l.keys.head?.join

def setKey (k : Option KeyPlace) (l : TokenStream) : TokenStream := { l with keys := k :: l.keys.drop 1 }

def dropKey (l : TokenStream) : Step :=
  if l.currentKey.any (·.required) then .error .missingColon else .ok (l.setKey none)

def saveKey (l : TokenStream) : Step :=
  if l.keyAllowed then do
    let place : KeyPlace :=
      { position := l.tokens.length
        required := !l.flow && l.indent == (l.cursor.column : Int)
        passed := l.cursor.passed
        line := l.cursor.line
        column := l.cursor.column }
    let l ← l.dropKey
    .ok (l.setKey (some place))
  else .ok l

def dropStale (l : TokenStream) : Step :=
  let stale (k : Option KeyPlace) : Bool := k.any (KeyPlace.isStale l.cursor)
  if l.keys.any fun k => stale k && k.any (·.required) then .error .missingColon
  else .ok { l with keys := l.keys.map fun k => if stale k then none else k }

/-- Passes blanks, comments and line breaks. Tabs count as blanks inside brackets and where no key
may start; a byte order mark may start a line. -/
def skipBlanks : Nat → TokenStream → TokenStream
  | 0, l => l
  | fuel + 1, l =>
    let c := l.cursor
    let c := if c.column = 0 ∧ c.peekIs (Char.ofNat 0xFEFF) then c.advance 1 else c
    let tabs := l.flow || !l.keyAllowed
    let c := c.skipWhile fun x => x = ' ' || (tabs && x = '\t')
    let c := if c.peekIs '#' then c.skipWhile fun x => !isBreak x else c
    if c.peek?.any isBreak then
      skipBlanks fuel { l with cursor := c.nextLine, keyAllowed := l.keyAllowed || !l.flow }
    else { l with cursor := c }

def readEnd (l : TokenStream) : Step := do
  let l ← (l.unindent (-1)).dropKey
  .ok { (l.allowKey false).push .streamEnd with finished := true }

def readDirective (l : TokenStream) : Step := do
  let l ← (l.unindent (-1)).dropKey
  let (t, c) ← Token.readDirective l.cursor
  .ok { (l.allowKey false).push t with cursor := c }

def readDocumentMark (t : Token) (l : TokenStream) : Step := do
  let l ← (l.unindent (-1)).dropKey
  .ok (((l.allowKey false).push t).skip 3)

def openBracket (t : Token) (l : TokenStream) : Step := do
  let l ← l.saveKey
  .ok ((({ l with keys := none :: l.keys }.allowKey true).push t).skip 1)

def closeBracket (t : Token) (l : TokenStream) : Step := do
  let l ← l.dropKey
  let keys := if l.flow then l.keys.drop 1 else l.keys
  .ok ((({ l with keys := keys }.allowKey false).push t).skip 1)

def readFlowEntry (l : TokenStream) : Step := do
  let l ← l.dropKey
  .ok (((l.allowKey true).push .flowEntry).skip 1)

def readBlockEntry (l : TokenStream) : Step := do
  if !l.flow ∧ !l.keyAllowed then .error .badIndentation
  else
    let l ← (l.indentTo l.cursor.column l.tokens.length .blockSequenceStart).dropKey
    .ok (((l.allowKey true).push .blockEntry).skip 1)

def readKey (l : TokenStream) : Step := do
  if !l.flow ∧ !l.keyAllowed then .error .badIndentation
  else
    let l ← (l.indentTo l.cursor.column l.tokens.length .blockMappingStart).dropKey
    .ok (((l.allowKey !l.flow).push .key).skip 1)

def readValue (l : TokenStream) : Step :=
  match l.currentKey with
  | some k =>
    let l := (l.insert k.position .key).indentTo k.column k.position .blockMappingStart
    .ok ((((l.setKey none).allowKey false).push .value).skip 1)
  | none =>
    if !l.flow ∧ !l.keyAllowed then .error .badIndentation
    else
      let l := l.indentTo l.cursor.column l.tokens.length .blockMappingStart
      .ok (((l.allowKey !l.flow).push .value).skip 1)

def readWord (read : Cursor → Except Error (Token × Cursor)) (l : TokenStream) : Step := do
  let l ← l.saveKey
  let (t, c) ← read l.cursor
  .ok { (l.allowKey false).push t with cursor := c }

def readBlockScalar (literal : Bool) (l : TokenStream) : Step := do
  let l ← l.dropKey
  let (t, c) ← Block.read literal l.indent l.cursor
  .ok { (l.allowKey true).push t with cursor := c }

def readPlain (l : TokenStream) : Step := do
  let l ← l.saveKey
  let (t, broken, c) ← Plain.read l.flow l.indent l.cursor
  .ok { (l.allowKey broken).push t with cursor := c }

def named (make : String → Token) (c : Cursor) : Except Error (Token × Cursor) := do
  let (name, c) ← Token.readName c
  .ok (make name, c)

def readToken (l : TokenStream) : Step :=
  let lineStart := l.cursor.column = 0
  match l.cursor.rest with
  | [] => l.readEnd
  | x :: rest =>
    let lone := endsWord rest
    if lineStart ∧ x = '%' then l.readDirective
    else if l.cursor.atDocumentMark then
      l.readDocumentMark (if x = '-' then .documentStart else .documentEnd)
    else if x = '[' then l.openBracket .flowSequenceStart
    else if x = '\x7b' then l.openBracket .flowMappingStart
    else if x = ']' then l.closeBracket .flowSequenceEnd
    else if x = '\x7d' then l.closeBracket .flowMappingEnd
    else if x = ',' then l.readFlowEntry
    else if x = '-' ∧ lone then l.readBlockEntry
    else if x = '?' ∧ (l.flow ∨ lone) then l.readKey
    else if x = ':' ∧ (l.flow ∨ lone) then l.readValue
    else if x = '*' then l.readWord (named .alias)
    else if x = '&' then l.readWord (named .anchor)
    else if x = '!' then l.readWord (Token.readTag l.flow)
    else if x = '|' ∧ !l.flow then l.readBlockScalar true
    else if x = '>' ∧ !l.flow then l.readBlockScalar false
    else if x = '\'' then l.readWord (Quoted.read true)
    else if x = '"' then l.readWord (Quoted.read false)
    else if Plain.starts l.flow (x :: rest) then l.readPlain
    else .error .unexpectedCharacter

def next (fuel : Nat) (l : TokenStream) : Step := do
  let l ← (l.skipBlanks fuel).dropStale
  (l.unindent l.cursor.column).readToken

/-- Reads token after token. The fuel is always more than what is left of the text. -/
def run : Nat → TokenStream → Step
  | 0, l => .ok l
  | fuel + 1, l => if l.finished then .ok l else do run fuel (← l.next (fuel + 1))

end TokenStream

def Token.ofText (s : String) : Except Error (List Token) :=
  if s.toList.all isPermitted then do
    let l ← TokenStream.run (s.toList.length + 2) (TokenStream.initial s)
    .ok l.tokens.reverse
  else .error .controlCharacter

end FlutterInstaller.Yaml
