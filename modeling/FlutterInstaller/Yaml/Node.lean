import FlutterInstaller.Yaml.Token

/-!
From tokens to the tree of a document. Nodes carry their tag and the number of their anchor;
an alias carries the number of the anchor that its name stood for at that point.
-/
namespace FlutterInstaller.Yaml

/-- What may stand before a node. An anchor is numbered by how many anchor names were known when it
was set. -/
structure Properties where
  anchor : Option Nat
  tag : Option Tag
  deriving DecidableEq

def Properties.none : Properties := ⟨.none, .none⟩

def Properties.present (p : Properties) : Bool := p.anchor.isSome || p.tag.isSome

inductive Node
  | alias (anchor : Nat)
  | scalar (properties : Properties) (text : String) (plain : Bool)
  | sequence (properties : Properties) (items : List Node)
  | mapping (properties : Properties) (entries : List (Node × Node))

namespace Node

def absent : Node := .scalar Properties.none "" true

structure Reader where
  tokens : List Token
  anchors : List (String × Nat)
  handles : List (String × Tag)

abbrev Read := StateT Reader (Except Error)

def peek : Read Token := do return (← get).tokens.head?.getD .streamEnd

def skip : Read Unit := modify fun r => { r with tokens := r.tokens.drop 1 }

def setAnchor (name : String) : Read Nat := do
  let r ← get
  let number := r.anchors.length
  set { r with anchors := (name, number) :: r.anchors.filter (·.1 ≠ name) }
  return number

def resolveTag (handle : String) (suffix : Tag) : Read Tag := do
  if handle = "" then return suffix
  else match (← get).handles.lookup handle with
    | some expansion => return expansion ++ suffix
    | none => throw .unknownTagHandle

def anchor? : Read (Option String) := do
  match ← peek with
  | .anchor name => skip; return some name
  | _ => return none

def tag? : Read (Option (String × Tag)) := do
  match ← peek with
  | .tag handle suffix => skip; return some (handle, suffix)
  | _ => return none

def properties : Read Properties := do
  let first ← anchor?
  let tag ← tag?
  let second ← if first.isNone ∧ tag.isSome then anchor? else pure none
  let tag ← tag.mapM fun t => resolveTag t.1 t.2
  let anchor ← (first.or second).mapM setAnchor
  return ⟨anchor, tag⟩

def endsBlockNode : Token → Bool
  | .key | .value | .blockEnd => true
  | _ => false

mutual

/-- Reads a node; block collections are allowed where `block` holds, and a sequence without an
indentation of its own where `indentless` holds. -/
def read (fuel : Nat) (block indentless : Bool) : Read Node :=
  match fuel with
  | 0 => throw .unexpectedToken
  | fuel + 1 => do
    match ← peek with
    | .alias name =>
      skip
      match (← get).anchors.lookup name with
      | some number => return .alias number
      | none => throw .unknownAnchor
    | _ =>
      let p ← properties
      let missing : Read Node :=
        if p.present then return .scalar p "" true else throw .unexpectedToken
      match ← peek with
      | .blockEntry => if indentless then return .sequence p (← readIndentless fuel) else missing
      | .scalar text plain => skip; return .scalar p text plain
      | .flowSequenceStart => skip; return .sequence p (← readFlowItems fuel true)
      | .flowMappingStart => skip; return .mapping p (← readFlowEntries fuel true)
      | .blockSequenceStart =>
        if block then skip; return .sequence p (← readBlockItems fuel) else missing
      | .blockMappingStart =>
        if block then skip; return .mapping p (← readBlockEntries fuel) else missing
      | _ => missing

def readBlockItems (fuel : Nat) : Read (List Node) :=
  match fuel with
  | 0 => throw .unexpectedToken
  | fuel + 1 => do
    match ← peek with
    | .blockEntry =>
      skip
      let item ← match ← peek with
        | .blockEntry | .blockEnd => pure absent
        | _ => read fuel true false
      return item :: (← readBlockItems fuel)
    | .blockEnd => skip; return []
    | _ => throw .unexpectedToken

def readIndentless (fuel : Nat) : Read (List Node) :=
  match fuel with
  | 0 => throw .unexpectedToken
  | fuel + 1 => do
    match ← peek with
    | .blockEntry =>
      skip
      let item ← match ← peek with
        | .blockEntry | .key | .value | .blockEnd => pure absent
        | _ => read fuel true false
      return item :: (← readIndentless fuel)
    | _ => return []

def readBlockEntries (fuel : Nat) : Read (List (Node × Node)) :=
  match fuel with
  | 0 => throw .unexpectedToken
  | fuel + 1 => do
    match ← peek with
    | .key =>
      skip
      let key ← if endsBlockNode (← peek) then pure absent else read fuel true true
      let value ← match ← peek with
        | .value =>
          skip
          if endsBlockNode (← peek) then pure absent else read fuel true true
        | _ => pure absent
      return (key, value) :: (← readBlockEntries fuel)
    | .blockEnd => skip; return []
    | _ => throw .unexpectedToken

def readFlowItems (fuel : Nat) (first : Bool) : Read (List Node) :=
  match fuel with
  | 0 => throw .unexpectedToken
  | fuel + 1 => do
    match first, ← peek with
    | _, .flowSequenceEnd => skip; return []
    | false, .flowEntry => skip
    | false, _ => throw .unexpectedToken
    | true, _ => pure ()
    match ← peek with
    | .flowSequenceEnd => skip; return []
    | .key =>
      skip
      let pair ← readPair fuel
      return .mapping Properties.none [pair] :: (← readFlowItems fuel false)
    | _ =>
      let item ← read fuel false false
      return item :: (← readFlowItems fuel false)

/-- Reads the one entry of a mapping written as an item; where its key is not written, the token
that follows is passed too. -/
def readPair (fuel : Nat) : Read (Node × Node) :=
  match fuel with
  | 0 => throw .unexpectedToken
  | fuel + 1 => do
    let key ← match ← peek with
      | .value | .flowEntry | .flowSequenceEnd => skip; pure absent
      | _ => read fuel false false
    let value ← match ← peek with
      | .value =>
        skip
        match ← peek with
        | .flowEntry | .flowSequenceEnd => pure absent
        | _ => read fuel false false
      | _ => pure absent
    return (key, value)

def readFlowEntries (fuel : Nat) (first : Bool) : Read (List (Node × Node)) :=
  match fuel with
  | 0 => throw .unexpectedToken
  | fuel + 1 => do
    match first, ← peek with
    | _, .flowMappingEnd => skip; return []
    | false, .flowEntry => skip
    | false, _ => throw .unexpectedToken
    | true, _ => pure ()
    match ← peek with
    | .flowMappingEnd => skip; return []
    | .key =>
      skip
      let key ← match ← peek with
        | .value | .flowEntry | .flowMappingEnd => pure absent
        | _ => read fuel false false
      let value ← match ← peek with
        | .value =>
          skip
          match ← peek with
          | .flowEntry | .flowMappingEnd => pure absent
          | _ => read fuel false false
        | _ => pure absent
      return (key, value) :: (← readFlowEntries fuel false)
    | _ =>
      let key ← read fuel false false
      return (key, absent) :: (← readFlowEntries fuel false)

end

def standardHandles : List (String × Tag) := [("!", Tag.lone), ("!!", Tag.core "")]

def readDirectives : Nat → Bool → List (String × Tag) → Read (List (String × Tag))
  | 0, _, _ => throw .badDirective
  | fuel + 1, versioned, handles => do
    match ← peek with
    | .versionDirective major minor =>
      if versioned ∨ major ≠ 1 ∨ (minor ≠ 1 ∧ minor ≠ 2) then throw .badDirective
      else skip; readDirectives fuel true handles
    | .tagDirective handle expansion =>
      if (handles.lookup handle).isSome then throw .badDirective
      else skip; readDirectives fuel versioned ((handle, expansion) :: handles)
    | _ => return handles

def readEnd : Nat → Read Unit
  | 0 => throw .severalDocuments
  | fuel + 1 => do
    match ← peek with
    | .documentEnd => skip; readEnd fuel
    | .streamEnd => return ()
    | _ => throw .severalDocuments

def readStream (fuel : Nat) : Read (Option Node) := do
  match ← peek with
  | .streamEnd => return none
  | .versionDirective .. | .tagDirective .. | .documentStart =>
    let handles ← readDirectives fuel false []
    modify fun r => { r with handles := handles ++ standardHandles }
    match ← peek with
    | .documentStart =>
      skip
      let node ← match ← peek with
        | .versionDirective .. | .tagDirective .. | .documentStart | .documentEnd | .streamEnd =>
          pure absent
        | _ => read fuel true false
      readEnd fuel
      return some node
    | _ => throw .unexpectedToken
  | _ =>
    let node ← read fuel true false
    readEnd fuel
    return some node

def ofTokens (tokens : List Token) : Except Error (Option Node) :=
  (readStream (2 * tokens.length + 2)).run' ⟨tokens, [], standardHandles⟩

end Node

end FlutterInstaller.Yaml
