import FlutterInstaller.Yaml.TokenStream
import FlutterInstaller.Yaml.Node
import FlutterInstaller.Yaml.Scalar

/-!
From the tree of a document to its value. An alias stands for the whole of what its anchor marks;
how often aliases may be followed and how deep collections may nest is bounded, so that a document
that contains itself is refused.
-/
namespace FlutterInstaller.Yaml

namespace Node

mutual

def anchored : Node → List (Nat × Node)
  | .alias _ => []
  | .scalar p t b => marked p (.scalar p t b)
  | .sequence p items => marked p (.sequence p items) ++ anchoredItems items
  | .mapping p entries => marked p (.mapping p entries) ++ anchoredEntries entries

def marked (p : Properties) (n : Node) : List (Nat × Node) :=
  match p.anchor with
  | some number => [(number, n)]
  | none => []

def anchoredItems : List Node → List (Nat × Node)
  | [] => []
  | n :: ns => anchored n ++ anchoredItems ns

def anchoredEntries : List (Node × Node) → List (Nat × Node)
  | [] => []
  | (k, v) :: es => anchored k ++ anchored v ++ anchoredEntries es

end

mutual

def size : Node → Nat
  | .alias _ => 1
  | .scalar .. => 1
  | .sequence _ items => 2 + sizeItems items
  | .mapping _ entries => 2 + sizeEntries entries

def sizeItems : List Node → Nat
  | [] => 0
  | n :: ns => size n + sizeItems ns

def sizeEntries : List (Node × Node) → Nat
  | [] => 0
  | (k, v) :: es => size k + size v + sizeEntries es

end

end Node

namespace Value

/-- What the numbers of anchors stand for, where the last one set counts, and how many more aliases
may be followed. -/
structure Anchors where
  nodes : List (Nat × Node)
  budget : Nat

abbrev Build := StateT Anchors (Except Error)

def follow (n : Node) : Build Node := do
  match n with
  | .alias number =>
    let a ← get
    match a.budget with
    | 0 => throw .tooManyAliases
    | budget + 1 =>
      set { a with budget := budget }
      match a.nodes.lookup number with
      | some target => return target
      | none => throw .unknownAnchor
  | n => return n

def wrap (tag : Option Tag) (v : Value) : Value :=
  match tag.bind Tag.name? with
  | some name => .tagged name v
  | none => v

def ofScalar (p : Properties) (text : String) (plain : Bool) : Except Error Value :=
  match p.tag.filter (!·.isLocal) with
  | some tag => Scalar.underTag tag text
  | none => (if plain then Scalar.plain text else .ok (.string text)).map (wrap p.tag)

/-- Builds the values of entries whose keys differ from those before them. -/
def buildEntries (build : Node → Build Value) :
    List Value → List (Node × Node) → Build (List (Value × Value))
  | _, [] => return []
  | seen, (k, v) :: rest => do
    let key ← build k
    if seen.any (same key) then throw .repeatedKey
    else
      let value ← build v
      return (key, value) :: (← buildEntries build (key :: seen) rest)

def build : Nat → Node → Build Value
  | 0, n => do
    match ← follow n with
    | .alias _ => throw .unknownAnchor
    | .scalar p text plain => (ofScalar p text plain : Except Error Value)
    | _ => throw .nestedTooDeep
  | depth + 1, n => do
    match ← follow n with
    | .alias _ => throw .unknownAnchor
    | .scalar p text plain => (ofScalar p text plain : Except Error Value)
    | .sequence p items => return wrap p.tag (.sequence (← items.mapM (build depth)))
    | .mapping p entries =>
      return wrap p.tag (.mapping (← buildEntries (build depth) [] entries))

def nestingLimit : Nat := 128

def ofNode (n : Node) : Except Error Value :=
  (build nestingLimit n).run' ⟨n.anchored.reverse, 100 * n.size⟩

def ofText (s : String) : Except Error Value := do
  let tokens ← Token.ofText s
  match ← Node.ofTokens tokens with
  | some n => ofNode n
  | none => .ok .null

end Value

end FlutterInstaller.Yaml
