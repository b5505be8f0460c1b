import FlutterInstaller.Decimal.Binary64

/-!
The values of a document. Mappings keep their entries in document order; a tag of the document's
own wraps the value it stands before, and looking up a key looks through such tags.
-/
namespace FlutterInstaller.Yaml

inductive Value
  | null
  | bool (b : Bool)
  | int (n : Int)
  | float (x : Binary64)
  | string (s : String)
  | sequence (items : List Value)
  | mapping (entries : List (Value × Value))
  | tagged (name : String) (value : Value)
  deriving Inhabited

namespace Value

def untag : Value → Value
  | tagged _ v => v.untag
  | v => v

def isString (s : String) : Value → Bool
  | string t => s == t
  | _ => false

def get? (v : Value) (key : String) : Option Value :=
  match v.untag with
  | mapping entries => (entries.find? fun e => e.1.isString key).map (·.2)
  | _ => none

def isMapping (v : Value) : Bool :=
  match v.untag with
  | mapping _ => true
  | _ => false

def isNull (v : Value) : Bool :=
  match v.untag with
  | null => true
  | _ => false

def string? (v : Value) : Option String :=
  match v.untag with
  | string s => some s
  | _ => none

mutual

/-- Whether two values are the same key: the order of the entries of a mapping does not count, and
numbers are compared by value. -/
def same : Value → Value → Bool
  | null, null => true
  | bool a, bool b => a == b
  | int a, int b => a == b
  | float a, float b => a.same b
  | string a, string b => a == b
  | sequence a, sequence b => sameItems a b
  | mapping a, mapping b => a.length == b.length && sameEntries a b
  | tagged s a, tagged t b => s == t && same a b
  | _, _ => false

def sameItems : List Value → List Value → Bool
  | [], [] => true
  | a :: as, b :: bs => same a b && sameItems as bs
  | _, _ => false

def sameEntries : List (Value × Value) → List (Value × Value) → Bool
  | [], _ => true
  | e :: es, other => (other.any fun f => sameEntry e f) && sameEntries es other

def sameEntry : Value × Value → Value × Value → Bool
  | (k, v), (l, w) => same k l && same v w

end

end Value

end FlutterInstaller.Yaml
