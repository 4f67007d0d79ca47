import StageParity.Decimal.Binary64
import StageParity.Text.Glyph

/-!
# Values

What a document stands for. Mappings keep the order in which keys first came.
-/

namespace StageParity.Yaml

inductive Value where
  | null
  | bool (b : Bool)
  | int (n : Int)
  | float (x : Float)
  | text (t : Text)
  | date (year month day : Nat)
  /-- A date with a time of day, and when that is in millionths of a second, which only a
  zone tells. -/
  | moment (stamp : Text) (instant : Option Int)
  | binary (bytes : List UInt8)
  | list (items : List Value)
  | map (items : List (Value × Value))
  | set (members : List Value)
  /-- A collection that is part of itself. -/
  | knot

instance : Inhabited Value := ⟨.null⟩

namespace Value

def floatIsInt (x : Float) (n : Int) : Bool :=
  match Binary64.ofFloat x with
  | .finite negative m e =>
    let f := Fraction.ofBinary m e
    let size : Int := f.num
    (if negative then -size else size) == n * f.den
  | _ => false

def keyInt? : Value → Option Int
  | .int n => some n
  | .bool b => some (if b then 1 else 0)
  | _ => none

/-- Whether two values are the same key. Numbers are compared by value, whatever their
type, and moments with zones by when they are. -/
def sameKey (a b : Value) : Bool :=
  match a, b with
  | .null, .null => true
  | .text s, .text t => s == t
  | .date y m d, .date y' m' d' => y == y' && m == m' && d == d'
  | .moment _ (some s), .moment _ (some t) => s == t
  | .moment s none, .moment t none => s == t
  | .binary s, .binary t => s == t
  | .float x, .float y => x == y
  | .float x, other | other, .float x => other.keyInt?.any (floatIsInt x)
  | a, b =>
    match a.keyInt?, b.keyInt? with
    | some m, some n => m == n
    | _, _ => false

end Value

/-- A mapping with a pair put in. A key that is there keeps its place and its form. -/
def insertPair (items : List (Value × Value)) (key item : Value) : List (Value × Value) :=
  if items.any fun pair => pair.1.sameKey key then
    items.map fun pair => if pair.1.sameKey key then (pair.1, item) else pair
  else items ++ [(key, item)]

def mapOf (pairs : List (Value × Value)) : List (Value × Value) :=
  pairs.foldl (fun items pair => insertPair items pair.1 pair.2) []

end StageParity.Yaml
