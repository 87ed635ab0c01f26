import HostSnapshot.Query.Value

namespace HostSnapshot.Query

namespace Members

def byKey (ms : Members) : Members := ms.mergeSort fun a b => a.1 ≤ b.1

def sortedKeys (ms : Members) : List String := ms.byKey.keys

end Members

namespace Value

mutual

/-- The value with the members of all objects in it sorted by key. -/
def sorted : Value → Value
  | array items => .array (sortedItems items)
  | object members => .object (Members.byKey (sortedMembers members))
  | v => v

def sortedItems : List Value → List Value
  | [] => []
  | v :: vs => v.sorted :: sortedItems vs

def sortedMembers : List (String × Value) → List (String × Value)
  | [] => []
  | (k, v) :: ms => (k, v.sorted) :: sortedMembers ms

end

mutual

def compareSorted : Value → Value → Ordering
  | number a, number b => a.compare b
  | text a, text b => Ord.compare a b
  | array as, array bs => compareItems as bs
  | object as, object bs =>
    (Ord.compare (Members.keys as) (Members.keys bs)).then (compareMembers as bs)
  | a, b => Ord.compare a.rank b.rank

/-- Compares item by item; what ends first comes first. -/
def compareItems : List Value → List Value → Ordering
  | [], [] => .eq
  | [], _ :: _ => .lt
  | _ :: _, [] => .gt
  | a :: as, b :: bs => (compareSorted a b).then (compareItems as bs)

def compareMembers : List (String × Value) → List (String × Value) → Ordering
  | (_, a) :: as, (_, b) :: bs => (compareSorted a b).then (compareMembers as bs)
  | _, _ => .eq

end

def compare (a b : Value) : Ordering := compareSorted a.sorted b.sorted

def isEqual (a b : Value) : Bool := compare a b = .eq

/-- Sorts by a key; what has equal keys keeps its order. -/
def sortByKey (pairs : List (Value × Value)) : List (Value × Value) :=
  pairs.mergeSort fun a b => compare a.1 b.1 ≠ .gt

def groupNeighbours : List (Value × Value) → List (Value × List Value)
  | [] => []
  | (k, v) :: rest => match groupNeighbours rest with
    | [] => [(k, [v])]
    | (l, ws) :: groups =>
      if isEqual k l then (k, v :: ws) :: groups else (k, [v]) :: (l, ws) :: groups

end Value

end HostSnapshot.Query
