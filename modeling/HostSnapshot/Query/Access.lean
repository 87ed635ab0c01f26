import HostSnapshot.Query.Arithmetic

namespace HostSnapshot.Query

open Answer

namespace Slice

def key (start stop : Value) : Value := .object [("start", start), ("end", stop)]

def bound? (default : Float) (length : Nat) : Option Value → Option Float
  | some .null => some default
  | some (.number n) =>
    let x := if n.isNaN then default else n.value
    some (if x < 0 then x + length.toFloat else x)
  | _ => none

/-- The start and the end of a slice in a sequence of some length. A start is rounded down and an
end up. -/
def bounds? (length : Nat) (slice : Members) : Option (Nat × Nat) := do
  let start ← bound? 0 length (slice.get? "start")
  let stop ← bound? length.toFloat length (slice.get? "end")
  let first := min (Numeral.toIndex start).toNat length
  let last := min (Numeral.toIndex stop.ceil).toNat length
  return (first, max first last)

def take (bounds : Nat × Nat) (items : List α) : List α :=
  (items.take bounds.2).drop bounds.1

def replace (bounds : Nat × Nat) (items new : List α) : List α :=
  items.take bounds.1 ++ new ++ items.drop bounds.2

end Slice

namespace Value

def refuseSlice : Answer α := refuse "Start and end indices of an array slice must be numbers"

/-- The position that a number means in a sequence of some length; negative ones count from the
end. -/
def position (length : Nat) (n : Numeral) : Int :=
  let i := Numeral.toIndex n.value
  if i < 0 then i + length else i

def item? (items : List Value) (n : Numeral) : Option Value :=
  if n.isNaN then none
  else
    let i := position items.length n
    if i < 0 then none else items[i.toNat]?

def occurrences (needle : List Value) : (start : Nat) → List Value → List Nat
  | _, [] => []
  | start, a :: as =>
    let here := !needle.isEmpty && startsWith needle (a :: as)
    (if here then [start] else []) ++ occurrences needle (start + 1) as
where
  startsWith : List Value → List Value → Bool
    | [], _ => true
    | _ :: _, [] => false
    | b :: bs, a :: as => isEqual a b && startsWith bs as

def index : Value → Value → Answer Value
  | object ms, text key => .ok ((Members.get? ms key).getD .null)
  | array items, number n => .ok ((item? items n).getD .null)
  | array items, object slice => match Slice.bounds? items.length slice with
    | some bounds => .ok (.array (Slice.take bounds items))
    | none => refuseSlice
  | text s, object slice => match Slice.bounds? s.length slice with
    | some bounds => .ok (ofChars (Slice.take bounds s.toList))
    | none => refuse "Start and end indices of an string slice must be numbers"
  | array as, array bs => .ok (.array ((occurrences bs 0 as).map ofNat))
  | null, text _ => .ok .null
  | null, number _ => .ok .null
  | null, object _ => .ok .null
  | v, k => refuse s!"Cannot index {v.kind} with {k.describe}"

def longestArray : Int := 536870911

/-- Replaces an item; items that are skipped are null. -/
def setItem (items : List Value) (n : Numeral) (v : Value) : Answer Value :=
  if n.isNaN then refuse "Cannot set array element at NaN index"
  else
    let i := position items.length n
    if i < 0 then refuse "Out of bounds negative array index"
    else if longestArray < i then refuse "Array index too large"
    else
      let i := i.toNat
      let padding := List.replicate (i - items.length) Value.null
      .ok (.array (items.take i ++ padding ++ v :: items.drop (i + 1)))

def setSlice (items : List Value) (slice : Members) (v : Value) : Answer Value :=
  match Slice.bounds? items.length slice, v with
  | none, _ => refuseSlice
  | some bounds, array new => .ok (.array (Slice.replace bounds items new))
  | some _, _ => refuse "A slice of an array can only be assigned another array"

/-- Replaces what a key selects. Null counts as what the key asks for. -/
def set (v k new : Value) : Answer Value :=
  match v, k with
  | object ms, text key => .ok (.object (Members.set ms key new))
  | null, text key => .ok (.object [(key, new)])
  | array items, number n => setItem items n new
  | null, number n => setItem [] n new
  | array items, object slice => setSlice items slice new
  | null, object slice => setSlice [] slice new
  | text _, object _ => refuse "Cannot update string slices"
  | v, object _ => refuse s!"Cannot update field at object index of {v.kind}"
  | v, array _ => refuse s!"Cannot update field at array index of {v.kind}"
  | v, k => refuse s!"Cannot index {v.kind} with {k.describe}"

def has : Value → Value → Answer Bool
  | null, _ => .ok false
  | object ms, text key => .ok (Members.get? ms key).isSome
  | array items, number n =>
    let i := Numeral.toIndex n.value
    .ok (!n.isNaN && 0 ≤ i && i < items.length)
  | v, k => refuse s!"Cannot check whether {v.kind} has a {k.kind} key"

def keys : Value → Answer (List Value)
  | object ms => .ok ((Members.sortedKeys ms).map .text)
  | array items => .ok ((List.range items.length).map ofNat)
  | v => refuseOne v "has no keys"

def keysUnsorted : Value → Answer (List Value)
  | object ms => .ok ((Members.keys ms).map .text)
  | v => v.keys

def parts? : Value → Option (List (Value × Value))
  | array items => some (items.zipIdx.map fun (v, i) => (ofNat i, v))
  | object ms => some (ms.map fun (k, v) => (.text k, v))
  | _ => none

/-- What a path selects. There is nothing in null. -/
def getPath (v : Value) : (path : List Value) → Answer Value
  | [] => .ok v
  | k :: path => match v with
    | null => .ok .null
    | v => do getPath (← v.index k) path

def setPath (v : Value) (path : List Value) (new : Value) : Answer Value :=
  match path with
  | [] => .ok new
  | k :: path => do
    let part ← v.index k
    match k with
    | object _ => v.set k (← setPath part path new)
    | _ =>
      let _ ← v.set k .null
      v.set k (← setPath part path new)

/-- A key in an array: a position or a slice. -/
inductive Target
  | position (i : Int)
  | slice (bounds : Nat × Nat)

def Target.covers (i : Nat) : Target → Bool
  | position j => j = i
  | slice bounds => bounds.1 ≤ i && i < bounds.2

def target (length : Nat) : Value → Answer Target
  | number n => .ok (.position (position length n))
  | object slice => match Slice.bounds? length slice with
    | some bounds => .ok (.slice bounds)
    | none => refuseSlice
  | _ => refuse "Cannot delete field at object index of array"

def deleteKeys (v : Value) (keys : List Value) : Answer Value :=
  if keys.isEmpty then .ok v
  else match v with
    | null => .ok .null
    | array items => do
      let targets ← keys.mapM (target items.length)
      let kept := items.zipIdx.filter fun (_, i) => !targets.any (Target.covers i)
      return .array (kept.map (·.1))
    | object ms => do
      let names ← keys.mapM fun
        | text key => .ok key
        | _ => refuse "Cannot delete field at array index of object"
      return .object (names.foldl Members.erase ms)
    | v => refuse s!"Cannot delete fields from {v.kind}"

/-- Puts neighbouring paths with the same first key together. -/
def groupByHead : List (List Value) → List (Value × List (List Value))
  | [] => []
  | [] :: paths => groupByHead paths
  | (k :: path) :: paths => match groupByHead paths with
    | [] => [(k, [path])]
    | (l, group) :: groups =>
      if isEqual k l then (k, path :: group) :: groups else (k, [path]) :: (l, group) :: groups

/-- Takes away what paths select; the paths are sorted, and `depth` bounds their length. -/
def deleteSorted : (depth : Nat) → Value → List (List Value) → Answer Value
  | 0, v, _ => .ok v
  | depth + 1, v, paths => do
    let groups := groupByHead paths
    let whole (group : List (List Value)) : Bool := (group.head?.getD []).isEmpty
    let v ← (groups.filter fun g => !whole g.2).foldlM (fun v (k, group) => do
      match ← v.index k with
      | null => return v
      | part => v.set k (← deleteSorted depth part group)) v
    v.deleteKeys ((groups.filter fun g => whole g.2).map (·.1))

def pathOf : Value → Answer (List Value)
  | array path => .ok path
  | _ => refuse "Path must be specified as an array"

def deletePaths (v : Value) : Value → Answer Value
  | array paths => do
    let sorted := (sortByKey (paths.map fun p => (p, p))).map (·.1)
    let paths ← sorted.mapM pathOf
    match paths with
    | [] => return v
    | [] :: _ => return .null
    | _ => v.deleteSorted ((paths.map List.length).foldl max 0) paths
  | _ => refuse "Paths must be specified as an array"

end Value

end HostSnapshot.Query
