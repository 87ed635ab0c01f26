import HostSnapshot.Query.Access
import HostSnapshot.Query.JsonText
import HostSnapshot.Text.Basic

namespace HostSnapshot.Query.Value

open Answer

/-- How many characters, items or members there are. The length of a number is its magnitude. -/
def length : Value → Answer Value
  | null => .ok (ofNat 0)
  | number n => .ok (.number n.magnitude)
  | text s => .ok (ofNat s.length)
  | array items => .ok (ofNat items.length)
  | object members => .ok (ofNat (List.length members))
  | v => refuseOne v "has no length"

def byteLength : Value → Answer Value
  | text s => .ok (ofNat s.utf8ByteSize)
  | v => refuseOne v "only strings have UTF-8 byte length"

def toJsonText (v : Value) : Value := ofChars v.dump

def fromJsonText : Value → Answer Value
  | text s => JsonText.ofText s
  | v => refuseOne v "only strings can be parsed"

def toNumber : Value → Answer Value
  | number n => .ok (.number n)
  | text s => match JsonText.numberOf? s.toList with
    | some n => .ok (.number n)
    | none => refuseOne (.text s) "cannot be parsed as a number"
  | v => refuseOne v "cannot be parsed as a number"

def explode : Value → Answer Value
  | text s => .ok (.array (s.toList.map fun c => ofNat c.toNat))
  | _ => refuse "explode input must be a string"

/-- The character with a code point; what is none is replaced. -/
def charOf (n : Int) : Char :=
  if n < 0 ∨ 0x10ffff < n ∨ (0xd800 ≤ n ∧ n ≤ 0xdfff) then '\uFFFD' else Char.ofNat n.toNat

def codePoint : Value → Answer Char
  | number n =>
    if n.isNaN then refuse "Unicode codepoint must be numeric"
    else .ok (charOf (Numeral.toIndex n.value))
  | _ => refuse "Unicode codepoint must be numeric"

def implode : Value → Answer Value
  | array items => do return ofChars (← items.mapM codePoint)
  | _ => refuse "implode input must be an array"

def real : Value → Answer Float
  | number n => .ok n.value
  | v => refuseOne v "number required"

def ofReal (f : Float → Float) (v : Value) : Answer Value := do return ofFloat (f (← v.real))

def testReal (p : Float → Bool) (v : Value) : Answer Value := do return .bool (p (← v.real))

def leastNormal : Float := Float.ofBits 0x0010000000000000

def isNormal (x : Float) : Bool := x.isFinite && leastNormal ≤ x.abs

def power (_ base exponent : Value) : Answer Value := do
  return ofFloat ((← base.real).pow (← exponent.real))

def isSpace (c : Char) : Bool := Text.isBlank c && !(0x1c ≤ c.toNat && c.toNat ≤ 0x1f)

def dropFront (s : List Char) : List Char := s.dropWhile isSpace

def dropBack (s : List Char) : List Char := (dropFront s.reverse).reverse

def trimmed (trim : List Char → List Char) : Value → Answer Value
  | text s => .ok (ofChars (trim s.toList))
  | _ => refuse "trim input must be a string"

def startsWith : Value → Value → Answer Value
  | text s, text start => .ok (.bool (start.toList.isPrefixOf s.toList))
  | _, _ => refuse "startswith() requires string inputs"

def endsWith : Value → Value → Answer Value
  | text s, text ending => .ok (.bool (ending.toList.isSuffixOf s.toList))
  | _, _ => refuse "endswith() requires string inputs"

def split : Value → Value → Answer Value
  | text s, text separator => .ok (.array ((splitText separator s).map .text))
  | _, _ => refuse "split input and separator must be strings"

def positions (needle : List Char) : (start : Nat) → List Char → List Nat
  | _, [] => []
  | start, c :: s =>
    let rest := positions needle (start + 1) s
    if !needle.isEmpty && needle.isPrefixOf (c :: s) then start :: rest else rest

def textPositions : Value → Value → Answer Value
  | text s, text needle => .ok (.array ((positions needle.toList 0 s.toList).map ofNat))
  | text _, _ => refuse "_strindices argument must be a string"
  | _, _ => refuse "_strindices input must be a string"

def keysValue (v : Value) : Answer Value := v.keys.map .array

def keysUnsortedValue (v : Value) : Answer Value := v.keysUnsorted.map .array

def hasKey (v key : Value) : Answer Value := (v.has key).map .bool

def containsValue (v part : Value) : Answer Value :=
  if v.rank = part.rank then .ok (.bool (v.contains part))
  else refuseTwo v part "cannot have their containment checked"

def setPathValue (v path new : Value) : Answer Value := do
  v.setPath (← pathOf path) new

def sort : Value → Answer Value
  | array items => .ok (.array ((sortByKey (items.map fun v => (v, v))).map (·.2)))
  | v => refuseOne v "cannot be sorted, as it is not an array"

/-- The items of an array with the keys that another array has for them, in order of the keys. -/
def keyed (what : String) (v keys : Value) : Answer (List (Value × Value)) :=
  let refused := refuseTwo v keys s!"cannot be {what}, as they are not both arrays"
  match v, keys with
  | array items, array keys =>
    if items.length = keys.length then .ok (sortByKey (keys.zip items)) else refused
  | _, _ => refused

def sortBy (v keys : Value) : Answer Value := do
  return .array ((← keyed "sorted" v keys).map (·.2))

def groupBy (v keys : Value) : Answer Value := do
  return .array ((groupNeighbours (← keyed "grouped" v keys)).map fun g => .array g.2)

def uniqueBy (v keys : Value) : Answer Value := do
  return .array ((groupNeighbours (← keyed "grouped" v keys)).filterMap fun g => g.2.head?)

def unique : Value → Answer Value
  | array items => uniqueBy (.array items) (.array items)
  | v => refuseOne v "cannot be sorted, as it is not an array"

/-- The item whose key comes before that of each other item, as `replaces` tells. -/
def extreme (replaces : Ordering → Bool) (v keys : Value) : Answer Value :=
  match v, keys with
  | array items, array keys =>
    if items.length ≠ keys.length then refuseTwo v (.array keys) "have wrong length"
    else match keys.zip items with
      | [] => .ok null
      | p :: ps =>
        .ok (ps.foldl (fun best p => if replaces (compare p.1 best.1) then p else best) p).2
  | _, _ => refuseTwo v keys "cannot be iterated over"

/-- The first one of the least items. -/
def minBy : Value → Value → Answer Value := extreme (· = .lt)

/-- The last one of the greatest items. -/
def maxBy : Value → Value → Answer Value := extreme (· ≠ .lt)

end HostSnapshot.Query.Value
