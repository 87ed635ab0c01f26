import HostSnapshot.Query.Dump
import HostSnapshot.Query.Order
import HostSnapshot.Text.Basic

namespace HostSnapshot.Query

open Answer

def splitAt (separator : List Char) (s : List Char) : List (List Char) :=
  match s with
  | [] => [[]]
  | c :: rest =>
    if separator.isPrefixOf (c :: rest) then
      [] :: splitAt separator (rest.drop (separator.length - 1))
    else match splitAt separator rest with
      | [] => [[c]]
      | w :: ws => (c :: w) :: ws
termination_by s.length
decreasing_by all_goals simp only [List.length_drop, List.length_cons]; omega

/-- An empty text has no parts, and an empty separator stands between any two characters. -/
def splitText (separator s : String) : List String :=
  match s.toList, separator.toList with
  | [], _ => []
  | cs, [] => cs.map (String.ofList [·])
  | cs, sep => (splitAt sep cs).map String.ofList

namespace Members

def merge (ms other : Members) : Members := other.foldl (fun ms (k, v) => ms.set k v) ms

end Members

namespace Value

mutual

/-- Merges objects in objects as well. -/
def mergeDeep : Value → Value → Value
  | object ms, object others => .object (mergeMembers ms others)
  | _, w => w

def mergeMembers (ms : Members) : List (String × Value) → Members
  | [] => ms
  | (k, w) :: others =>
    let merged := match ms.get? k with
      | some v => mergeDeep v w
      | none => w
    mergeMembers (ms.set k merged) others

end

def add : Value → Value → Answer Value
  | null, w => .ok w
  | v, null => .ok v
  | number a, number b => .ok (ofFloat (a.value + b.value))
  | text s, text t => .ok (.text (s ++ t))
  | array as, array bs => .ok (.array (as ++ bs))
  | object ms, object others => .ok (.object (Members.merge ms others))
  | v, w => refuseTwo v w "cannot be added"

def subtract : Value → Value → Answer Value
  | number a, number b => .ok (ofFloat (a.value - b.value))
  | array as, array bs => .ok (.array (as.filter fun a => !bs.any (isEqual a)))
  | v, w => refuseTwo v w "cannot be subtracted"

def longestRepeat : Nat := 2147483647

/-- Repeats a text; a negative number of times is null. -/
def repeatText (s : String) (times : Float) : Answer Value :=
  if times < 0 || times.isNaN then .ok .null
  else
    let n := (Numeral.toIndex times).toNat
    if longestRepeat < s.utf8ByteSize * n then refuse "Repeat string result too long"
    else .ok (.text (String.join (List.replicate n s)))

def multiply : Value → Value → Answer Value
  | number a, number b => .ok (ofFloat (a.value * b.value))
  | text s, number n => repeatText s n.value
  | number n, text s => repeatText s n.value
  | object ms, object others => .ok (mergeDeep (.object ms) (.object others))
  | v, w => refuseTwo v w "cannot be multiplied"

def divide : Value → Value → Answer Value
  | number a, number b =>
    if b.value == 0 then
      refuseTwo (.number a) (.number b) "cannot be divided because the divisor is zero"
    else .ok (ofFloat (a.value / b.value))
  | text s, text t => .ok (.array ((splitText t s).map .text))
  | v, w => refuseTwo v w "cannot be divided"

/-- Operands of a remainder are cut to integers of 64 bits. -/
def toWide (x : Float) : Int := Numeral.clamped (-9223372036854775808) 9223372036854775807 x

/-- The remainder has the sign of the dividend. -/
def remainder : Value → Value → Answer Value
  | number a, number b =>
    if a.isNaN || b.isNaN then .ok (ofFloat (0.0 / 0.0))
    else if toWide b.value = 0 then
      refuseTwo (.number a) (.number b) "cannot be divided (remainder) because the divisor is zero"
    else .ok (ofFloat (Float.ofInt ((toWide a.value).tmod (toWide b.value))))
  | v, w => refuseTwo v w "cannot be divided (remainder)"

def negate : Value → Answer Value
  | number n => .ok (.number n.negate)
  | v => refuseOne v "cannot be negated"

mutual

/-- Whether a value contains another one: a text a part of it, an array what its items contain, an
object what its members contain. -/
def contains : Value → Value → Bool
  | object ms, object others => containsMembers ms others
  | array as, array bs => containsItems as bs
  | text s, text t => Text.occurs t.toList s.toList
  | v, w => v.rank = w.rank && isEqual v w

def containsItems (as : List Value) : List Value → Bool
  | [] => true
  | b :: bs => (as.any fun a => contains a b) && containsItems as bs

def containsMembers (ms : Members) : List (String × Value) → Bool
  | [] => true
  | (k, w) :: others =>
    (match ms.get? k with
      | some v => contains v w
      | none => false) && containsMembers ms others

end

end Value

end HostSnapshot.Query
