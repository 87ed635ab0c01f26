import HostSnapshot.Json.Basic
import HostSnapshot.Number.Shortest
import HostSnapshot.Query.Numeral

namespace HostSnapshot.Query

inductive Value
  | null
  | bool (b : Bool)
  | number (n : Numeral)
  | text (s : String)
  | array (items : List Value)
  | object (members : List (String × Value))

instance : Inhabited Value := ⟨.null⟩

abbrev Members := List (String × Value)

namespace Members

def get? (ms : Members) (key : String) : Option Value := ms.lookup key

def set : Members → String → Value → Members
  | [], key, v => [(key, v)]
  | (k, w) :: rest, key, v => if k = key then (k, v) :: rest else (k, w) :: set rest key v

def erase (ms : Members) (key : String) : Members := ms.filter (·.1 ≠ key)

def keys (ms : Members) : List String := ms.map (·.1)

end Members

namespace Value

def isTruthy : Value → Bool
  | null => false
  | bool b => b
  | _ => true

def kind : Value → String
  | null => "null"
  | bool _ => "boolean"
  | number _ => "number"
  | text _ => "string"
  | array _ => "array"
  | object _ => "object"

/-- Kinds in their order; each flag is a kind of its own. -/
def rank : Value → Nat
  | null => 0
  | bool false => 1
  | bool true => 2
  | number _ => 3
  | text _ => 4
  | array _ => 5
  | object _ => 6

def ofFloat (x : Float) : Value := .number (.ofFloat x)

def ofNat (n : Nat) : Value := .number (.ofNat n)

def ofChars (s : List Char) : Value := .text (String.ofList s)

def emptyObject : Value := .object []

mutual

/-- A JSON value as a query sees it: all its numbers are written down. -/
def ofJson : Json → Value
  | .null => .null
  | .bool b => .bool b
  | .int n => .number (.ofInt n)
  | .float x => match (Number.Layout.plain.text? x).bind Number.Decimal.ofChars? with
    | some d => .number (.ofDecimal d)
    | none => .number (.ofFloat x)
  | .str s => .text s
  | .arr items => .array (ofItems items)
  | .obj members => .object (ofMembers members)

def ofItems : List Json → List Value
  | [] => []
  | v :: vs => ofJson v :: ofItems vs

def ofMembers : List (String × Json) → List (String × Value)
  | [] => []
  | (k, v) :: ms => (k, ofJson v) :: ofMembers ms

end

/-- A double as JSON: whole ones are integers, and what is not a number is null. -/
def floatJson (x : Float) : Json :=
  if x.isNaN then .null
  else if Numeral.largest ≤ x.abs then .float (Numeral.finite x)
  else match Number.integer? x with
    | some n => .int n
    | none => .float x

def numberJson (n : Numeral) : Json :=
  match n.writtenInt? with
  | some i => .int i
  | none => floatJson n.value

mutual

def toJson : Value → Json
  | null => .null
  | bool b => .bool b
  | number n => numberJson n
  | text s => .str s
  | array items => .arr (toItems items)
  | object members => .obj (toMembers members)

def toItems : List Value → List Json
  | [] => []
  | v :: vs => toJson v :: toItems vs

def toMembers : List (String × Value) → List (String × Json)
  | [] => []
  | (k, v) :: ms => (k, toJson v) :: toMembers ms

end

end Value

end HostSnapshot.Query
