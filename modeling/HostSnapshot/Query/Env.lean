import HostSnapshot.Query.Order
import HostSnapshot.Query.Results
import HostSnapshot.Query.Syntax

namespace HostSnapshot.Query

/-- The place that a query has reached, last key first, and the value there. -/
structure Trail where
  keys : List Value
  here : Value
  /-- Whether the value passed on is that very value, and not another one that was computed. -/
  isSelected : Bool

def Trail.path (t : Trail) : List Value := t.keys.reverse

def Trail.isSamePlace (t u : Trail) : Bool := (Value.array t.keys).isEqual (.array u.keys)

structure Item where
  value : Value
  trail : Option Trail

namespace Item

def ofValue (v : Value) : Item := ⟨v, none⟩

def root (v : Value) : Item := ⟨v, some ⟨[], v, true⟩⟩

def untraced (x : Item) : Item := ofValue x.value

/-- Values without parts that cannot be told apart. -/
def areIdentical : Value → Value → Bool
  | .null, .null => true
  | .bool a, .bool b => a == b
  | .number a, .number b =>
    a.written.isNone && b.written.isNone && a.value.toBits == b.value.toBits
  | _, _ => false

def computed (x : Item) (v : Value) : Item :=
  ⟨v, x.trail.map fun t => { t with isSelected := areIdentical v t.here }⟩

/-- A value that comes from elsewhere, at a place. It is selected there if that is where it comes
from. -/
def placedAt (place : Option Trail) (x : Item) : Item :=
  ⟨x.value, place.map fun t =>
    let isFromHere := x.trail.any fun u => u.isSelected && u.isSamePlace t
    { t with isSelected := isFromHere || areIdentical x.value t.here }⟩

/-- Whether a key can be followed from here: always, unless a path is asked for and the value is not
the one at its end. -/
def isOnPath (x : Item) : Bool := x.trail.all (·.isSelected)

def selected (x : Item) (path : List Value) (v : Value) : Item :=
  ⟨v, x.trail.map fun t => ⟨path.reverse ++ t.keys, v, true⟩⟩

end Item

inductive Env
  | empty
  | variable (name : String) (x : Item) (outer : Env)
  | function (name : String) (parameters : List String) (definition : Expr) (outer : Env)
  | argument (name : String) (e : Expr) (known outer : Env)
  | label (name : String) (label : Label) (outer : Env)

namespace Env

def depth : Env → Nat
  | .empty => 0
  | .variable _ _ outer => outer.depth + 1
  | .function _ _ _ outer => outer.depth + 1
  | .argument _ _ _ outer => outer.depth + 1
  | .label _ _ outer => outer.depth + 1

def itemOf? (name : String) : Env → Option Item
  | .empty => none
  | .variable x v outer => if x = name then some v else outer.itemOf? name
  | .function _ _ _ outer => outer.itemOf? name
  | .argument _ _ _ outer => outer.itemOf? name
  | .label _ _ outer => outer.itemOf? name

def labelOf? (name : String) : Env → Option Label
  | .empty => none
  | .variable _ _ outer => outer.labelOf? name
  | .function _ _ _ outer => outer.labelOf? name
  | .argument _ _ _ outer => outer.labelOf? name
  | .label x l outer => if x = name then some l else outer.labelOf? name

def functions : Env → List (String × Nat)
  | .empty => []
  | .variable _ _ outer => outer.functions
  | .function f xs _ outer => (f, xs.length) :: outer.functions
  | .argument x _ _ outer => (x, 0) :: outer.functions
  | .label _ _ outer => outer.functions

/-- Gives names to the arguments of a function, which are known where the call is written. -/
def bindArguments (known : Env) : List String → List Expr → Env → Env
  | x :: xs, e :: es, env => bindArguments known xs es (.argument x e known env)
  | _, _, env => env

/-- The query that a call stands for, and what the names in it stand for. -/
def calleeOf? (known : Env) (name : String) (arguments : List Expr) : Env → Option (Env × Expr)
  | .empty => none
  | .variable _ _ outer => calleeOf? known name arguments outer
  | .function f xs e outer =>
    if f = name ∧ xs.length = arguments.length then
      some (bindArguments known xs arguments (.function f xs e outer), e)
    else calleeOf? known name arguments outer
  | .argument x e origin outer =>
    if x = name ∧ arguments.isEmpty then some (origin, e) else calleeOf? known name arguments outer
  | .label _ _ outer => calleeOf? known name arguments outer

end Env

end HostSnapshot.Query
