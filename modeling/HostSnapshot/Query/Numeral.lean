import HostSnapshot.Number.Decimal

namespace HostSnapshot.Query

open Number (Decimal Layout)

structure Numeral where
  value : Float
  written : Option Decimal

namespace Numeral

def ofFloat (x : Float) : Numeral := ⟨x, none⟩

def ofDecimal (d : Decimal) : Numeral := ⟨d.toFloat, some d⟩

def ofInt (n : Int) : Numeral := ofDecimal (Decimal.ofInt n)

/-- A number that was counted, not written. -/
def ofNat (n : Nat) : Numeral := ofFloat n.toFloat

def isNaN (n : Numeral) : Bool := n.value.isNaN

def largest : Float := Float.ofScientific 17976931348623157 false 292

def finite (x : Float) : Float :=
  if largest < x then largest else if x < -largest then -largest else x

def chars (n : Numeral) : List Char :=
  match n.written with
  | some d => d.text
  | none => (Layout.spread.text? (finite n.value)).getD ['n', 'u', 'l', 'l']

def negate (n : Numeral) : Numeral :=
  match n.written with
  | some d => ofDecimal d.negate
  | none => ofFloat (-n.value)

def magnitude (n : Numeral) : Numeral :=
  match n.written with
  | some d => ofDecimal { d with negative := false }
  | none => ofFloat n.value.abs

/-- What is not a number comes before all numbers. -/
def compare (a b : Numeral) : Ordering :=
  if a.isNaN then .lt
  else if b.isNaN then .gt
  else match a.written, b.written with
    | some d, some e => d.compare e
    | _, _ => if a.value < b.value then .lt else if a.value == b.value then .eq else .gt

/-- The integer that was written, if it is one that every double near it can be told from. -/
def writtenInt? (n : Numeral) : Option Int :=
  n.written.bind fun d =>
    if d.exponent = 0 ∧ d.coefficient ≤ 9007199254740992 then
      some (if d.negative then -(d.coefficient : Int) else d.coefficient)
    else none

def whole? (x : Float) : Option Int :=
  (Number.parts? x).map fun p =>
    let n : Nat :=
      if 0 ≤ p.exponent then p.mantissa * Nat.pow 2 p.exponent.toNat
      else p.mantissa / Nat.pow 2 (-p.exponent).toNat
    if p.negative then -(n : Int) else n

def clamped (low high : Int) (x : Float) : Int :=
  match whole? x with
  | some n => max low (min high n)
  | none => if x < 0 then low else high

/-- The integer towards zero among those that can be an index. -/
def toIndex (x : Float) : Int := clamped (-2147483648) 2147483647 x

end Numeral

end HostSnapshot.Query
