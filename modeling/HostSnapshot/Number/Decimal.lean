import HostSnapshot.Number.Shortest
import HostSnapshot.Text.Word

namespace HostSnapshot.Number

/-- `± coefficient · 10 ^ exponent`. -/
structure Decimal where
  negative : Bool
  coefficient : Nat
  exponent : Int
deriving DecidableEq, Repr

namespace Decimal

def ofInt (n : Int) : Decimal := ⟨n < 0, n.natAbs, 0⟩

def natOfDigits (ds : List Char) : Nat := ds.foldl (fun n c => 10 * n + (c.toNat - 0x30)) 0

def readExponent? : List Char → Option Int
  | [] => some 0
  | e :: s =>
    if e = 'e' ∨ e = 'E' then
      let (negative, ds) : Bool × List Char := match s with
        | '-' :: ds => (true, ds)
        | '+' :: ds => (false, ds)
        | ds => (false, ds)
      if ds.isEmpty || !ds.all Text.isAsciiDigit then none
      else some (if negative then -(natOfDigits ds : Int) else natOfDigits ds)
    else none

def readUnsigned? (negative : Bool) (s : List Char) : Option Decimal :=
  let whole := s.takeWhile Text.isAsciiDigit
  let rest := s.dropWhile Text.isAsciiDigit
  let (part, tail) : List Char × List Char := match rest with
    | '.' :: r => (r.takeWhile Text.isAsciiDigit, r.dropWhile Text.isAsciiDigit)
    | r => ([], r)
  if whole.isEmpty && part.isEmpty then none
  else (readExponent? tail).map fun e =>
    ⟨negative, natOfDigits (whole ++ part), e - part.length⟩

def ofChars? : List Char → Option Decimal
  | '-' :: s => readUnsigned? true s
  | '+' :: s => readUnsigned? false s
  | s => readUnsigned? false s

/-- The nearest double. Exponents far out of range are settled without computing a power. -/
def toFloat (d : Decimal) : Float :=
  let size : Int := (decimal d.coefficient).length + d.exponent
  let magnitude : Float :=
    if d.coefficient = 0 || size < -400 then 0.0
    else if 400 < size then 1.0 / 0.0
    else if d.exponent < 0 then Float.ofScientific d.coefficient true (-d.exponent).toNat
    else Float.ofScientific d.coefficient false d.exponent.toNat
  if d.negative then -magnitude else magnitude

/-- The number as written: with an exponent only above zero places or below a millionth. -/
def text (d : Decimal) : List Char :=
  let ds := decimal d.coefficient
  let adjusted : Int := d.exponent + ds.length - 1
  let sign := if d.negative then ['-'] else []
  if d.exponent ≤ 0 ∧ -6 ≤ adjusted then
    let point : Int := ds.length + d.exponent
    if d.exponent = 0 then sign ++ ds
    else if point ≤ 0 then sign ++ '0' :: '.' :: List.replicate (-point).toNat '0' ++ ds
    else sign ++ ds.take point.toNat ++ '.' :: ds.drop point.toNat
  else
    let tail := ds.drop 1
    sign ++ ds.take 1 ++ (if tail.isEmpty then [] else '.' :: tail) ++
      'E' :: (if adjusted < 0 then '-' else '+') :: decimal adjusted.natAbs

def sign (d : Decimal) : Int :=
  if d.coefficient = 0 then 0 else if d.negative then -1 else 1

/-- Compares by value. Sizes are compared first, so that no power of ten is large without need. -/
def compare (a b : Decimal) : Ordering :=
  match Ord.compare a.sign b.sign with
  | .eq =>
    if a.sign = 0 then .eq
    else
      let size (d : Decimal) : Int := (decimal d.coefficient).length + d.exponent
      let magnitude := match Ord.compare (size a) (size b) with
        | .eq =>
          let least := min a.exponent b.exponent
          let scale (d : Decimal) : Nat := d.coefficient * Nat.pow 10 (d.exponent - least).toNat
          Ord.compare (scale a) (scale b)
        | o => o
      if a.negative then magnitude.swap else magnitude
  | o => o

def negate (d : Decimal) : Decimal :=
  if d.coefficient = 0 then { d with negative := false } else { d with negative := !d.negative }

end Decimal

end HostSnapshot.Number
