namespace HostSnapshot.Number

/-- A finite double: `mantissa · 2 ^ exponent`, with its sign. -/
structure Parts where
  negative : Bool
  mantissa : Nat
  exponent : Int
deriving DecidableEq, Repr

def parts? (x : Float) : Option Parts :=
  let bits := x.toBits.toNat
  let fraction := bits % Nat.pow 2 52
  let biased : Nat := bits / Nat.pow 2 52 % 2048
  let negative := Nat.pow 2 63 ≤ bits
  if biased = 2047 then none
  else if biased = 0 then some ⟨negative, fraction, -1074⟩
  else some ⟨negative, Nat.pow 2 52 + fraction, (biased : Int) - 1075⟩

def integer? (x : Float) : Option Int := do
  let p ← parts? x
  let n : Nat ←
    if 0 ≤ p.exponent then some (p.mantissa * Nat.pow 2 p.exponent.toNat)
    else
      let d := Nat.pow 2 (-p.exponent).toNat
      if p.mantissa % d = 0 then some (p.mantissa / d) else none
  return if p.negative then -(n : Int) else n

structure Digits where
  coefficient : Nat
  exponent : Int
deriving DecidableEq, Repr

/-- The numbers that round to a double, as multiples of a quarter of its last place
`numerator / denominator`: the double itself is `4 · mantissa` of them. -/
structure Interval where
  value : Nat
  low : Nat
  high : Nat
  closed : Bool
  numerator : Nat
  denominator : Nat

/-- Below a power of two the neighbour is half as far away. -/
def Parts.interval (p : Parts) : Interval where
  value := 4 * p.mantissa
  low := if p.mantissa = Nat.pow 2 52 ∧ -1074 < p.exponent then 4 * p.mantissa - 1
    else 4 * p.mantissa - 2
  high := 4 * p.mantissa + 2
  closed := p.mantissa % 2 = 0
  numerator := Nat.pow 2 (p.exponent - 2).toNat
  denominator := Nat.pow 2 (2 - p.exponent).toNat

/-- The multiple of `10 ^ e` nearest to the value, of the two around it, if it lies in the
interval. -/
def Interval.onGrid? (i : Interval) (e : Int) : Option Digits :=
  let up := Nat.pow 10 (-e).toNat * i.numerator
  let down := Nat.pow 10 e.toNat * i.denominator
  let inside (d : Nat) : Bool :=
    if i.closed then i.low * up ≤ d * down && d * down ≤ i.high * up
    else i.low * up < d * down && d * down < i.high * up
  let d := i.value * up / down
  let rest := i.value * up % down
  let below := 0 < d && inside d
  let above := inside (d + 1)
  if below && (!above || 2 * rest < down || (2 * rest = down && d % 2 = 0)) then some ⟨d, e⟩
  else if above then some ⟨d + 1, e⟩
  else none

def Interval.search (i : Interval) : (grids : Nat) → Int → Digits
  | 0, e => ⟨i.value, e⟩
  | grids + 1, e =>
    match i.onGrid? e with
    | some d => d
    | none => i.search grids (e - 1)

def Digits.reduce : (steps : Nat) → Digits → Digits
  | 0, d => d
  | steps + 1, d =>
    if d.coefficient % 10 = 0 && d.coefficient ≠ 0 then
      reduce steps ⟨d.coefficient / 10, d.exponent + 1⟩
    else d

def Parts.shortest (p : Parts) : Digits :=
  if p.mantissa = 0 then ⟨0, 0⟩
  else
    let start := Int.fdiv (((Nat.log2 p.mantissa : Nat) + p.exponent) * 30103) 100000 + 2
    (p.interval.search 24 start).reduce 24

/-- The choices of a way to write doubles. The digits of a positive double are
`0.d₁d₂…dₙ · 10 ^ point`. -/
structure Layout where
  /-- Whether digits with this count and point are written without an exponent. -/
  positional : (count : Nat) → (point : Int) → Bool
  whole : List Char

/-- Positional from `0.0001` to below `10 ^ 16`; a whole number keeps one zero. -/
def Layout.plain : Layout where
  positional _ point := -4 < point && point ≤ 16
  whole := ['.', '0']

/-- Positional from `0.0001` until sixteen zeros would follow the digits. -/
def Layout.spread : Layout where
  positional count point := -4 < point && point ≤ count + 15
  whole := []

def decimal (n : Nat) : List Char := Nat.toDigits 10 n

def exponentText (e : Int) : List Char :=
  let ds := decimal e.natAbs
  (if e < 0 then '-' else '+') :: (if ds.length < 2 then '0' :: ds else ds)

def Layout.write (layout : Layout) (d : Digits) : List Char :=
  let ds := decimal d.coefficient
  if d.coefficient = 0 then '0' :: layout.whole
  else
    let point : Int := ds.length + d.exponent
    if layout.positional ds.length point then
      if point ≤ 0 then '0' :: '.' :: List.replicate (-point).toNat '0' ++ ds
      else if ds.length ≤ point then
        ds ++ List.replicate (point - ds.length).toNat '0' ++ layout.whole
      else ds.take point.toNat ++ '.' :: ds.drop point.toNat
    else
      let tail := ds.drop 1
      ds.take 1 ++ (if tail.isEmpty then [] else '.' :: tail) ++ 'e' :: exponentText (point - 1)

def Layout.text? (layout : Layout) (x : Float) : Option (List Char) :=
  (parts? x).map fun p =>
    (if p.negative then ['-'] else []) ++ layout.write p.shortest

end HostSnapshot.Number
