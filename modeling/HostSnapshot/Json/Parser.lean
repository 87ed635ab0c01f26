import HostSnapshot.Json.Basic
import HostSnapshot.Number.Decimal
import HostSnapshot.Text.Integer

namespace HostSnapshot.Json

def isSpace (c : Char) : Bool := c == ' ' || c == '\t' || c == '\n' || c == '\r'

def skipSpaces (s : List Char) : List Char := s.dropWhile isSpace

def hexValue? (c : Char) : Option Nat :=
  if Text.isAsciiDigit c then some (c.toNat - 0x30)
  else if 'a' ≤ c ∧ c ≤ 'f' then some (c.toNat - 0x57)
  else if 'A' ≤ c ∧ c ≤ 'F' then some (c.toNat - 0x37)
  else none

def hex4? (a b c d : Char) : Option Nat := do
  return (((← hexValue? a) * 16 + (← hexValue? b)) * 16 + (← hexValue? c)) * 16 + (← hexValue? d)

def simpleEscape? (c : Char) : Option Char :=
  if c = '"' ∨ c = '\\' ∨ c = '/' then some c
  else if c = 'n' then some '\n'
  else if c = 'r' then some '\r'
  else if c = 't' then some '\t'
  else if c = 'b' then some '\x08'
  else if c = 'f' then some '\x0c'
  else none

def isHighSurrogate (n : Nat) : Bool := 0xd800 ≤ n && n < 0xdc00

def isLowSurrogate (n : Nat) : Bool := 0xdc00 ≤ n && n < 0xe000

def joinSurrogates (high low : Nat) : Char :=
  Char.ofNat (0x10000 + (high - 0xd800) * 0x400 + (low - 0xdc00))

def readEscape? : List Char → Option (Char × List Char)
  | 'u' :: a :: b :: c :: d :: s =>
    match hex4? a b c d with
    | none => none
    | some n =>
      if isHighSurrogate n then
        match s with
        | '\\' :: 'u' :: a :: b :: c :: d :: s =>
          match hex4? a b c d with
          | none => none
          | some m => if isLowSurrogate m then some (joinSurrogates n m, s) else none
        | _ => none
      else if isLowSurrogate n then none
      else some (Char.ofNat n, s)
  | c :: s => (simpleEscape? c).map (·, s)
  | [] => none

theorem readEscape?_length {s : List Char} {c : Char} {r : List Char}
    (h : readEscape? s = some (c, r)) : r.length < s.length := by
  unfold readEscape? at h
  split at h
  · split at h
    · simp at h
    · split at h
      · split at h
        · split at h
          · simp at h
          · split at h
            · simp only [Option.some.injEq, Prod.mk.injEq] at h
              obtain ⟨_, rfl⟩ := h
              simp only [List.length_cons]
              omega
            · simp at h
        · simp at h
      · split at h
        · simp at h
        · simp only [Option.some.injEq, Prod.mk.injEq] at h
          obtain ⟨_, rfl⟩ := h
          simp only [List.length_cons]
          omega
  · simp only [Option.map_eq_some_iff, Prod.mk.injEq] at h
    obtain ⟨_, _, _, rfl⟩ := h
    simp
  · simp at h

def readString? (s : List Char) : Option (List Char × List Char) :=
  match s with
  | [] => none
  | c :: s =>
    if c = '"' then some ([], s)
    else if c = '\\' then
      match h : readEscape? s with
      | none => none
      | some (c, r) =>
        have : r.length < s.length := readEscape?_length h
        (readString? r).map fun (cs, rest) => (c :: cs, rest)
    else if c.toNat < 0x20 then none
    else (readString? s).map fun (cs, rest) => (c :: cs, rest)
termination_by s.length

/-- Digits with no needless zero before them. -/
def readWhole? (s : List Char) : Option (List Char × List Char) :=
  match s.takeWhile Text.isAsciiDigit, s.dropWhile Text.isAsciiDigit with
  | [], _ => none
  | ['0'], r => some (['0'], r)
  | '0' :: _, _ => none
  | ds, r => some (ds, r)

def readFraction? : List Char → Option (List Char × List Char)
  | '.' :: s =>
    match s.takeWhile Text.isAsciiDigit with
    | [] => none
    | ds => some (ds, s.dropWhile Text.isAsciiDigit)
  | s => some ([], s)

def readExponent? : List Char → Option (List Char × List Char)
  | c :: s =>
    if c = 'e' ∨ c = 'E' then
      let (sign, s) : List Char × List Char := match s with
        | '+' :: s => ([], s)
        | '-' :: s => (['-'], s)
        | s => ([], s)
      match s.takeWhile Text.isAsciiDigit with
      | [] => none
      | ds => some ('e' :: sign ++ ds, s.dropWhile Text.isAsciiDigit)
    else some ([], c :: s)
  | [] => some ([], [])

/-- How readers tell that a number is too long: by the digits of an integer, or by the characters of
the whole part of any number, its sign among them. -/
inductive Dialect
  | plain
  | strict
deriving DecidableEq, Repr

/-- Whether a number is short enough, given its sign, whether it is a float, and its whole part. -/
def Dialect.admits (dialect : Dialect) (negative isFloat : Bool) (whole : List Char) : Bool :=
  match dialect with
  | .plain => isFloat || whole.length ≤ Text.Integer.maxDigits
  | .strict => (if negative then 1 else 0) + whole.length ≤ Text.Integer.maxDigits

/-- A number after its sign. With a fraction or an exponent it is a float. -/
def readNumber? (dialect : Dialect) (negative : Bool) (s : List Char) :
    Option (Json × List Char) := do
  let (whole, s) ← readWhole? s
  let (fraction, s) ← readFraction? s
  let (exponent, s) ← readExponent? s
  let isFloat := !(fraction.isEmpty && exponent.isEmpty)
  if !dialect.admits negative isFloat whole then none
  else if isFloat then
    let e ← Number.Decimal.readExponent? exponent
    let d : Number.Decimal :=
      ⟨negative, Number.Decimal.natOfDigits (whole ++ fraction), e - fraction.length⟩
    some (.float d.toFloat, s)
  else
    let n : Int := Number.Decimal.natOfDigits whole
    some (.int (if negative then -n else n), s)

def after? : (word : List Char) → List Char → Option (List Char)
  | [], s => some s
  | _ :: _, [] => none
  | c :: word, d :: s => if c = d then after? word s else none

def readWord? (s : List Char) : Option (Json × List Char) :=
  ((after? ['t', 'r', 'u', 'e'] s).map (Json.bool true, ·)) <|>
  ((after? ['f', 'a', 'l', 's', 'e'] s).map (Json.bool false, ·)) <|>
  ((after? ['n', 'u', 'l', 'l'] s).map (Json.null, ·)) <|>
  ((after? ['N', 'a', 'N'] s).map (Json.float (0.0 / 0.0), ·)) <|>
  ((after? ['I', 'n', 'f', 'i', 'n', 'i', 't', 'y'] s).map (Json.float (1.0 / 0.0), ·)) <|>
  ((after? ['-', 'I', 'n', 'f', 'i', 'n', 'i', 't', 'y'] s).map (Json.float (-1.0 / 0.0), ·))

def readLeaf? (dialect : Dialect) : List Char → Option (Json × List Char)
  | '"' :: s => (readString? s).map fun (cs, rest) => (.str (String.ofList cs), rest)
  | '-' :: s => readNumber? dialect true s <|> readWord? ('-' :: s)
  | s => readNumber? dialect false s <|> readWord? s

mutual

/-- A value at the head of a text. `steps` bounds the number of values begun, `depth` the nesting
of those that are not empty. -/
def readValue? (dialect : Dialect) : (steps depth : Nat) → List Char → Option (Json × List Char)
  | 0, _, _ => none
  | steps + 1, depth, '[' :: s =>
    match skipSpaces s with
    | ']' :: r => some (.arr [], r)
    | r => match depth with
      | 0 => none
      | depth + 1 => (readItems? dialect steps depth r).map fun (vs, rest) => (.arr vs, rest)
  | steps + 1, depth, '{' :: s =>
    match skipSpaces s with
    | '}' :: r => some (.obj [], r)
    | r => match depth with
      | 0 => none
      | depth + 1 => (readMembers? dialect steps depth r).map fun (ms, rest) =>
          (.obj (Members.ofList ms), rest)
  | _ + 1, _, s => readLeaf? dialect s

def readItems? (dialect : Dialect) : (steps depth : Nat) → List Char →
    Option (List Json × List Char)
  | 0, _, _ => none
  | steps + 1, depth, s =>
    match readValue? dialect steps depth s with
    | none => none
    | some (v, r) =>
      match skipSpaces r with
      | ',' :: r => (readItems? dialect steps depth (skipSpaces r)).map fun (vs, rest) =>
          (v :: vs, rest)
      | ']' :: r => some ([v], r)
      | _ => none

def readMembers? (dialect : Dialect) : (steps depth : Nat) → List Char →
    Option (List (String × Json) × List Char)
  | 0, _, _ => none
  | steps + 1, depth, '"' :: s =>
    match readString? s with
    | none => none
    | some (k, r) =>
      match skipSpaces r with
      | ':' :: r =>
        match readValue? dialect steps depth (skipSpaces r) with
        | none => none
        | some (v, r) =>
          match skipSpaces r with
          | ',' :: r => (readMembers? dialect steps depth (skipSpaces r)).map fun (ms, rest) =>
              ((String.ofList k, v) :: ms, rest)
          | '}' :: r => some ([(String.ofList k, v)], r)
          | _ => none
      | _ => none
  | _ + 1, _, _ => none

end

/-- How deeply arrays and objects may nest in what a tool prints. -/
def maxDepth : Nat := 200

/-- Reads a text as one JSON value that nests no deeper than `depth`. -/
def ofCharsIn? (dialect : Dialect) (depth : Nat) (s : List Char) : Option Json :=
  match readValue? dialect (2 * s.length + 2) depth (skipSpaces s) with
  | some (v, r) => if (skipSpaces r).isEmpty then some v else none
  | none => none

def ofChars? (depth : Nat) (s : List Char) : Option Json := ofCharsIn? .plain depth s

def ofText? (text : String) : Option Json := ofChars? maxDepth text.toList

def ofOutput? (output : String) : Option Json := ofCharsIn? .strict maxDepth output.toList

end HostSnapshot.Json
