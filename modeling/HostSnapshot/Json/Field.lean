import HostSnapshot.Json.Basic
import HostSnapshot.Json.Parser
import HostSnapshot.Text.Basic

namespace HostSnapshot.Json

def wordBound : Int := 9223372036854775808

def insideWord (n : Int) : Bool := -wordBound < n && n < wordBound

namespace Integer

def signed (negative : Bool) (ds : List Char) : Int :=
  if negative then -(Number.Decimal.natOfDigits ds : Int) else Number.Decimal.natOfDigits ds

def unsigned : List Char → Bool × List Char
  | '-' :: s => (true, s)
  | s => (false, s)

def withMinus (negative : Bool) (ds : List Char) : List Char :=
  if negative then '-' :: ds else ds

/-- Reads an integer as it stands in JSON. One that is too long is told apart before what follows
its digits is looked at. -/
def ofPlain (s : List Char) : Except Problem Int :=
  let (negative, s) := unsigned s
  let whole := s.takeWhile Text.isAsciiDigit
  if whole.head? ≠ some '0' ∧ !Dialect.strict.admits negative false whole then
    .error .integerSize
  else match readWhole? s with
    | some (ds, []) => .ok (signed negative ds)
    | _ => .error .integerText

/-- What counts behind a zero. More zeros and underscores fall away with it, but the last of them
stays before the end and before a point. -/
def afterZero? (last : Char) : List Char → Option (List Char)
  | [] => some [last]
  | c :: s =>
    if c = '0' ∨ c = '_' then afterZero? c s
    else if Text.isAsciiDigit c ∨ c = '-' then some (c :: s)
    else if c = '.' then some (last :: c :: s)
    else none

def dropZeros? : List Char → Option (List Char)
  | [] => none
  | c :: s =>
    if c = '0' then afterZero? c s
    else if Text.isAsciiDigit c then some (c :: s)
    else none

def dropFraction (s : List Char) : List Char :=
  let tail := s.dropWhile (· ≠ '.')
  if 1 < tail.length ∧ (tail.drop 1).all (· = '0') then s.takeWhile (· ≠ '.') else s

/-- Underscores fall away if each stands between two other characters. -/
def dropUnderscores (s : List Char) : List Char :=
  if s.head? = some '_' ∨ s.getLast? = some '_' ∨ Text.hasPair '_' s then s
  else s.filter (· ≠ '_')

def withoutPlus? : List Char → Option (List Char)
  | '+' :: '-' :: _ => none
  | '+' :: s => some s
  | s => some s

/-- An integer without the blanks, the zeros, the fraction and the underscores that do not count. -/
def cleaned? (s : List Char) : Option (List Char) :=
  (withoutPlus? (Text.stripEnds Text.Integer.isSpace s)).bind fun s =>
    let (negative, s) := unsigned s
    (dropZeros? s).map fun s => withMinus negative (dropUnderscores (dropFraction s))

def ofText (s : List Char) : Except Problem Int :=
  match ofPlain s with
  -- Only a text that is not an integer as it stands is cleaned and read again.
  | .error .integerText =>
    match (cleaned? s).map ofPlain with
    | some (.ok n) => .ok n
    | _ => .error .integerText
  | r => r

end Integer

def readInteger : Json → Except Problem Int
  | int n => .ok n
  | bool b => .ok (if b then 1 else 0)
  | float x =>
    if x.isNaN || x.isInf then .error .notFinite
    else match Number.integer? x with
      | none => .error .integerFraction
      | some n => if insideWord n then .ok n else .error .integerSize
  | str s => Integer.ofText s.toList
  | _ => .error .integer

def readNat (v : Json) : Except Problem Nat := do
  let n ← readInteger v
  if n < 0 then throw .negative else return n.toNat

end HostSnapshot.Json

namespace HostSnapshot

namespace Json

def readText : Json → Except Problem String
  | str s => .ok s
  | _ => .error .text

def flagOfText? (s : String) : Option Bool :=
  let s := lowered s
  if ["0", "off", "f", "false", "n", "no"].contains s then some false
  else if ["1", "on", "t", "true", "y", "yes"].contains s then some true
  else none

def flagOfInt (isWord : Bool) (n : Int) : Except Problem Bool :=
  if n = 0 then .ok false
  else if n = 1 then .ok true
  else .error (if isWord then .flagWord else .flag)

def readFlag : Json → Except Problem Bool
  | bool b => .ok b
  | str s => match flagOfText? s with
    | some b => .ok b
    | none => .error .flagWord
  | int n => flagOfInt (-wordBound ≤ n && n < wordBound) n
  | float x => match Number.integer? x with
    | some n => flagOfInt (insideWord n) n
    | none => .error .flag
  | _ => .error .flag

/-- The first of the keys that is a member, with its value. -/
def Members.first? (members : Members) (keys : List String) : Option (String × Json) :=
  keys.findSome? fun key => (members.find? key).map (key, ·)

/-- Reads the member under the first of the keys that is there; without one, and where the value
cannot be read, the field has its default. -/
def Members.field (members : Members) (keys : List String) (read : Json → Except Problem α)
    (default : α) : α × List Issue :=
  match members.first? keys with
  | none => (default, [])
  | some (key, v) => match read v with
    | .ok a => (a, [])
    | .error p => (default, [⟨p, [key], v⟩])

def Members.part (members : Members) (key : String) (read : Json → Checked α) (default : α) :
    α × List Issue :=
  match members.find? key with
  | none => (default, [])
  | some v => match read v with
    | .ok a => (a, [])
    | .error issues => (default, issues.map (Issue.within key))

end Json

end HostSnapshot
