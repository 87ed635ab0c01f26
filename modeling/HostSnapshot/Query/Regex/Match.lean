import HostSnapshot.Query.Dump
import HostSnapshot.Query.Regex.Parser

namespace HostSnapshot.Query.Regex

open Answer

structure Modifiers where
  flags : Flags
  isGlobal : Bool
  skipsEmpty : Bool

def Modifiers.none : Modifiers := ⟨⟨false, false, false⟩, false, false⟩

def Modifiers.ofChars? (m : Modifiers) : List Char → Option Modifiers
  | [] => some m
  | 'g' :: s => Modifiers.ofChars? { m with isGlobal := true } s
  | 'i' :: s => Modifiers.ofChars? { m with flags := { m.flags with fold := true } } s
  | 'x' :: s => Modifiers.ofChars? { m with flags := { m.flags with spacious := true } } s
  | 'p' :: s => Modifiers.ofChars? { m with flags := { m.flags with dotAll := true } } s
  | 'n' :: s => Modifiers.ofChars? { m with skipsEmpty := true } s
  | 's' :: s => Modifiers.ofChars? m s
  | 'l' :: s => Modifiers.ofChars? m s
  | _ => Option.none

def Modifiers.ofValue : Value → Answer Modifiers
  | .null => .ok Modifiers.none
  | .text s => match Modifiers.none.ofChars? s.toList with
    | some m => .ok m
    | Option.none => refuseOne (.text s) "is not a valid modifier string"
  | v => refuseOne v "is not a string"

def span (first : Int) (s : List Char) : Members :=
  let offset := ("offset", Value.ofFloat (Float.ofInt first))
  let length := ("length", Value.ofNat s.length)
  let text := ("string", Value.ofChars s)
  if s.isEmpty then [offset, text, length] else [offset, length, text]

def captured (last : Place) (index : Nat) (name : Option String) : Value :=
  let named := ("name", match name with
    | some x => Value.text x
    | none => .null)
  match last.group? index with
  | some (i, j) => .object (span i (last.between i j) ++ [named])
  | none => .object [("offset", Value.ofFloat (-1)), ("string", .null), ("length", Value.ofNat 0),
      named]

def matched (r : Named) (first last : Place) : Value :=
  let s := last.between first.position last.position
  .object [("offset", .ofNat first.position), ("length", .ofNat s.length), ("string", .ofChars s),
    ("captures", .array (r.groups.zipIdx.map fun (name, i) => captured last (i + 1) name))]

/-- The matches in a text: the first one, or all of them. -/
def Named.find (r : Named) (m : Modifiers) (s : List Char) : List (Place × Place) :=
  let accept (p q : Place) : Bool := !m.skipsEmpty || p.position ≠ q.position
  if m.isGlobal then r.regex.searchAll accept (s.length + 1) (.start s)
  else (r.regex.search? accept s.length (.start s)).toList

def prepare (input regex modifiers : Value) : Answer (Named × Modifiers × List Char) :=
  match input, regex with
  | .text s, .text r => do
    let m ← Modifiers.ofValue modifiers
    match Regex.ofChars m.flags r.toList with
    | .ok named => return (named, m, s.toList)
    | .error e => refuse s!"{r} (at offset 0) is not a valid regex: {e.message}"
  | .text _, r => refuseOne r "cannot be matched, as it is not a string"
  | v, _ => refuseOne v "cannot be matched, as it is not a string"

def allMatches (input regex modifiers : Value) : Answer Value := do
  let (r, m, s) ← prepare input regex modifiers
  return .array ((r.find m s).map fun (first, last) => matched r first last)

def test (input regex modifiers : Value) : Answer Value := do
  let (r, m, s) ← prepare input regex modifiers
  return .bool !(r.find { m with isGlobal := false } s).isEmpty

end HostSnapshot.Query.Regex
