import HostSnapshot.Json.Printer
import HostSnapshot.Query.Value
import HostSnapshot.Text.Utf8

namespace HostSnapshot.Query.Value

def dumpEscape (c : Char) : List Char :=
  if c = '"' then ['\\', '"']
  else if c = '\\' then ['\\', '\\']
  else if c = '\n' then ['\\', 'n']
  else if c = '\r' then ['\\', 'r']
  else if c = '\t' then ['\\', 't']
  else if c = '\x08' then ['\\', 'b']
  else if c = '\x0c' then ['\\', 'f']
  else if c.toNat < 0x20 ∨ c.toNat = 0x7f then Json.unicodeEscape c.toNat
  else [c]

def dumpText (s : String) : List Char := '"' :: s.toList.flatMap dumpEscape ++ ['"']

def commas : List (List Char) → List Char
  | [] => []
  | [s] => s
  | s :: rest => s ++ ',' :: commas rest

mutual

def dump : Value → List Char
  | null => ['n', 'u', 'l', 'l']
  | bool true => ['t', 'r', 'u', 'e']
  | bool false => ['f', 'a', 'l', 's', 'e']
  | number n => n.chars
  | text s => dumpText s
  | array items => '[' :: commas (dumpItems items) ++ [']']
  | object members => '{' :: commas (dumpMembers members) ++ ['}']

def dumpItems : List Value → List (List Char)
  | [] => []
  | v :: vs => v.dump :: dumpItems vs

def dumpMembers : List (String × Value) → List (List Char)
  | [] => []
  | (k, v) :: ms => (dumpText k ++ ':' :: v.dump) :: dumpMembers ms

end

/-- As much of a text as fits into a number of bytes. -/
def fitting : (bytes : Nat) → List Char → List Char
  | _, [] => []
  | bytes, c :: s =>
    let width := (Text.Utf8.encodeChar c).length
    if width ≤ bytes then c :: fitting (bytes - width) s else []

def closing : Value → List Char
  | text _ => ['"']
  | array _ => [']']
  | object _ => ['}']
  | _ => []

def short (bytes : Nat) (v : Value) : String :=
  let s := v.dump
  String.ofList <|
    if Text.Utf8.size s ≤ bytes then s
    else fitting (bytes - 3 - v.closing.length) s ++ ['.', '.', '.'] ++ v.closing

def shownBytes : Nat := 29

/-- The kind of a value and its text, for a message. -/
def describe (v : Value) : String := s!"{v.kind} ({v.short shownBytes})"

def plainText : Value → String
  | text s => s
  | v => String.ofList v.dump

end HostSnapshot.Query.Value

namespace HostSnapshot.Query

/-- What an operation comes to: a value, or the error that it raises. -/
abbrev Answer := Except Value

namespace Answer

def refuse (message : String) : Answer α := .error (.text message)

def refuseOne (v : Value) (what : String) : Answer α := refuse s!"{v.describe} {what}"

def refuseTwo (v w : Value) (what : String) : Answer α :=
  refuse s!"{v.describe} and {w.describe} {what}"

end Answer

end HostSnapshot.Query
