import HostSnapshot.Json.Basic
import HostSnapshot.Number.Shortest
import HostSnapshot.Text.Integer

namespace HostSnapshot.Json

/-- What stands between items, after a key, and how far a level is indented. -/
structure Style where
  comma : List Char
  colon : List Char
  indent : Option Nat

def Style.compact : Style := ⟨[','], [':'], none⟩

def Style.spaced : Style := ⟨[',', ' '], [':', ' '], none⟩

def Style.indented (columns : Nat) : Style := ⟨[','], [':', ' '], some columns⟩

def Style.newline (style : Style) (depth : Nat) : List Char :=
  match style.indent with
  | none => []
  | some columns => '\n' :: List.replicate (columns * depth) ' '

def unicodeEscape (n : Nat) : List Char := '\\' :: 'u' :: Text.hex 4 n

/-- A character in a quoted text. Beyond U+FFFF two escapes stand for it. -/
def escape (c : Char) : List Char :=
  if c = '"' then ['\\', '"']
  else if c = '\\' then ['\\', '\\']
  else if c = '\n' then ['\\', 'n']
  else if c = '\r' then ['\\', 'r']
  else if c = '\t' then ['\\', 't']
  else if c = '\x08' then ['\\', 'b']
  else if c = '\x0c' then ['\\', 'f']
  else if 0x20 ≤ c.toNat ∧ c.toNat ≤ 0x7e then [c]
  else if c.toNat < 0x10000 then unicodeEscape c.toNat
  else
    let n := c.toNat - 0x10000
    unicodeEscape (0xd800 + n / 0x400) ++ unicodeEscape (0xdc00 + n % 0x400)

def quoteChars (s : List Char) : List Char := '"' :: s.flatMap escape ++ ['"']

def intChars (n : Int) : List Char :=
  if n < 0 then '-' :: Number.decimal n.natAbs else Number.decimal n.natAbs

def floatChars (x : Float) : List Char :=
  match Number.Layout.plain.text? x with
  | some s => s
  | none =>
    if x.isNaN then ['N', 'a', 'N']
    else (if x < 0 then ['-'] else []) ++ ['I', 'n', 'f', 'i', 'n', 'i', 't', 'y']

def leafChars : Json → List Char
  | null => ['n', 'u', 'l', 'l']
  | bool true => ['t', 'r', 'u', 'e']
  | bool false => ['f', 'a', 'l', 's', 'e']
  | int n => intChars n
  | float x => floatChars x
  | str s => quoteChars s.toList
  | arr _ => ['[', ']']
  | obj _ => ['{', '}']

mutual

def chars (style : Style) (depth : Nat) : Json → List Char
  | arr (v :: vs) =>
    '[' :: style.newline (depth + 1) ++ chars style (depth + 1) v ++
      itemChars style (depth + 1) vs ++ style.newline depth ++ [']']
  | obj ((k, v) :: ms) =>
    '{' :: style.newline (depth + 1) ++ quoteChars k.toList ++ style.colon ++
      chars style (depth + 1) v ++ memberChars style (depth + 1) ms ++ style.newline depth ++ ['}']
  | v => leafChars v

def itemChars (style : Style) (depth : Nat) : List Json → List Char
  | [] => []
  | v :: vs => style.comma ++ style.newline depth ++ chars style depth v ++ itemChars style depth vs

def memberChars (style : Style) (depth : Nat) : List (String × Json) → List Char
  | [] => []
  | (k, v) :: ms =>
    style.comma ++ style.newline depth ++ quoteChars k.toList ++ style.colon ++
      chars style depth v ++ memberChars style depth ms

end

def render (style : Style) (v : Json) : String := String.ofList (chars style 0 v)

mutual

/-- Whether all integers in a value can be written. -/
def isWritable : Json → Bool
  | int n => Text.Integer.isWritable n
  | arr vs => areWritable vs
  | obj ms => membersWritable ms
  | _ => true

def areWritable : List Json → Bool
  | [] => true
  | v :: vs => isWritable v && areWritable vs

def membersWritable : List (String × Json) → Bool
  | [] => true
  | (_, v) :: ms => isWritable v && membersWritable ms

end

def write (style : Style) (v : Json) : Except Text.Integer.Malformed String :=
  if v.isWritable then .ok (v.render style) else .error .tooLarge

end HostSnapshot.Json
