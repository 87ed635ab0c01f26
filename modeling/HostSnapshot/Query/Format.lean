import HostSnapshot.Query.Dump
import HostSnapshot.Text.Word

namespace HostSnapshot.Text.Base64

def letter (n : Nat) : Char :=
  if n < 26 then Char.ofNat (0x41 + n)
  else if n < 52 then Char.ofNat (0x61 + (n - 26))
  else if n < 62 then Char.ofNat (0x30 + (n - 52))
  else if n = 62 then '+'
  else '/'

def bits? (c : Char) : Option Nat :=
  if 'A' ≤ c ∧ c ≤ 'Z' then some (c.toNat - 0x41)
  else if 'a' ≤ c ∧ c ≤ 'z' then some (c.toNat - 0x61 + 26)
  else if '0' ≤ c ∧ c ≤ '9' then some (c.toNat - 0x30 + 52)
  else if c = '+' then some 62
  else if c = '/' then some 63
  else none

def encode : List UInt8 → List Char
  | a :: b :: c :: bs =>
    let n := a.toNat * 65536 + b.toNat * 256 + c.toNat
    letter (n / 262144) :: letter (n / 4096 % 64) :: letter (n / 64 % 64) :: letter (n % 64) ::
      encode bs
  | [a, b] =>
    let n := a.toNat * 1024 + b.toNat * 4
    [letter (n / 4096), letter (n / 64 % 64), letter (n % 64), '=']
  | [a] =>
    let n := a.toNat * 16
    [letter (n / 64), letter (n % 64), '=', '=']
  | [] => []

/-- The bytes that groups of six bits spell. One group alone spells nothing. -/
def join? : List Nat → Option (List UInt8)
  | a :: b :: c :: d :: ns =>
    let n := a * 262144 + b * 4096 + c * 64 + d
    (join? ns).map fun bs =>
      UInt8.ofNat (n / 65536) :: UInt8.ofNat (n / 256) :: UInt8.ofNat n :: bs
  | [a, b, c] =>
    let n := a * 1024 + b * 16 + c / 4
    some [UInt8.ofNat (n / 256), UInt8.ofNat n]
  | [a, b] => some [UInt8.ofNat (a * 4 + b / 16)]
  | [_] => none
  | [] => some []

def decode? (s : List Char) : Option (List UInt8) :=
  ((s.takeWhile (· ≠ '=')).mapM bits?).bind join?

end HostSnapshot.Text.Base64

namespace HostSnapshot.Query.Format

open Answer

/-- Fields of a row. Texts and other fields differ in how they are written. -/
def field (writeText : String → List Char) : Value → Answer (List Char)
  | .text s => .ok (writeText s)
  | .number n => .ok (if n.isNaN then [] else n.chars)
  | .bool b => .ok (Value.bool b).dump
  | .null => .ok []
  | v => refuseOne v "is not valid in a csv row"

def row (name : String) (separator : Char) (writeText : String → List Char) :
    Value → Answer String
  | .array items => do
    let fields ← items.mapM (field writeText)
    return String.ofList (List.intercalate [separator] fields)
  | v => refuseOne v s!"cannot be {name}-formatted, only array"

def doubleQuotes (s : String) : List Char :=
  '"' :: (s.toList.flatMap fun c => if c = '"' then ['"', '"'] else [c]) ++ ['"']

def escapeTabs (s : String) : List Char :=
  s.toList.flatMap fun c =>
    if c = '\t' then ['\\', 't']
    else if c = '\n' then ['\\', 'n']
    else if c = '\r' then ['\\', 'r']
    else if c = '\\' then ['\\', '\\']
    else [c]

/-- The characters that have a meaning in a page are replaced by their names. -/
def escapeMarkup (c : Char) : List Char :=
  if c = '<' then "&lt;".toList
  else if c = '>' then "&gt;".toList
  else if c = '&' then "&amp;".toList
  else if c = '\x27' then "&apos;".toList
  else if c = '"' then "&quot;".toList
  else [c]

def isUnreserved (c : Char) : Bool :=
  Text.isAsciiLetter c || Text.isAsciiDigit c || c == '-' || c == '_' || c == '.' || c == '~'

def escapeByte (b : UInt8) : List Char :=
  let c := Char.ofNat b.toNat
  if isUnreserved c then [c] else '%' :: (Text.hex 2 b.toNat).map Char.toUpper

def shellWord : Value → Answer (List Char)
  | .text s => .ok ('\x27' :: (s.toList.flatMap fun c =>
      if c = '\x27' then ['\x27', '\\', '\x27', '\x27'] else [c]) ++ ['\x27'])
  | .array items => refuseOne (.array items) "can not be escaped for shell"
  | .object members => refuseOne (.object members) "can not be escaped for shell"
  | v => .ok v.dump

def shellWords (v : Value) : Answer String := do
  let words ← match v with
    | .array items => items.mapM shellWord
    | v => (shellWord v).map ([·])
  return String.ofList (List.intercalate [' '] words)

def fromBase64 (v : Value) : Answer String :=
  let s := v.plainText
  match Text.Base64.decode? s.toList with
  | some bytes => .ok (String.ofList (Text.Utf8.replace bytes))
  | none => refuseOne (.text s) "is not valid base64 data"

def formats : List (String × (Value → Answer String)) := [
  ("text", fun v => .ok v.plainText),
  ("json", fun v => .ok (String.ofList v.dump)),
  ("csv", row "csv" ',' doubleQuotes),
  ("tsv", row "tsv" '\t' escapeTabs),
  ("html", fun v => .ok (String.ofList (v.plainText.toList.flatMap escapeMarkup))),
  ("uri", fun v =>
    .ok (String.ofList ((Text.Utf8.encode v.plainText.toList).flatMap escapeByte))),
  ("sh", shellWords),
  ("base64", fun v =>
    .ok (String.ofList (Text.Base64.encode (Text.Utf8.encode v.plainText.toList)))),
  ("base64d", fromBase64)]

def write (name : String) (v : Value) : Answer Value :=
  match formats.lookup name with
  | some f => (f v).map .text
  | none => refuse s!"{name} is not a valid format"

end HostSnapshot.Query.Format
