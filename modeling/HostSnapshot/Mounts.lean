import HostSnapshot.Json.Parser
import HostSnapshot.Text.Basic
import HostSnapshot.Traced

namespace HostSnapshot

structure Mount where
  point : String
  readOnly : Bool
deriving DecidableEq, Repr

/-- Devices with their mounts, in the order of the table. -/
abbrev Mounts := List (String × Mount)

namespace Mounts

def octalValue? (c : Char) : Option Nat :=
  if '0' ≤ c ∧ c ≤ '7' then some (c.toNat - 0x30) else none

def octalChar? (a b c : Char) : Option Char := do
  return Char.ofNat ((← octalValue? a) * 64 + (← octalValue? b) * 8 + (← octalValue? c))

/-- Decodes octal escapes, from left to right and each once. -/
def unescape : List Char → List Char
  | '\\' :: a :: b :: c :: s =>
    match octalChar? a b c with
    | some d => d :: unescape s
    -- The backslash stands for itself, and what follows it may start an escape.
    | none => '\\' :: unescape (a :: b :: c :: s)
  | c :: s => c :: unescape s
  | [] => []

def octalDigit (n : Nat) : Char := Char.ofNat (0x30 + n % 8)

/-- Writes the characters that `special` picks as octal escapes. -/
def escape (special : Char → Bool) (s : List Char) : List Char :=
  s.flatMap fun c =>
    if special c then
      ['\\', octalDigit (c.toNat / 64), octalDigit (c.toNat / 8), octalDigit c.toNat]
    else [c]

def isSpecial (c : Char) : Bool := c == ' ' || c == '\t' || c == '\n' || c == '\\'

/-- The device and the mount of a line, if it has the four fields that matter. -/
def ofLine? (line : List Char) : Option (String × Mount) :=
  match Text.words line with
  | device :: point :: _ :: options :: _ =>
    some (String.ofList (unescape device),
      ⟨String.ofList (unescape point), (Text.pieces (· == ',') options).contains ['r', 'o']⟩)
  | _ => none

/-- Adds a mount unless its device has one. -/
def add (mounts : Mounts) (entry : String × Mount) : Mounts :=
  if (mounts.lookup entry.1).isSome then mounts else mounts ++ [entry]

def ofEntries (entries : List (String × Mount)) : Mounts := entries.foldl add []

/-- Reads a mount table; lines with fewer fields say nothing. -/
def ofText (s : List Char) : Mounts := ofEntries ((Text.lines s).filterMap ofLine?)

end Mounts

end HostSnapshot

namespace HostSnapshot.MountOptions

/-- Where an option may end: at a comma, at the end, or at a line feed that is the last
character. -/
def endsHere : List Char → Bool
  | [] => true
  | ['\n'] => true
  | c :: _ => c == ','

def standsFirst (option s : List Char) : Bool :=
  match Json.after? option s with
  | some rest => endsHere rest
  | none => false

def standsLater (option : List Char) : List Char → Bool
  | [] => false
  | c :: s => (c == ',' && standsFirst option s) || standsLater option s

def has (option s : List Char) : Bool := standsFirst option s || standsLater option s

/-- `ro` makes a mount read-only, `rw` makes it writable, and `ro` wins; without either the
default stands. -/
def decide (options : List Char) (default : Bool) : Bool :=
  if has ['r', 'o'] options then true
  else if has ['r', 'w'] options then false
  else default

/-- The decision, with a warning where the options contradict each other. -/
def readOnly (options : String) (default : Bool) : Traced Bool := do
  let s := options.toList
  if has ['r', 'w'] s && has ['r', 'o'] s then
    Traced.log .warning "partitions"
      ("mount options " ++ quoted options ++ " carry both rw and ro, ro wins")
  return decide s default

end HostSnapshot.MountOptions
