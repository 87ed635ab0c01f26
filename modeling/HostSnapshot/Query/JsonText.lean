import HostSnapshot.Json.Parser
import HostSnapshot.Query.Dump
import HostSnapshot.Text.Utf8

namespace HostSnapshot.Query.JsonText

inductive Malformed
  | separator
  | lonelyColon
  | missingKey
  | keyNotText
  | missingValue
  | lonelyComma
  | notPair
  | unmatchedBracket
  | missingItem
  | unmatchedBrace
  | missingPair
  | singleQuote
  | literal
  | number
  | escape
  | hexEscape
  | control
  | tooDeep
  | unfinishedText
  | unfinished
  | nothing
  | extra
deriving DecidableEq, Repr

def Malformed.message : Malformed → String
  | separator => "Expected separator between values"
  | lonelyColon => "':' not as part of an object"
  | missingKey => "Expected string key before ':'"
  | keyNotText => "Object keys must be strings"
  | missingValue => "Expected value before ','"
  | lonelyComma => "',' not as part of an object or array"
  | notPair => "Objects must consist of key:value pairs"
  | unmatchedBracket => "Unmatched ']'"
  | missingItem => "Expected another array element"
  | unmatchedBrace => "Unmatched '\x7d'"
  | missingPair => "Expected another key-value pair"
  | singleQuote => "Invalid string literal; expected \", but got '"
  | literal => "Invalid literal"
  | number => "Invalid numeric literal"
  | escape => "Invalid escape"
  | hexEscape => "Invalid \\uXXXX escape"
  | control =>
    "Invalid string: control characters from U+0000 through U+001F must be escaped"
  | tooDeep => "Exceeds depth limit for parsing"
  | unfinishedText => "Unfinished string"
  | unfinished => "Unfinished JSON term"
  | nothing => "Expected JSON value"
  | extra => "Unexpected extra JSON values"

/-- What is open: an array, an object, or the key of a member. -/
inductive Frame
  | array (items : List Value)
  | object (members : Members)
  | key (name : String)

/-- Where reading stands. Items are kept in reverse. -/
structure State where
  frames : List Frame
  value : Option Value
  word : List Char
  line : Nat
  column : Nat

def State.start : State := ⟨[], none, [], 1, 0⟩

def maxDepth : Nat := 10000

def State.finish (st : State) (v : Value) : Except Malformed State :=
  match st.value with
  | some _ => .error .separator
  | none => .ok { st with value := some v }

/-- A number as it is written; infinities and what is not a number have words of their own. -/
def numberOf? (s : List Char) : Option Numeral :=
  match Number.Decimal.ofChars? s with
  | some d => some (.ofDecimal d)
  | none =>
    let (negative, r) : Bool × List Char := match s with
      | '-' :: r => (true, r)
      | '+' :: r => (false, r)
      | r => (false, r)
    let infinite : Float := 1.0 / 0.0
    let word := String.ofList (r.map Text.lower)
    if word = "nan" then some (.ofFloat (0.0 / 0.0))
    else if word = "inf" || word = "infinity" then
      some (.ofFloat (if negative then -infinite else infinite))
    else none

def wordValue (s : List Char) : Except Malformed Value :=
  let exactly (word : String) (v : Value) : Except Malformed Value :=
    if s = word.toList then .ok v else .error .literal
  match s with
  | 't' :: _ => exactly "true" (.bool true)
  | 'f' :: _ => exactly "false" (.bool false)
  | '\x27' :: _ => .error .singleQuote
  | 'n' :: _ =>
    if s.length = 3 then exactly "nan" (.ofFloat (0.0 / 0.0)) else exactly "null" .null
  | s => match numberOf? s with
    | some n => .ok (.number n)
    | none => .error .number

def State.endWord (st : State) : Except Malformed State :=
  match st.word with
  | [] => .ok st
  | w => do ({ st with word := [] } : State).finish (← wordValue w.reverse)

def State.push (st : State) (f : Frame) : Except Malformed State :=
  if maxDepth ≤ st.frames.length then .error .tooDeep
  else if st.value.isSome then .error .separator
  else .ok { st with frames := f :: st.frames }

def State.colon (st : State) : Except Malformed State :=
  match st.frames, st.value with
  | .object ms :: frames, some (.text key) =>
    .ok { st with frames := .key key :: .object ms :: frames, value := none }
  | .object _ :: _, some _ => .error .keyNotText
  | .object _ :: _, none => .error .missingKey
  | _, _ => .error .lonelyColon

def State.place (st : State) (v : Value) : Except Malformed State :=
  match st.frames with
  | .array items :: frames =>
    .ok { st with frames := .array (v :: items) :: frames, value := none }
  | .key key :: .object ms :: frames =>
    .ok { st with frames := .object (ms.set key v) :: frames, value := none }
  | [] => .error .lonelyComma
  | _ => .error .notPair

def State.comma (st : State) : Except Malformed State :=
  match st.value with
  | none => .error .missingValue
  | some v => st.place v

def State.closeBracket (st : State) : Except Malformed State :=
  match st.frames, st.value with
  | .array items :: frames, some v =>
    .ok { st with frames := frames, value := some (.array (v :: items).reverse) }
  | .array [] :: frames, none => .ok { st with frames := frames, value := some (.array []) }
  | .array _ :: _, none => .error .missingItem
  | _, _ => .error .unmatchedBracket

def State.closeBrace (st : State) : Except Malformed State :=
  match st.frames, st.value with
  | [], _ => .error .unmatchedBrace
  | .key key :: .object ms :: frames, some v =>
    .ok { st with frames := frames, value := some (.object (ms.set key v)) }
  | _, some _ => .error .notPair
  | .object [] :: frames, none => .ok { st with frames := frames, value := some (.object []) }
  | .object _ :: _, none => .error .missingPair
  | _, none => .error .unmatchedBrace

def readEscape : List Char → Except Malformed (Char × List Char)
  | 'u' :: a :: b :: c :: d :: s => match Json.hex4? a b c d with
    | none => .error .hexEscape
    | some n =>
      if Json.isHighSurrogate n then
        match s with
        | '\\' :: 'u' :: a :: b :: c :: d :: r => match Json.hex4? a b c d with
          | some m =>
            if Json.isLowSurrogate m then .ok (Json.joinSurrogates n m, r) else .ok ('\uFFFD', s)
          | none => .error .hexEscape
        | s => .ok ('\uFFFD', s)
      else if Json.isLowSurrogate n then .ok ('\uFFFD', s)
      else .ok (Char.ofNat n, s)
  | 'u' :: _ => .error .hexEscape
  | c :: s => match Json.simpleEscape? c with
    | some d => .ok (d, s)
    | none => .error .escape
  | [] => .error .escape

def unescape : (steps : Nat) → List Char → Except Malformed (List Char)
  | 0, _ => .ok []
  | _, [] => .ok []
  | n + 1, '\\' :: s => do
    let (c, r) ← readEscape s
    return c :: (← unescape n r)
  | n + 1, c :: s =>
    if 0 < c.toNat ∧ c.toNat < 0x20 then .error .control
    else do return c :: (← unescape n s)

/-- The raw characters up to a closing quote, and what follows it. -/
def takeText : List Char → Option (List Char × List Char)
  | [] => none
  | '"' :: s => some ([], s)
  | '\\' :: c :: s => (takeText s).map fun (t, r) => ('\\' :: c :: t, r)
  | c :: s => (takeText s).map fun (t, r) => (c :: t, r)

/-- Moves on over characters; columns count bytes. -/
def State.over (st : State) (s : List Char) : State :=
  s.foldl (fun st c =>
    if c = '\n' then { st with line := st.line + 1, column := 0 }
    else { st with column := st.column + (Text.Utf8.encodeChar c).length }) st

def State.here (st : State) (m : Malformed) : String :=
  s!"{m.message} at line {st.line}, column {st.column}"

def State.atEnd (st : State) (m : Malformed) : String :=
  s!"{m.message} at EOF at line {st.line}, column {st.column}"

def State.mark (st : State) (c : Char) : Except Malformed State := do
  let st ← st.endWord
  if c = '[' then st.push (.array [])
  else if c = '{' then st.push (.object [])
  else if c = ':' then st.colon
  else if c = ',' then st.comma
  else if c = ']' then st.closeBracket
  else if c = '}' then st.closeBrace
  else return st

def isMark (c : Char) : Bool :=
  c == '[' || c == '{' || c == ':' || c == ',' || c == ']' || c == '}'

def State.isDone (st : State) : Bool := st.frames.isEmpty && st.value.isSome

def State.finished (st : State) : Except String (Option Value) :=
  match st.endWord with
  | .error m => .error (st.atEnd m)
  | .ok st' => if st'.frames.isEmpty then .ok st'.value else .error (st'.atEnd .unfinished)

/-- The first value in a text with what follows it, or nothing if there is none. -/
def readOne : (steps : Nat) → State → List Char → Except String (Option (Value × State × List Char))
  | _, st, [] => st.finished.map fun v => v.map (·, { st with value := none, word := [] }, [])
  | 0, _, _ :: _ => .ok none
  | n + 1, st, c :: s =>
    let st := st.over [c]
    let next (st : State) (s : List Char) : Except String (Option (Value × State × List Char)) :=
      match st.isDone, st.value with
      | true, some v => .ok (some (v, { st with value := none }, s))
      | _, _ => readOne n st s
    if c = '"' then
      match st.endWord with
      | .error m => .error (st.here m)
      | .ok st => readText n st next s
    else if isMark c || Json.isSpace c then
      match st.mark c with
      | .error m => .error (st.here m)
      | .ok st => next st s
    else readOne n { st with word := c :: st.word } s
where
  readText (n : Nat) (st : State)
      (next : State → List Char → Except String (Option (Value × State × List Char)))
      (s : List Char) : Except String (Option (Value × State × List Char)) :=
    match takeText s with
    | none => .error ((st.over s).atEnd .unfinishedText)
    | some (raw, r) =>
      let st := st.over (raw ++ ['"'])
      match (unescape (n + 1) raw).bind fun cs => st.finish (.ofChars cs) with
      | .error m => .error (st.here m)
      | .ok st => next st r

def read (s : String) : Except String Value :=
  let steps := s.length + 1
  match readOne steps .start s.toList with
  | .error m => .error m
  | .ok none => .error Malformed.nothing.message
  | .ok (some (v, st, r)) => match readOne steps st r with
    | .error m => .error m
    | .ok none => .ok v
    | .ok (some _) => .error Malformed.extra.message

def ofText (s : String) : Answer Value :=
  match read s with
  | .ok v => .ok v
  | .error m => Answer.refuse s!"{m} (while parsing '{s}')"

end HostSnapshot.Query.JsonText
