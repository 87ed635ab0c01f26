import HostSnapshot.Json.Parser

namespace HostSnapshot.Query

open Number (Decimal)

inductive Token
  | word (s : String)
  | keyword (s : String)
  | field (s : String)
  | binding (s : String)
  | number (d : Decimal)
  | format (s : String)
  | symbol (s : String)
  | quote
  | chars (s : String)
  | inner
  | unquote
deriving DecidableEq, Repr

namespace Token

def keywords : List String :=
  ["as", "import", "include", "module", "def", "if", "then", "else", "elif", "end", "and", "or",
    "reduce", "foreach", "try", "catch", "label", "break"]

/-- Symbols, where one that starts with another comes before it. -/
def symbols : List String :=
  ["?//", "//=", "!=", "==", "//", "|=", "+=", "-=", "*=", "/=", "%=", "<=", ">=", "..", ".", "?",
    "=", ";", ",", ":", "|", "+", "-", "*", "/", "%", "<", ">"]

/-- What is open and has to be closed again. -/
inductive Frame
  | parenthesis
  | bracket
  | brace
  | text
deriving DecidableEq, Repr

def isSpace (c : Char) : Bool := c == ' ' || c == '\t' || c == '\n' || c == '\r'

def isWordStart (c : Char) : Bool := Text.isAsciiLetter c || c == '_'

def isWordChar (c : Char) : Bool := isWordStart c || Text.isAsciiDigit c

/-- What follows a comment. A line break after an odd number of backslashes does not end it. -/
def skipComment : List Char → List Char
  | '\\' :: '\\' :: s => skipComment s
  | '\\' :: '\n' :: s => skipComment s
  | '\\' :: '\r' :: '\n' :: s => skipComment s
  | '\n' :: s => '\n' :: s
  | _ :: s => skipComment s
  | [] => []

/-- Names with double colons between them. -/
def takeName (s : List Char) : List Char × List Char :=
  let name := s.takeWhile isWordChar
  let rest := s.dropWhile isWordChar
  match rest with
  | ':' :: ':' :: c :: r =>
    if isWordStart c then
      (name ++ ':' :: ':' :: (c :: r).takeWhile isWordChar, (c :: r).dropWhile isWordChar)
    else (name, rest)
  | _ => (name, rest)

def takeExponent : List Char → List Char × List Char
  | e :: s =>
    if e = 'e' ∨ e = 'E' then
      let (sign, r) : List Char × List Char := match s with
        | '+' :: r => (['+'], r)
        | '-' :: r => (['-'], r)
        | r => ([], r)
      match r.takeWhile Text.isAsciiDigit with
      | [] => ([], e :: s)
      | ds => (e :: sign ++ ds, r.dropWhile Text.isAsciiDigit)
    else ([], e :: s)
  | [] => ([], [])

/-- The characters of a number that starts with a digit, or with a point and a digit. -/
def takeNumber (s : List Char) : List Char × List Char :=
  let whole := s.takeWhile Text.isAsciiDigit
  let (part, rest) : List Char × List Char := match s.dropWhile Text.isAsciiDigit with
    | '.' :: r => ('.' :: r.takeWhile Text.isAsciiDigit, r.dropWhile Text.isAsciiDigit)
    | r => ([], r)
  let (exponent, rest) := takeExponent rest
  (whole ++ part ++ exponent, rest)

def startsNumber : List Char → Bool
  | '.' :: c :: _ => Text.isAsciiDigit c
  | c :: _ => Text.isAsciiDigit c
  | [] => false

def symbol? (s : List Char) : Option (String × List Char) :=
  (symbols.find? fun t => t.toList.isPrefixOf s).map fun t => (t, s.drop t.length)

def ofName (s : String) : Token := if keywords.contains s then .keyword s else .word s

/-- One character after a backslash, and what follows it. Half of a pair alone is replaced. -/
def readEscape? : List Char → Option (Char × List Char)
  | 'u' :: a :: b :: c :: d :: s => do
    let n ← Json.hex4? a b c d
    if Json.isHighSurrogate n then
      match s with
      | '\\' :: 'u' :: a :: b :: c :: d :: r =>
        match Json.hex4? a b c d with
        | some m =>
          if Json.isLowSurrogate m then some (Json.joinSurrogates n m, r) else some ('\uFFFD', s)
        | none => none
      | _ => some ('\uFFFD', s)
    else if Json.isLowSurrogate n then some ('\uFFFD', s)
    else some (Char.ofNat n, s)
  | c :: s => (Json.simpleEscape? c).map (·, s)
  | [] => none

def isPlain (c : Char) : Bool := c != '\\' && c != '"'

def inText? (frames : List Frame) : List Char → Option (Token × List Frame × List Char)
  | '"' :: s => some (.unquote, frames, s)
  | '\\' :: '(' :: s => some (.inner, .parenthesis :: .text :: frames, s)
  | '\\' :: s => (readEscape? s).map fun (c, r) =>
      (.chars (String.ofList [c]), .text :: frames, r)
  | s => some (.chars (String.ofList (s.takeWhile isPlain)), .text :: frames, s.dropWhile isPlain)

def close? (frame : Frame) (symbol : String) (s : List Char) :
    List Frame → Option (Token × List Frame × List Char)
  | f :: frames => if f = frame then some (.symbol symbol, frames, s) else none
  | [] => none

def inCode? (frames : List Frame) : List Char → Option (Token × List Frame × List Char)
  | '"' :: s => some (.quote, .text :: frames, s)
  | '(' :: s => some (.symbol "(", .parenthesis :: frames, s)
  | '[' :: s => some (.symbol "[", .bracket :: frames, s)
  | '{' :: s => some (.symbol "\x7b", .brace :: frames, s)
  | ')' :: s => close? .parenthesis ")" s frames
  | ']' :: s => close? .bracket "]" s frames
  | '}' :: s => close? .brace "\x7d" s frames
  | '@' :: s => match s.takeWhile isWordChar with
    | [] => none
    | name => some (.format (String.ofList name), frames, s.dropWhile isWordChar)
  | '$' :: c :: s =>
    if isWordStart c then
      let (name, rest) := takeName (c :: s)
      some (.binding (String.ofList name), frames, rest)
    else none
  | '.' :: c :: s =>
    if isWordStart c then
      some (.field (String.ofList ((c :: s).takeWhile isWordChar)), frames,
        (c :: s).dropWhile isWordChar)
    else other ('.' :: c :: s)
  | s => other s
where
  other (s : List Char) : Option (Token × List Frame × List Char) :=
    if startsNumber s then
      let (digits, rest) := takeNumber s
      (Decimal.ofChars? digits).map (.number ·, frames, rest)
    else if isWordStart (s.headD ' ') then
      let (name, rest) := takeName s
      some (ofName (String.ofList name), frames, rest)
    else (symbol? s).map fun (t, rest) => (.symbol t, frames, rest)

def scan : (steps : Nat) → List Frame → List Char → Option (List Token)
  | _, _, [] => some []
  | 0, _, _ :: _ => none
  | steps + 1, frames, c :: s =>
    match frames with
    | .text :: outer => match inText? outer (c :: s) with
      | some (t, frames, rest) => (scan steps frames rest).map (t :: ·)
      | none => none
    | _ =>
      if isSpace c then scan steps frames s
      else if c = '#' then scan steps frames (skipComment s)
      else match inCode? frames (c :: s) with
        | some (t, frames, rest) => (scan steps frames rest).map (t :: ·)
        | none => none

def ofChars? (s : List Char) : Option (List Token) := scan s.length [] s

end Token

end HostSnapshot.Query
