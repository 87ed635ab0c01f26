import HostSnapshot.Json.Parser
import HostSnapshot.Query.Regex.Basic

namespace HostSnapshot.Query.Regex

inductive Malformed
  | unmatchedOpen
  | unmatchedClose
  | unfinishedClass
  | emptyClass
  | unfinishedEscape
  | noTarget
  | badGroup
  | badName
  | badReference
  | emptyRange
  | badProperty
  | tooDeep
deriving DecidableEq, Repr

def Malformed.message : Malformed → String
  | unmatchedOpen => "end pattern with unmatched parenthesis"
  | unmatchedClose => "unmatched close parenthesis"
  | unfinishedClass => "premature end of char-class"
  | emptyClass => "empty char-class"
  | unfinishedEscape => "end pattern at escape"
  | noTarget => "target of repeat operator is not specified"
  | badGroup => "undefined group option"
  | badName => "group name is empty"
  | badReference => "invalid backref number/name"
  | emptyRange => "empty range in char class"
  | badProperty => "invalid character property name"
  | tooDeep => "too deep nest level"

structure Flags where
  fold : Bool
  /-- Blanks and comments say nothing. -/
  spacious : Bool
  dotAll : Bool
deriving DecidableEq, Repr

/-- What is still to be read, the number of the next group, and the names of groups. -/
structure Reading where
  rest : List Char
  next : Nat
  names : List (Nat × String)

abbrev Read := StateT Reading (Except Malformed)

def fail (m : Malformed) : Read α := throw m

def rest : Read (List Char) := do return (← get).rest

def goOn (s : List Char) : Read Unit := modify fun r => { r with rest := s }

def newGroup (name : Option String) : Read Nat :=
  modifyGet fun r => (r.next, { r with
    next := r.next + 1
    names := match name with
      | some x => (r.next, x) :: r.names
      | none => r.names })

def single (c : Char) : CharSet := .range c c

def anyChar (flags : Flags) : CharSet := if flags.dotAll then .all [] else .except (single '\n')

def classLetter? (c : Char) : Option CharSet :=
  if c = 'd' then some (.named .digit)
  else if c = 'D' then some (.except (.named .digit))
  else if c = 'w' then some (.named .word)
  else if c = 'W' then some (.except (.named .word))
  else if c = 's' then some (.named .space)
  else if c = 'S' then some (.except (.named .space))
  else if c = 'h' then some (.named .hexDigit)
  else if c = 'H' then some (.except (.named .hexDigit))
  else none

def controlLetter? (c : Char) : Option Char :=
  if c = 't' then some '\t'
  else if c = 'n' then some '\n'
  else if c = 'r' then some '\r'
  else if c = 'f' then some '\x0c'
  else if c = 'v' then some '\x0b'
  else if c = 'a' then some '\x07'
  else if c = 'e' then some '\x1b'
  else none

def hexOf (ds : List Char) : Nat := ds.foldl (fun n c => 16 * n + (Json.hexValue? c).getD 0) 0

def escapedChar : List Char → Char × List Char
  | 'x' :: '{' :: s =>
    (Char.ofNat (hexOf (s.takeWhile isHexDigit)), (s.dropWhile isHexDigit).drop 1)
  | 'x' :: a :: b :: s =>
    if isHexDigit a && isHexDigit b then (Char.ofNat (hexOf [a, b]), s)
    else if isHexDigit a then (Char.ofNat (hexOf [a]), b :: s)
    else ('x', a :: b :: s)
  | c :: s => ((controlLetter? c).getD c, s)
  | [] => ('\\', [])

def namedClasses : List (String × CharSet) :=
  [("alpha", .named .letter), ("digit", .named .digit),
    ("alnum", .any [.named .letter, .named .digit]), ("upper", .named .upper),
    ("lower", .named .lower), ("space", .named .space), ("punct", .named .punctuation),
    ("xdigit", .named .hexDigit), ("word", .named .word), ("blank", .any [single ' ', single '\t']),
    ("cntrl", .any [.range '\x00' '\x1f', single '\x7f']), ("ascii", .range '\x00' '\x7f'),
    ("print", .range ' ' '~'), ("graph", .range '!' '~')]

def namedClass? (s : List Char) : Option (CharSet × List Char) :=
  let (negative, s) : Bool × List Char := match s with
    | '^' :: s => (true, s)
    | s => (false, s)
  let name := s.takeWhile Text.isAsciiLetter
  match s.dropWhile Text.isAsciiLetter with
  | ':' :: ']' :: r => (namedClasses.lookup (String.ofList name)).map fun set =>
      (if negative then .except set else set, r)
  | _ => none

/-- One thing in brackets: a class, or a character that may start a range. -/
inductive Item
  | set (s : CharSet)
  | char (c : Char)

def classItem? : List Char → Option (Item × List Char)
  | '\\' :: c :: s => match classLetter? c with
    | some set => some (.set set, s)
    | none =>
      if c = 'b' then some (.char '\x08', s)
      else
        let (d, r) := escapedChar (c :: s)
        some (.char d, r)
  | '\\' :: [] => none
  | c :: s => some (.char c, s)
  | [] => none

mutual

/-- What stands in brackets, after the opening one and a caret if there is one. -/
def classItems : (steps : Nat) → (isFirst : Bool) → List CharSet → Read (List CharSet)
  | 0, _, _ => fail .tooDeep
  | n + 1, isFirst, sets => do
    match ← rest with
    | [] => fail .unfinishedClass
    | ']' :: s =>
      if isFirst then do
        if s.contains ']' then do
          goOn s
          classItems n false (single ']' :: sets)
        else fail .emptyClass
      else do
        goOn s
        return sets
    | '[' :: ':' :: s => match namedClass? s with
      | some (set, r) => do
        goOn r
        classItems n false (set :: sets)
      | none => do
        goOn (':' :: s)
        classItems n false (single '[' :: sets)
    | '[' :: s => do
      goOn s
      let set ← classSet n
      classItems n false (set :: sets)
    | '&' :: '&' :: s => do
      goOn s
      let others ← classItems n false []
      return [.all [.any sets, .any others]]
    | s => match classItem? s with
      | none => fail .unfinishedEscape
      | some (.set set, r) => do
        goOn r
        classItems n false (set :: sets)
      | some (.char c, '-' :: r) =>
        match r with
        | ']' :: _ => do
          goOn r
          classItems n false (single '-' :: single c :: sets)
        | r => match classItem? r with
          | some (.char d, r) =>
            if c ≤ d then do
              goOn r
              classItems n false (.range c d :: sets)
            else fail .emptyRange
          | some (.set set, r) => do
            goOn r
            classItems n false (set :: single '-' :: single c :: sets)
          | none => fail .unfinishedClass
      | some (.char c, r) => do
        goOn r
        classItems n false (single c :: sets)

def classSet : (steps : Nat) → Read CharSet
  | 0 => fail .tooDeep
  | n + 1 => do
    match ← rest with
    | '^' :: s => do
      goOn s
      return .except (.any (← classItems n true []))
    | _ => return .any (← classItems n true [])

end

def interval? (s : List Char) : Option (Nat × Option Nat × List Char) :=
  let low := s.takeWhile Text.isAsciiDigit
  let number (ds : List Char) : Nat := Number.Decimal.natOfDigits ds
  match s.dropWhile Text.isAsciiDigit with
  | '}' :: r => if low.isEmpty then none else some (number low, some (number low), r)
  | ',' :: r =>
    let high := r.takeWhile Text.isAsciiDigit
    match r.dropWhile Text.isAsciiDigit with
    | '}' :: r =>
      if low.isEmpty && high.isEmpty then none
      else some (number low, if high.isEmpty then none else some (number high), r)
    | _ => none
  | _ => none

def greed : List Char → Greed × List Char
  | '?' :: s => (.lazy, s)
  | '+' :: s => (.possessive, s)
  | s => (.greedy, s)

def loops : (steps : Nat) → Regex → List Char → Regex × List Char
  | 0, r, s => (r, s)
  | n + 1, r, s => match s with
    | '*' :: s => let (g, s) := greed s; loops n (.loop r 0 none g) s
    | '+' :: s => let (g, s) := greed s; loops n (.loop r 1 none g) s
    | '?' :: s => let (g, s) := greed s; loops n (.loop r 0 (some 1) g) s
    | '{' :: s => match interval? s with
      | some (low, high, '?' :: s) => loops n (.loop r low high .lazy) s
      | some (low, high, s) => loops n (.loop r low high .greedy) s
      | none => (r, '{' :: s)
    | s => (r, s)

def startsLoop : List Char → Bool
  | '*' :: _ => true
  | '+' :: _ => true
  | '?' :: _ => true
  | _ => false

inductive Opening
  | plain
  | named (name : String)
  | ahead (wanted : Bool)
  | behind (wanted : Bool)
  | atomic
  /-- Flags up to the end of the group around. -/
  | flags (f : Flags)
  | flagged (f : Flags)
  | comment

/-- Flags that are switched on, or after a dash off. -/
def flagLetters (on : Bool) (f : Flags) : List Char → Option (Flags × List Char)
  | 'i' :: s => flagLetters on { f with fold := on } s
  | 'x' :: s => flagLetters on { f with spacious := on } s
  | 's' :: s => flagLetters on { f with dotAll := on } s
  | 'm' :: s => flagLetters on f s
  | '-' :: s => if on then flagLetters false f s else none
  | s => some (f, s)

def opening (f : Flags) : List Char → Except Malformed (Opening × List Char)
  | ':' :: s => .ok (.plain, s)
  | '=' :: s => .ok (.ahead true, s)
  | '!' :: s => .ok (.ahead false, s)
  | '>' :: s => .ok (.atomic, s)
  | '#' :: s => .ok (.comment, (s.dropWhile (· ≠ ')')).drop 1)
  | '<' :: '=' :: s => .ok (.behind true, s)
  | '<' :: '!' :: s => .ok (.behind false, s)
  | '<' :: s =>
    match s.takeWhile (· ≠ '>'), s.dropWhile (· ≠ '>') with
    | [], _ => .error .badName
    | name, '>' :: r => .ok (.named (String.ofList name), r)
    | _, _ => .error .badName
  | s => match flagLetters true f s with
    | some (f, ')' :: r) => .ok (.flags f, r)
    | some (f, ':' :: r) => .ok (.flagged f, r)
    | _ => .error .badGroup

def groupNamed (name : String) : Read Nat := do
  match (← get).names.find? fun (_, x) => x = name with
  | some (i, _) => return i
  | none => fail .badReference

def escape (f : Flags) : List Char → Read Regex
  | [] => fail .unfinishedEscape
  | c :: s =>
    let anchored (a : Anchor) : Read Regex := do
      goOn s
      return .anchor a
    if c = 'A' then anchored .start
    else if c = 'Z' then anchored .lastLine
    else if c = 'z' then anchored .finish
    else if c = 'b' then anchored .wordEdge
    else if c = 'B' then anchored .wordInside
    else if c = 'p' || c = 'P' then fail .badProperty
    else if c = 'k' then
      match s with
      | '<' :: r => do
        goOn ((r.dropWhile (· ≠ '>')).drop 1)
        return .again (← groupNamed (String.ofList (r.takeWhile (· ≠ '>')))) f.fold
      | _ => fail .badReference
    else if '1' ≤ c && c ≤ '9' then do
      goOn s
      return .again (c.toNat - 0x30) f.fold
    else match classLetter? c with
      | some set => do
        goOn s
        return .char set false
      | none => do
        let (d, r) := escapedChar (c :: s)
        goOn r
        return .char (single d) f.fold

def skipSpacious : (steps : Nat) → List Char → List Char
  | 0, s => s
  | n + 1, s => match s with
    | '#' :: s => skipSpacious n (s.dropWhile (· ≠ '\n'))
    | c :: s => if isSpace c then skipSpacious n s else c :: s
    | [] => []

mutual

def alternatives : (steps : Nat) → Flags → Read Regex
  | 0, _ => fail .tooDeep
  | n + 1, f => do
    let r ← branch n f .empty
    match ← rest with
    | '|' :: s => do
      goOn s
      return .either r (← alternatives n f)
    | _ => return r

def branch : (steps : Nat) → Flags → Regex → Read Regex
  | 0, _, _ => fail .tooDeep
  | n + 1, f, r => do
    let s ← rest
    let s := if f.spacious then skipSpacious s.length s else s
    goOn s
    let looped (a : Regex) : Read Regex := do
      let s ← rest
      let (a, s) := loops s.length a s
      goOn s
      branch n f (.sequence r a)
    match s with
    | [] => return r
    | '|' :: _ => return r
    | ')' :: _ => return r
    | '(' :: '?' :: s => do
      let (o, s) ← (opening f s : Except Malformed (Opening × List Char))
      goOn s
      match o with
      | .comment => branch n f r
      | .flags f => return .sequence r (← alternatives n f)
      | o => looped (← grouped n f o)
    | '(' :: s => do
      goOn s
      let i ← newGroup none
      looped (.group i (← inside n f))
    | '[' :: s => do
      goOn s
      looped (.char (← classSet n) f.fold)
    | '\\' :: s => looped (← escape f s)
    | '.' :: s => do
      goOn s
      looped (.char (anyChar f) false)
    | '^' :: s => do
      goOn s
      looped (.anchor .start)
    | '$' :: s => do
      goOn s
      looped (.anchor .lastLine)
    | c :: s =>
      if startsLoop (c :: s) then fail .noTarget
      else do
        goOn s
        looped (.char (single c) f.fold)

def grouped : (steps : Nat) → Flags → Opening → Read Regex
  | 0, _, _ => fail .tooDeep
  | n + 1, f, o => match o with
    | .named name => do
      let i ← newGroup (some name)
      return .group i (← inside n f)
    | .ahead wanted => return .ahead (← inside n f) wanted
    | .behind wanted => return .behind (← inside n f) wanted
    | .atomic => return .atomic (← inside n f)
    | .flagged f => inside n f
    | _ => inside n f

def inside : (steps : Nat) → Flags → Read Regex
  | 0, _ => fail .tooDeep
  | n + 1, f => do
    let r ← alternatives n f
    match ← rest with
    | ')' :: s => do
      goOn s
      return r
    | _ => fail .unmatchedOpen

end

/-- A regular expression with the names of its groups: one place for each group. -/
structure Named where
  regex : Regex
  groups : List (Option String)

def ofChars (f : Flags) (s : List Char) : Except Malformed Named :=
  match (alternatives (8 * (s.length + 2)) f).run ⟨s, 1, []⟩ with
  | .error m => .error m
  | .ok (r, reading) => match reading.rest with
    | [] => .ok ⟨r, (List.range' 1 (reading.next - 1)).map fun i => reading.names.lookup i⟩
    | _ => .error .unmatchedClose

end HostSnapshot.Query.Regex
