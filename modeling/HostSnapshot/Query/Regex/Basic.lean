import HostSnapshot.Text.Basic
import HostSnapshot.Text.Integer

namespace HostSnapshot.Query

namespace Regex

inductive NamedClass
  | digit
  | word
  | space
  | hexDigit
  | letter
  | lower
  | upper
  | punctuation
deriving DecidableEq, Repr

def isHexDigit (c : Char) : Bool :=
  Text.isAsciiDigit c || ('a' ≤ c && c ≤ 'f') || ('A' ≤ c && c ≤ 'F')

def isPunctuation (c : Char) : Bool :=
  0x21 ≤ c.toNat && c.toNat < 0x7f && !Text.isAsciiLetter c && !Text.isAsciiDigit c

def isSpace (c : Char) : Bool := Text.isBlank c && !(0x1c ≤ c.toNat && c.toNat ≤ 0x1f)

def NamedClass.holds : NamedClass → Char → Bool
  | digit, c => (Text.decimalValue? c).isSome
  | word, c => Text.isWord c
  | space, c => isSpace c
  | hexDigit, c => isHexDigit c
  | letter, c => Text.isWord c && !(Text.decimalValue? c).isSome && c != '_'
  | lower, c => 'a' ≤ c && c ≤ 'z'
  | upper, c => 'A' ≤ c && c ≤ 'Z'
  | punctuation, c => isPunctuation c

inductive CharSet
  | range (low high : Char)
  | named (name : NamedClass)
  | any (sets : List CharSet)
  | all (sets : List CharSet)
  | except (set : CharSet)

/-- The small letter of a capital one in some scripts, and the capital of a small one. -/
def otherCase (c : Char) : Char :=
  let n := c.toNat
  let isCapital := (0x41 ≤ n && n ≤ 0x5a) || (0xc0 ≤ n && n ≤ 0xde && n ≠ 0xd7) ||
    (0x391 ≤ n && n ≤ 0x3a9 && n ≠ 0x3a2) || (0x410 ≤ n && n ≤ 0x42f)
  let isSmall := (0x61 ≤ n && n ≤ 0x7a) || (0xe0 ≤ n && n ≤ 0xfe && n ≠ 0xf7) ||
    (0x3b1 ≤ n && n ≤ 0x3c9 && n ≠ 0x3c2) || (0x430 ≤ n && n ≤ 0x44f)
  if isCapital then Char.ofNat (n + 32) else if isSmall then Char.ofNat (n - 32) else c

namespace CharSet

mutual

def holds (c : Char) : CharSet → Bool
  | range low high => low ≤ c && c ≤ high
  | named name => name.holds c
  | any sets => holdsAny c sets
  | all sets => holdsAll c sets
  | except set => !set.holds c

def holdsAny (c : Char) : List CharSet → Bool
  | [] => false
  | s :: sets => s.holds c || holdsAny c sets

def holdsAll (c : Char) : List CharSet → Bool
  | [] => true
  | s :: sets => s.holds c && holdsAll c sets

end

/-- Whether a character, or with `fold` the same letter in the other case, is in a set. -/
def matchesChar (fold : Bool) (set : CharSet) (c : Char) : Bool :=
  set.holds c || (fold && set.holds (otherCase c))

end CharSet

inductive Anchor
  | start
  /-- The end, also before a line break there. -/
  | lastLine
  | finish
  | wordEdge
  | wordInside
deriving DecidableEq, Repr

/-- How often a loop goes on: as often as it can, as rarely, or without going back. -/
inductive Greed
  | greedy
  | lazy
  | possessive
deriving DecidableEq, Repr

end Regex

inductive Regex
  | empty
  | char (set : Regex.CharSet) (fold : Bool)
  | sequence (first second : Regex)
  | either (first second : Regex)
  | loop (body : Regex) (least : Nat) (most : Option Nat) (greed : Regex.Greed)
  | group (index : Nat) (body : Regex)
  | again (index : Nat) (fold : Bool)
  | anchor (a : Regex.Anchor)
  | ahead (body : Regex) (wanted : Bool)
  | behind (body : Regex) (wanted : Bool)
  /-- A part that is not gone back into. -/
  | atomic (body : Regex)

namespace Regex

/-- A place in a text, and what the groups have matched: their first and their last position. -/
structure Place where
  position : Nat
  before : List Char
  after : List Char
  groups : List (Nat × Nat × Nat)

namespace Place

def start (s : List Char) : Place := ⟨0, [], s, []⟩

def next? (p : Place) : Option (Char × Place) :=
  match p.after with
  | [] => none
  | c :: s => some (c, { p with position := p.position + 1, before := c :: p.before, after := s })

def back (p : Place) (n : Nat) : Place :=
  { p with position := p.position - n, before := p.before.drop n
           after := (p.before.take n).reverse ++ p.after }

def group? (p : Place) (index : Nat) : Option (Nat × Nat) := p.groups.lookup index

def between (p : Place) (first last : Nat) : List Char :=
  (p.before.reverse.drop first).take (last - first)

def atWordEdge (p : Place) : Bool :=
  let left := p.before.head?.any Text.isWord
  let right := p.after.head?.any Text.isWord
  left != right

def satisfies (p : Place) : Anchor → Bool
  | .start => p.before.isEmpty
  | .lastLine => p.after.isEmpty || p.after = ['\n']
  | .finish => p.after.isEmpty
  | .wordEdge => p.atWordEdge
  | .wordInside => !p.atWordEdge

def over? (fold : Bool) (p : Place) : List Char → Option Place
  | [] => some p
  | c :: s => match p.next? with
    | none => none
    | some (d, q) => if c = d || (fold && otherCase c = d) then over? fold q s else none

end Place

/-- What a match goes on with: it says where the whole match ends. -/
abbrev Next := Place → Option Place

/-- A loop around a matcher, with so many rounds left in the text. -/
def loopWith (body : Place → Next → Option Place) (greed : Greed) (next : Next) :
    (rounds least : Nat) → (most : Option Nat) → Place → Option Place
  | 0, _, _, p => next p
  | rounds + 1, least, most, p =>
    let round (_ : Unit) : Option Place :=
      if most = some 0 then none
      else body p fun q =>
        if q.position = p.position && least = 0 then none
        else loopWith body greed next rounds (least - 1) (most.map (· - 1)) q
    if 0 < least then round ()
    else match greed with
      | .lazy => (next p).or (round ())
      | _ => (round ()).or (next p)

def run : Regex → Place → Next → Option Place
  | empty, p, next => next p
  | char set fold, p, next => match p.next? with
    | some (c, q) => if set.matchesChar fold c then next q else none
    | none => none
  | sequence a b, p, next => a.run p fun q => b.run q next
  | either a b, p, next => (a.run p next).or (b.run p next)
  | loop body least most greed, p, next =>
    let rounds := p.after.length + least + 1
    match greed with
    | .possessive => (loopWith body.run .greedy some rounds least most p).bind next
    | greed => loopWith body.run greed next rounds least most p
  | group index body, p, next => body.run p fun q =>
      next { q with groups := (index, p.position, q.position) :: q.groups }
  | again index fold, p, next => match p.group? index with
    | some (first, last) => (p.over? fold (p.between first last)).bind next
    | none => none
  | anchor a, p, next => if p.satisfies a then next p else none
  | ahead body wanted, p, next => match body.run p some with
    | some q => if wanted then next { p with groups := q.groups } else none
    | none => if wanted then none else next p
  | behind body wanted, p, next =>
    let found := (List.range (p.position + 1)).any fun n =>
      (body.run (p.back n) fun q => if q.position = p.position then some q else none).isSome
    if found = wanted then next p else none
  | atomic body, p, next => (body.run p some).bind next

def search? (r : Regex) (accept : Place → Place → Bool) :
    (steps : Nat) → Place → Option (Place × Place)
  | steps, p =>
    match r.run p fun q => if accept p q then some q else none with
    | some q => some (p, q)
    | none => match steps, p.next? with
      | steps + 1, some (_, q) => search? r accept steps q
      | _, _ => none

/-- All matches from a place on. After an empty one the search goes on one character later. -/
def searchAll (r : Regex) (accept : Place → Place → Bool) :
    (steps : Nat) → Place → List (Place × Place)
  | 0, _ => []
  | steps + 1, p =>
    match r.search? accept p.after.length p with
    | none => []
    | some (first, last) =>
      let found := (first, last)
      let last := { last with groups := [] }
      if first.position = last.position then
        match last.next? with
        | some (_, q) => found :: r.searchAll accept steps q
        | none => [found]
      else found :: r.searchAll accept steps last

end Regex

end HostSnapshot.Query
