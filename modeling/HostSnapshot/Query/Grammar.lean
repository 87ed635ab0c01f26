import HostSnapshot.Query.Syntax
import HostSnapshot.Query.Token

namespace HostSnapshot.Query

/-- Which operators may stand side by side without parentheses, and what they then mean. -/
inductive Fixity
  | left
  | right
  | none
deriving DecidableEq, Repr

/-- An operator between two queries. Higher levels bind tighter. -/
structure Infix where
  level : Nat
  fixity : Fixity
  combine : Expr → Expr → Expr

namespace Infix

def assignment (combine : Expr → Expr → Expr) : Infix := ⟨2, .none, combine⟩

def comparison (op : Operator) : Infix := ⟨5, .none, .binary op⟩

def sum (op : Operator) : Infix := ⟨6, .left, .binary op⟩

def product (op : Operator) : Infix := ⟨7, .left, .binary op⟩

def updating (op : Operator) : Infix := assignment (Expr.update (.binary op))

def productLevel : Nat := 7

def ofToken? : Token → Option Infix
  | .symbol "//" => some ⟨1, .right, .default⟩
  | .symbol "=" => some (assignment fun a b => .call "_assign" [a, b])
  | .symbol "|=" => some (assignment fun a b => .call "_modify" [a, b])
  | .symbol "+=" => some (updating .add)
  | .symbol "-=" => some (updating .subtract)
  | .symbol "*=" => some (updating .multiply)
  | .symbol "/=" => some (updating .divide)
  | .symbol "%=" => some (updating .remainder)
  | .symbol "//=" => some (assignment (Expr.update .default))
  | .keyword "or" => some ⟨3, .left, .either⟩
  | .keyword "and" => some ⟨4, .left, .both⟩
  | .symbol "==" => some (comparison .equal)
  | .symbol "!=" => some (comparison .notEqual)
  | .symbol "<" => some (comparison .less)
  | .symbol "<=" => some (comparison .lessOrEqual)
  | .symbol ">" => some (comparison .greater)
  | .symbol ">=" => some (comparison .greaterOrEqual)
  | .symbol "+" => some (sum .add)
  | .symbol "-" => some (sum .subtract)
  | .symbol "*" => some (product .multiply)
  | .symbol "/" => some (product .divide)
  | .symbol "%" => some (product .remainder)
  | _ => none

def rightLevel (i : Infix) : Nat :=
  match i.fixity with
  | .right => i.level
  | _ => i.level + 1

end Infix

/-- What is read from tokens, and the tokens that follow. -/
abbrev Parsed (α : Type) := α × List Token

namespace Grammar

def symbol (s : String) : List Token → Option (List Token)
  | t :: ts => if t = .symbol s then some ts else none
  | [] => none

def keyword (s : String) : List Token → Option (List Token)
  | t :: ts => if t = .keyword s then some ts else none
  | [] => none

def mark (ts : List Token) : Bool × List Token :=
  match ts with
  | .symbol "?" :: ts => (true, ts)
  | ts => (false, ts)

/-- A word without arguments; three of them are constants. -/
def ofWord (s : String) : Expr :=
  if s = "null" then .literal .null
  else if s = "true" then .literal (.bool true)
  else if s = "false" then .literal (.bool false)
  else .call s []

/-- A parameter of a function. Those with a value are names for all values of an argument. -/
inductive Parameter
  | query (name : String)
  | value (name : String)

def Parameter.name : Parameter → String
  | query x => x
  | value x => x

def parameters : List Token → Option (Parsed (List Parameter))
  | .word x :: .symbol ";" :: ts => (parameters ts).map fun (ps, ts) => (.query x :: ps, ts)
  | .binding x :: .symbol ";" :: ts => (parameters ts).map fun (ps, ts) => (.value x :: ps, ts)
  | .word x :: .symbol ")" :: ts => some ([.query x], ts)
  | .binding x :: .symbol ")" :: ts => some ([.value x], ts)
  | _ => none

/-- The body of a function in which values have their names. -/
def bindValues (body : Expr) (ps : List Parameter) : Expr :=
  ps.foldr (fun p body => match p with
    | .query _ => body
    | .value x => .bind (.call x []) x body) body

mutual

def query : (steps : Nat) → List Token → Option (Parsed Expr)
  | 0, _ => none
  | n + 1, ts => do
    let (e, ts) ← sequence n ts
    match ts with
    | .symbol "|" :: ts =>
      let (f, ts) ← query n ts
      return (.pipe e f, ts)
    | ts => return (e, ts)

def sequence : (steps : Nat) → List Token → Option (Parsed Expr)
  | 0, _ => none
  | n + 1, ts => do
    let (e, ts) ← operation n 0 ts
    moreOfSequence n e ts

def moreOfSequence : (steps : Nat) → Expr → List Token → Option (Parsed Expr)
  | 0, _, _ => none
  | n + 1, e, ts => match ts with
    | .symbol "," :: ts => do
      let (f, ts) ← operation n 0 ts
      moreOfSequence n (.comma e f) ts
    | ts => some (e, ts)

def operation : (steps : Nat) → (level : Nat) → List Token → Option (Parsed Expr)
  | 0, _, _ => none
  | n + 1, level, ts => do
    let (e, ts) ← operand n ts
    moreOfOperation n level e ts

def moreOfOperation : (steps : Nat) → (level : Nat) → Expr → List Token → Option (Parsed Expr)
  | 0, _, _, _ => none
  | n + 1, level, e, ts => match ts.head?.bind Infix.ofToken? with
    | none => some (e, ts)
    | some i =>
      if i.level < level then some (e, ts)
      else do
        let (f, ts) ← operation n i.rightLevel (ts.drop 1)
        let again := (ts.head?.bind Infix.ofToken?).any fun j => j.level = i.level
        if i.fixity = .none && again then none
        else moreOfOperation n level (i.combine e f) ts

def operand : (steps : Nat) → List Token → Option (Parsed Expr)
  | 0, _ => none
  | n + 1, ts => do
    let (e, ts) ← match ts with
      | .symbol "-" :: ts => do
        let (e, ts) ← operation n Infix.productLevel ts
        pure (.negate e, ts)
      | .keyword "def" :: ts => definition n ts
      | .keyword "label" :: .binding x :: .symbol "|" :: ts => do
        let (e, ts) ← query n ts
        pure (.label x e, ts)
      | .keyword "try" :: ts => do
        let (e, ts) ← operand n ts
        match keyword "catch" ts with
        | none => pure (.quiet e, ts)
        | some ts => do
          let (f, ts) ← operand n ts
          pure (.rescue e f, ts)
      | ts => do
        let (e, ts) ← term n ts
        match keyword "as" ts with
        | none => pure (e, ts)
        | some ts => do
          let (ps, ts) ← patterns n ts
          let (f, ts) ← query n (← symbol "|" ts)
          pure (e.destructure ps f, ts)
    match ts with
    | .symbol "?//" :: ts =>
      let (f, ts) ← operation n 1 ts
      return (.default (.quiet e) f, ts)
    | ts => return (e, ts)

def definition : (steps : Nat) → List Token → Option (Parsed Expr)
  | 0, _ => none
  | n + 1, ts => do
    let (name, ps, ts) ← match ts with
      | .word f :: .symbol "(" :: ts => (parameters ts).map fun (ps, ts) => (f, ps, ts)
      | .word f :: ts => some (f, [], ts)
      | _ => none
    let (body, ts) ← query n (← symbol ":" ts)
    let (rest, ts) ← query n (← symbol ";" ts)
    return (.define name (ps.map Parameter.name) (bindValues body ps) rest, ts)

def term : (steps : Nat) → List Token → Option (Parsed Expr)
  | 0, _ => none
  | n + 1, ts => do
    let (e, ts) ← primary n ts
    suffixes n e ts

def suffixes : (steps : Nat) → Expr → List Token → Option (Parsed Expr)
  | 0, _, _ => none
  | n + 1, e, ts => match ts with
    | .field x :: ts =>
      let (optional, ts) := mark ts
      suffixes n (e.field x optional) ts
    | .symbol "." :: .quote :: ts => do
      let (key, ts) ← text n "text" ts
      let (optional, ts) := mark ts
      suffixes n (.index e key optional) ts
    | .symbol "." :: .format f :: .quote :: ts => do
      let (key, ts) ← text n f ts
      let (optional, ts) := mark ts
      suffixes n (.index e key optional) ts
    | .symbol "." :: .symbol "[" :: ts => do
      let (e, ts) ← selection n e ts
      suffixes n e ts
    | .symbol "[" :: ts => do
      let (e, ts) ← selection n e ts
      suffixes n e ts
    | .symbol "?" :: ts => suffixes n (.quiet e) ts
    | ts => some (e, ts)

def selection : (steps : Nat) → Expr → List Token → Option (Parsed Expr)
  | 0, _, _ => none
  | n + 1, e, ts => match ts with
    | .symbol "]" :: ts =>
      let (optional, ts) := mark ts
      some (.iterate e optional, ts)
    | .symbol ":" :: ts => do
      let (stop, ts) ← query n ts
      let (optional, ts) := mark (← symbol "]" ts)
      return (.slice e (.literal .null) stop optional, ts)
    | ts => do
      let (key, ts) ← query n ts
      match ts with
      | .symbol ":" :: .symbol "]" :: ts =>
        let (optional, ts) := mark ts
        return (.slice e key (.literal .null) optional, ts)
      | .symbol ":" :: ts =>
        let (stop, ts) ← query n ts
        let (optional, ts) := mark (← symbol "]" ts)
        return (.slice e key stop optional, ts)
      | ts =>
        let (optional, ts) := mark (← symbol "]" ts)
        return (.index e key optional, ts)

def primary : (steps : Nat) → List Token → Option (Parsed Expr)
  | 0, _ => none
  | n + 1, ts => match ts with
    | .field x :: ts =>
      let (optional, ts) := mark ts
      some (Expr.field .identity x optional, ts)
    | .symbol "." :: .quote :: ts => do
      let (key, ts) ← text n "text" ts
      let (optional, ts) := mark ts
      return (.index .identity key optional, ts)
    | .symbol "." :: .format f :: .quote :: ts => do
      let (key, ts) ← text n f ts
      let (optional, ts) := mark ts
      return (.index .identity key optional, ts)
    | .symbol "." :: ts => some (.identity, ts)
    | .symbol ".." :: ts => some (.call "recurse" [], ts)
    | .number d :: ts => some (.literal (.number (.ofDecimal d)), ts)
    | .quote :: ts => text n "text" ts
    | .format f :: .quote :: ts => text n f ts
    | .format f :: ts => some (.format f, ts)
    | .binding x :: ts => some (.variable x, ts)
    | .keyword "break" :: .binding x :: ts => some (.leave x, ts)
    | .symbol "(" :: ts => do
      let (e, ts) ← query n ts
      return (e, ← symbol ")" ts)
    | .symbol "[" :: .symbol "]" :: ts => some (Expr.emptyArray, ts)
    | .symbol "[" :: ts => do
      let (e, ts) ← query n ts
      return (.collect e, ← symbol "]" ts)
    | .symbol "\x7b" :: ts => members n Expr.emptyObject ts
    | .keyword "if" :: ts => condition n ts
    | .keyword "reduce" :: ts => do
      let (source, ts) ← term n ts
      let (ps, ts) ← patterns n (← keyword "as" ts)
      let (start, ts) ← query n (← symbol "(" ts)
      let (update, ts) ← query n (← symbol ";" ts)
      return (Expr.reduceParts source ps start update, ← symbol ")" ts)
    | .keyword "foreach" :: ts => do
      let (source, ts) ← term n ts
      let (ps, ts) ← patterns n (← keyword "as" ts)
      let (start, ts) ← query n (← symbol "(" ts)
      let (update, ts) ← query n (← symbol ";" ts)
      match ts with
      | .symbol ";" :: ts =>
        let (extract, ts) ← query n ts
        return (Expr.scanParts source ps start update extract, ← symbol ")" ts)
      | ts => return (Expr.scanParts source ps start update .identity, ← symbol ")" ts)
    | .word f :: .symbol "(" :: ts => do
      let (es, ts) ← arguments n ts
      return (.call f es, ts)
    | .word x :: ts => some (ofWord x, ts)
    | _ => none

def arguments : (steps : Nat) → List Token → Option (Parsed (List Expr))
  | 0, _ => none
  | n + 1, ts => do
    let (e, ts) ← query n ts
    match ts with
    | .symbol ";" :: ts =>
      let (es, ts) ← arguments n ts
      return (e :: es, ts)
    | ts => return ([e], ← symbol ")" ts)

/-- A condition and its branches; a missing last one leaves the input as it is. -/
def condition : (steps : Nat) → List Token → Option (Parsed Expr)
  | 0, _ => none
  | n + 1, ts => do
    let (test, ts) ← query n ts
    let (yes, ts) ← query n (← keyword "then" ts)
    match ts with
    | .keyword "elif" :: ts =>
      let (no, ts) ← condition n ts
      return (.condition test yes no, ts)
    | .keyword "else" :: ts =>
      let (no, ts) ← query n ts
      return (.condition test yes no, ← keyword "end" ts)
    | ts => return (.condition test yes .identity, ← keyword "end" ts)

def text : (steps : Nat) → (formatName : String) → List Token → Option (Parsed Expr)
  | 0, _, _ => none
  | n + 1, f, ts => do
    let (ps, ts) ← textParts n ts
    return (Expr.ofParts f ps, ts)

def textParts : (steps : Nat) → List Token → Option (Parsed (List TextPart))
  | 0, _ => none
  | n + 1, ts => match ts with
    | .unquote :: ts => some ([], ts)
    | .chars s :: ts => do
      let (ps, ts) ← textParts n ts
      match ps with
      | .plain r :: ps => return (.plain (s ++ r) :: ps, ts)
      | ps => return (.plain s :: ps, ts)
    | .inner :: ts => do
      let (e, ts) ← query n ts
      let (ps, ts) ← textParts n (← symbol ")" ts)
      return (.query e :: ps, ts)
    | _ => none

def members : (steps : Nat) → Expr → List Token → Option (Parsed Expr)
  | 0, _, _ => none
  | n + 1, e, ts => match ts with
    | .symbol "\x7d" :: ts => some (e, ts)
    | ts => do
      let (e, ts) ← member n e ts
      match ts with
      | .symbol "," :: ts => members n e ts
      | ts => return (e, ← symbol "\x7d" ts)

def member : (steps : Nat) → Expr → List Token → Option (Parsed Expr)
  | 0, _, _ => none
  | n + 1, e, ts => do
    let named (key : Expr) (short : Expr) (ts : List Token) : Option (Parsed Expr) :=
      match symbol ":" ts with
      | none => some (short, ts)
      | some ts => (memberValue n ts).map fun (v, ts) => (.insert e key v, ts)
    match ts with
    | .word x :: ts => named (.text x) (.insert e (.text x) (Expr.field .identity x false)) ts
    | .keyword x :: ts =>
      let (v, ts) ← memberValue n (← symbol ":" ts)
      return (.insert e (.text x) v, ts)
    | .binding x :: ts => named (.variable x) (.insert e (.text x) (.variable x)) ts
    | .quote :: ts =>
      let (key, ts) ← text n "text" ts
      named key (.insertField e key) ts
    | .format f :: .quote :: ts =>
      let (key, ts) ← text n f ts
      named key (.insertField e key) ts
    | .symbol "(" :: ts =>
      let (key, ts) ← query n ts
      let (v, ts) ← memberValue n (← symbol ":" (← symbol ")" ts))
      if key.canBeKey then return (.insert e key v, ts) else none
    | _ => none

def memberValue : (steps : Nat) → List Token → Option (Parsed Expr)
  | 0, _ => none
  | n + 1, ts => do
    let (e, ts) ← operation n 0 ts
    match ts with
    | .symbol "|" :: ts =>
      let (f, ts) ← memberValue n ts
      return (.pipe e f, ts)
    | ts => return (e, ts)

def patterns : (steps : Nat) → List Token → Option (Parsed (List Pattern))
  | 0, _ => none
  | n + 1, ts => do
    let (p, ts) ← pattern n ts
    match ts with
    | .symbol "?//" :: ts =>
      let (ps, ts) ← patterns n ts
      return (p :: ps, ts)
    | ts => return ([p], ts)

def pattern : (steps : Nat) → List Token → Option (Parsed Pattern)
  | 0, _ => none
  | n + 1, ts => match ts with
    | .binding x :: ts => some (.name x, ts)
    | .symbol "[" :: ts => do
      let (ps, ts) ← patternItems n ts
      return (.items ps, ts)
    | .symbol "\x7b" :: ts => do
      let (ms, ts) ← patternMembers n ts
      return (.members ms, ts)
    | _ => none

def patternItems : (steps : Nat) → List Token → Option (Parsed (List Pattern))
  | 0, _ => none
  | n + 1, ts => do
    let (p, ts) ← pattern n ts
    match ts with
    | .symbol "," :: ts =>
      let (ps, ts) ← patternItems n ts
      return (p :: ps, ts)
    | ts => return ([p], ← symbol "]" ts)

def patternMembers : (steps : Nat) → List Token →
    Option (Parsed (List (Option String × Expr × Option Pattern)))
  | 0, _ => none
  | n + 1, ts => do
    let (m, ts) ← patternMember n ts
    match ts with
    | .symbol "," :: ts =>
      let (ms, ts) ← patternMembers n ts
      return (m :: ms, ts)
    | ts => return ([m], ← symbol "\x7d" ts)

def patternMember : (steps : Nat) → List Token →
    Option (Parsed (Option String × Expr × Option Pattern))
  | 0, _ => none
  | n + 1, ts => do
    let keyed (key : Expr) (ts : List Token) :
        Option (Parsed (Option String × Expr × Option Pattern)) := do
      let (p, ts) ← pattern n (← symbol ":" ts)
      return ((none, key, some p), ts)
    match ts with
    | .binding x :: .symbol ":" :: ts =>
      let (p, ts) ← pattern n ts
      return ((some x, .text x, some p), ts)
    | .binding x :: ts => return ((some x, .text x, none), ts)
    | .word x :: ts => keyed (.text x) ts
    | .keyword x :: ts => keyed (.text x) ts
    | .quote :: ts =>
      let (key, ts) ← text n "text" ts
      keyed key ts
    | .format f :: .quote :: ts =>
      let (key, ts) ← text n f ts
      keyed key ts
    | .symbol "(" :: ts =>
      let (key, ts) ← query n ts
      if key.canBeKey then keyed key (← symbol ")" ts) else none
    | _ => none

end

/-- How deeply the rules of the grammar can be nested for so many tokens. -/
def steps (tokens : Nat) : Nat := 16 * (tokens + 2)

end Grammar

def Expr.ofTokens? (ts : List Token) : Option Expr :=
  match Grammar.query (Grammar.steps ts.length) ts with
  | some (e, []) => some e
  | _ => none

end HostSnapshot.Query
