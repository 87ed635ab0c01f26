import HostSnapshot.Query.Dump

namespace HostSnapshot.Query

inductive Operator
  | add
  | subtract
  | multiply
  | divide
  | remainder
  | equal
  | notEqual
  | less
  | lessOrEqual
  | greater
  | greaterOrEqual
deriving DecidableEq, Repr

inductive Expr
  | identity
  | literal (v : Value)
  | variable (name : String)
  /-- What a key of a term selects; if optional, a key that does not fit is no error. -/
  | index (term key : Expr) (optional : Bool)
  | slice (term start stop : Expr) (optional : Bool)
  | iterate (term : Expr) (optional : Bool)
  | collect (e : Expr)
  | insert (object key value : Expr)
  | insertField (object key : Expr)
  | negate (e : Expr)
  | pipe (first second : Expr)
  | comma (first second : Expr)
  | binary (op : Operator) (left right : Expr)
  | both (left right : Expr)
  | either (left right : Expr)
  /-- What the left emits that counts as true, or else what the right emits. -/
  | default (left right : Expr)
  | condition (test yes no : Expr)
  | quiet (body : Expr)
  | rescue (body handler : Expr)
  /-- What the first emits, and from an error on what the second does. -/
  | retry (first second : Expr)
  | reduce (source : Expr) (name : String) (start update : Expr)
  | scan (source : Expr) (name : String) (start update extract : Expr)
  | bind (source : Expr) (name : String) (body : Expr)
  | define (name : String) (parameters : List String) (definition rest : Expr)
  | call (name : String) (arguments : List Expr)
  | label (name : String) (body : Expr)
  | leave (name : String)
  | format (name : String)
  | paths (e : Expr)
  /-- What a path selects, as a selection. -/
  | atPath (path : Expr)
  | range (start stop : Expr)
  | nothing
  | raise
  | builtin (f : Value → Answer Value)
  | builtinOne (f : Value → Value → Answer Value) (argument : Expr)
  | builtinTwo (f : Value → Value → Value → Answer Value) (first second : Expr)

instance : Inhabited Expr := ⟨.identity⟩

namespace Expr

def text (s : String) : Expr := .literal (.text s)

def field (term : Expr) (name : String) (optional : Bool) : Expr :=
  .index term (text name) optional

def emptyObject : Expr := .literal .emptyObject

def emptyArray : Expr := .literal (.array [])

def isConstant : Expr → Bool
  | literal _ => true
  | collect e => isConstant e
  | comma e f => isConstant e && isConstant f
  | insert o k v => isConstant o && isConstant k && isConstant v
  | _ => false

/-- Whether a query can be a key of an object, as far as its spelling tells. -/
def canBeKey : Expr → Bool
  | literal (.text _) => true
  | comma _ _ => true
  | e => !e.isConstant

end Expr

inductive TextPart
  | plain (s : String)
  | query (e : Expr)

def Expr.ofParts (formatName : String) (parts : List TextPart) : Expr :=
  match parts with
  | [] => Expr.text ""
  | [.plain s] => Expr.text s
  | parts => parts.foldl (fun e part =>
      .binary .add e (match part with
        | .plain s => Expr.text s
        | .query q => .pipe q (.format formatName))) (Expr.text "")

inductive Pattern
  | name (x : String)
  | items (ps : List Pattern)
  /-- Members by key. A key may be given a name as well. -/
  | members (ms : List (Option String × Expr × Option Pattern))

namespace Pattern

mutual

def names : Pattern → List String
  | name x => [x]
  | items ps => itemNames ps
  | members ms => memberNames ms

def itemNames : List Pattern → List String
  | [] => []
  | p :: ps => names p ++ itemNames ps

def memberNames : List (Option String × Expr × Option Pattern) → List String
  | [] => []
  | (x, _, none) :: ms => x.toList ++ memberNames ms
  | (x, _, some p) :: ms => x.toList ++ names p ++ memberNames ms

end

/-- A name that no query can spell. -/
def hidden (depth : Nat) : String := toString depth

mutual

/-- A query in which the parts of the value with the name `source` have their names. Values in
between get hidden names, counted by `depth`. -/
def bindParts (source : Expr) (depth : Nat) (body : Expr) : Pattern → Expr
  | name x => .bind source x body
  | items ps => .bind source (hidden depth) (bindItems (hidden depth) (depth + 1) 0 body ps)
  | members ms => .bind source (hidden depth) (bindMembers (hidden depth) (depth + 1) body ms)

def bindItems (whole : String) (depth position : Nat) (body : Expr) : List Pattern → Expr
  | [] => body
  | p :: ps =>
    let item := .index (.variable whole) (.literal (.number (.ofInt position))) false
    bindParts item depth (bindItems whole (depth + 1) (position + 1) body ps) p

def bindMembers (whole : String) (depth : Nat) (body : Expr) :
    List (Option String × Expr × Option Pattern) → Expr
  | [] => body
  | (x, key, p) :: ms =>
    let rest := bindMembers whole (depth + 2) body ms
    let member := Expr.pipe (.variable whole) (.index .identity (.variable (hidden depth)) false)
    let inner := match p with
      | none => rest
      | some p => bindParts member (depth + 1) rest p
    let named := match x with
      | none => inner
      | some x => .bind member x inner
    .bind (.pipe (.variable whole) key) (hidden depth) named

end

def unbound (body : Expr) (patterns : List Pattern) : Expr :=
  (patterns.flatMap names).foldr (fun x e => .bind (.literal .null) x e) body

/-- Tries patterns one after the other until one leads to no error. -/
def bindFirst (source : Expr) (body : Expr) : List Pattern → Expr
  | [] => body
  | [p] => bindParts source 1 body p
  | p :: ps => .retry (bindParts source 1 body p) (bindFirst source body ps)

end Pattern

namespace Expr

/-- A query in which parts of what the source emits have names. With several patterns the first one
that leads to no error counts. -/
def destructure (source : Expr) (patterns : List Pattern) (body : Expr) : Expr :=
  match patterns with
  | [p] => p.bindParts source 0 body
  | ps => .bind source (Pattern.hidden 0)
      (Pattern.unbound (Pattern.bindFirst (.variable (Pattern.hidden 0)) body ps) ps)

/-- A source of single values: what patterns name is put into an array. -/
def tuples (source : Expr) (patterns : List Pattern) : Expr × (Expr → Expr) × String :=
  match patterns with
  | [.name x] => (source, id, x)
  | ps =>
    let names := (ps.flatMap Pattern.names).eraseDups
    let whole := Pattern.hidden 0
    let tuple := names.map Expr.variable
    let joined := match tuple with
      | [] => emptyArray
      | e :: es => .collect (es.foldl .comma e)
    (destructure source ps joined,
      fun body => Pattern.bindItems whole 1 0 body (names.map .name), whole)

def reduceParts (source : Expr) (patterns : List Pattern) (start update : Expr) : Expr :=
  let (source, named, x) := tuples source patterns
  .reduce source x start (named update)

def scanParts (source : Expr) (patterns : List Pattern) (start update extract : Expr) : Expr :=
  let (source, named, x) := tuples source patterns
  .scan source x start (named update) (named extract)

/-- Replaces what the left selects by what an operator makes of it and of each value on the
right. -/
def update (combine : Expr → Expr → Expr) (left right : Expr) : Expr :=
  let x := Pattern.hidden 0
  .bind right x (.call "_modify" [left, combine .identity (.variable x)])

end Expr

end HostSnapshot.Query
