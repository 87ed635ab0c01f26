import HostSnapshot.Query.Syntax

namespace HostSnapshot.Query

structure Scope where
  functions : List (String × Nat)
  bindings : List String
  labels : List String

namespace Scope

def withFunction (s : Scope) (name : String) (arity : Nat) : Scope :=
  { s with functions := (name, arity) :: s.functions }

def withParameters (s : Scope) (names : List String) : Scope :=
  { s with functions := names.map (·, 0) ++ s.functions }

def withVariable (s : Scope) (name : String) : Scope :=
  { s with bindings := name :: s.bindings }

def withLabel (s : Scope) (name : String) : Scope := { s with labels := name :: s.labels }

end Scope

namespace Expr

mutual

/-- Whether all names in a query are known. -/
def isClosed (s : Scope) : Expr → Bool
  | identity | literal _ | format _ | nothing | raise | builtin _ => true
  | builtinOne _ a => a.isClosed s
  | builtinTwo _ a b => a.isClosed s && b.isClosed s
  | .variable x => s.bindings.contains x
  | index t k _ => t.isClosed s && k.isClosed s
  | slice t a b _ => t.isClosed s && a.isClosed s && b.isClosed s
  | iterate t _ => t.isClosed s
  | collect e => e.isClosed s
  | insert o k v => o.isClosed s && k.isClosed s && v.isClosed s
  | insertField o k => o.isClosed s && k.isClosed s
  | negate e => e.isClosed s
  | pipe a b => a.isClosed s && b.isClosed s
  | comma a b => a.isClosed s && b.isClosed s
  | binary _ a b => a.isClosed s && b.isClosed s
  | both a b => a.isClosed s && b.isClosed s
  | either a b => a.isClosed s && b.isClosed s
  | default a b => a.isClosed s && b.isClosed s
  | condition c t e => c.isClosed s && t.isClosed s && e.isClosed s
  | quiet e => e.isClosed s
  | rescue e h => e.isClosed s && h.isClosed s
  | retry a b => a.isClosed s && b.isClosed s
  | reduce e x i u => e.isClosed s && i.isClosed s && u.isClosed (s.withVariable x)
  | scan e x i u o =>
    e.isClosed s && i.isClosed s && u.isClosed (s.withVariable x) && o.isClosed (s.withVariable x)
  | bind e x b => e.isClosed s && b.isClosed (s.withVariable x)
  | define f ps d r =>
    let known := s.withFunction f ps.length
    d.isClosed (known.withParameters ps) && r.isClosed known
  | call f es => s.functions.contains (f, es.length) && areClosed s es
  | label x b => b.isClosed (s.withLabel x)
  | leave x => s.labels.contains x
  | paths e => e.isClosed s
  | atPath e => e.isClosed s
  | range a b => a.isClosed s && b.isClosed s

def areClosed (s : Scope) : List Expr → Bool
  | [] => true
  | e :: es => e.isClosed s && areClosed s es

end

end Expr

end HostSnapshot.Query
