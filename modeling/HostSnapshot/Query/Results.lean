import HostSnapshot.Query.Dump

namespace HostSnapshot.Query

/-- A label, told apart from others with its name by where it was set. -/
structure Label where
  level : Nat
  depth : Nat
deriving DecidableEq, Repr

/-- Why a query emits no more, other than that it is done. -/
inductive Stop
  | error (e : Value)
  | left (label : Label)
  | tooDeep

inductive Results (α : Type)
  | done
  | one (a : α)
  | stop (s : Stop)
  | emit (a : α) (rest : Unit → Results α)

namespace Results

variable {α β γ : Type}

def append : Results α → (Unit → Results α) → Results α
  | done, next => next ()
  | one a, next => emit a next
  | stop s, _ => stop s
  | emit a rest, next => emit a fun _ => (rest ()).append next

def map (f : α → β) : Results α → Results β
  | done => done
  | one a => one (f a)
  | stop s => stop s
  | emit a rest => emit (f a) fun _ => (rest ()).map f

def bind : Results α → (α → Results β) → Results β
  | done, _ => done
  | one a, f => f a
  | stop s, _ => stop s
  | emit a rest, f => (f a).append fun _ => (rest ()).bind f

def ofAnswer : Answer α → Results α
  | .ok a => one a
  | .error e => stop (.error e)

def ofList : List α → Results α
  | [] => done
  | [a] => one a
  | a :: as => emit a fun _ => ofList as

def ofExcept : Except Stop α → Results α
  | .ok a => one a
  | .error s => stop s

def fold (f : β → α → Except Stop β) : Results α → β → Except Stop β
  | done, b => .ok b
  | one a, b => f b a
  | stop s, _ => .error s
  | emit a rest, b => match f b a with
    | .ok b => (rest ()).fold f b
    | .error s => .error s

def toList (r : Results α) : Except Stop (List α) :=
  (r.fold (fun as a => .ok (a :: as)) []).map List.reverse

def last? (r : Results α) : Except Stop (Option α) := r.fold (fun _ a => .ok (some a)) none

/-- What follows from each thing, and then what follows from the last one. -/
def drain (output : α → Results β) : Results α → Option α → (Option α → Results β) → Results β
  | done, last, next => next last
  | one a, _, next => (output a).append fun _ => next (some a)
  | stop s, _, _ => stop s
  | emit a rest, _, next => (output a).append fun _ => (rest ()).drain output (some a) next

/-- Carries a state along: each thing leads to new states, and each of them to what is emitted. The
last of the new states is carried on. -/
def scan (step : β → α → Results β) (output : α → β → Results γ) (missing : β) :
    Results α → β → Results γ
  | done, _ => done
  | one a, b => (step b a).bind (output a)
  | stop s, _ => stop s
  | emit a rest, b => (step b a).drain (output a) none fun last =>
      (rest ()).scan step output missing (last.getD missing)

/-- Without errors, and without leaving. -/
def quiet : Results α → Results α
  | done => done
  | one a => one a
  | stop .tooDeep => stop .tooDeep
  | stop _ => done
  | emit a rest => emit a fun _ => (rest ()).quiet

/-- Goes on from an error. -/
def rescue (handle : Value → Results α) : Results α → Results α
  | done => done
  | one a => one a
  | stop (.error e) => handle e
  | stop s => stop s
  | emit a rest => emit a fun _ => (rest ()).rescue handle

def catchLabel (label : Label) : Results α → Results α
  | done => done
  | one a => one a
  | stop (.left l) => if l = label then done else stop (.left l)
  | stop s => stop s
  | emit a rest => emit a fun _ => (rest ()).catchLabel label

/-- What satisfies `p`, or something else if nothing does. -/
def orElse (p : α → Bool) (found : Bool) : Results α → (Unit → Results α) → Results α
  | done, other => if found then done else other ()
  | one a, other => if p a then one a else if found then done else other ()
  | stop s, _ => stop s
  | emit a rest, other =>
    if p a then emit a fun _ => (rest ()).orElse p true other else (rest ()).orElse p found other

end Results

end HostSnapshot.Query
