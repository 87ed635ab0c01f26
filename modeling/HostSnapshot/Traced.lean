import HostSnapshot.Fault

namespace HostSnapshot

inductive Level
  | trace
  | debug
  | info
  | warning
  | error
deriving DecidableEq, Repr

namespace Level

def name : Level → String
  | trace => "TRACE"
  | debug => "DEBUG"
  | info => "INFO"
  | warning => "WARNING"
  | error => "ERROR"

def severity : Level → Nat
  | trace => 5
  | debug => 10
  | info => 20
  | warning => 30
  | error => 40

end Level

inductive Event
  /-- A command that was run, and the directory in which it ran. -/
  | ran (command : List String) (directory : String)
  | logged (level : Level) (source : String) (message : String)
deriving DecidableEq, Repr

structure Traced (α : Type) where
  outcome : Except Fault α
  events : List Event

namespace Traced

instance : Monad Traced where
  pure a := ⟨.ok a, []⟩
  bind x f := match x.outcome with
    | .error e => ⟨.error e, x.events⟩
    | .ok a => ⟨(f a).outcome, x.events ++ (f a).events⟩

instance : MonadExceptOf Fault Traced where
  throw e := ⟨.error e, []⟩
  tryCatch x handle := match x.outcome with
    | .ok a => ⟨.ok a, x.events⟩
    | .error e => ⟨(handle e).outcome, x.events ++ (handle e).events⟩

def ofExcept (x : Except Fault α) : Traced α := ⟨x, []⟩

def log (level : Level) (source message : String) : Traced Unit :=
  ⟨.ok (), [.logged level source message]⟩

def debug (source message : String) : Traced Unit := log .debug source message

def ran (command : List String) (directory : String) : Traced Unit :=
  ⟨.ok (), [.ran command directory]⟩

/-- What was read, or a default with a note if what went wrong is forgiven. -/
def orDefault (isForgiven : Fault → Bool) (source note : String) (default : α) :
    Except Fault α → Traced α
  | .ok a => return a
  | .error e =>
    if isForgiven e then do
      debug source s!"{note}: {e.message}"
      return default
    else throw e

def calls (x : Traced α) : List (List String × String) :=
  x.events.filterMap fun
    | .ran command directory => some (command, directory)
    | .logged .. => none

@[simp] theorem outcome_pure (a : α) : (pure a : Traced α).outcome = .ok a := rfl

theorem bind_of_ok {x : Traced α} {a : α} (h : x.outcome = .ok a) (f : α → Traced β) :
    x >>= f = ⟨(f a).outcome, x.events ++ (f a).events⟩ := by
  simp only [bind, h]

theorem bind_of_error {x : Traced α} {e : Fault} (h : x.outcome = .error e) (f : α → Traced β) :
    x >>= f = ⟨.error e, x.events⟩ := by
  simp only [bind, h]

section OrDefault

variable {isForgiven : Fault → Bool} {source note : String} {default : α} {x : Except Fault α}
  {e : Fault}

theorem outcome_orDefault_of_ok {a : α} (h : x = .ok a) :
    (orDefault isForgiven source note default x).outcome = .ok a := by
  rw [h]
  rfl

theorem outcome_orDefault_of_isForgiven (h : x = .error e) (he : isForgiven e = true) :
    (orDefault isForgiven source note default x).outcome = .ok default := by
  rw [h, orDefault, if_pos he]
  rfl

theorem outcome_orDefault_of_not_isForgiven (h : x = .error e)
    (he : ¬ isForgiven e = true) :
    (orDefault isForgiven source note default x).outcome = .error e := by
  rw [h, orDefault, if_neg he]
  rfl

end OrDefault

end Traced

end HostSnapshot
