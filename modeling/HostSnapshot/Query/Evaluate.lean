import HostSnapshot.Query.Access
import HostSnapshot.Query.Env
import HostSnapshot.Query.Format

namespace HostSnapshot.Query

open Results (ofAnswer)

def Operator.apply : Operator → Value → Value → Answer Value
  | .add, v, w => v.add w
  | .subtract, v, w => v.subtract w
  | .multiply, v, w => v.multiply w
  | .divide, v, w => v.divide w
  | .remainder, v, w => v.remainder w
  | .equal, v, w => .ok (.bool (v.compare w = .eq))
  | .notEqual, v, w => .ok (.bool (v.compare w ≠ .eq))
  | .less, v, w => .ok (.bool (v.compare w = .lt))
  | .lessOrEqual, v, w => .ok (.bool (v.compare w ≠ .gt))
  | .greater, v, w => .ok (.bool (v.compare w = .gt))
  | .greaterOrEqual, v, w => .ok (.bool (v.compare w ≠ .lt))

namespace Item

def answer (x : Item) (a : Answer Value) : Results Item := ofAnswer (a.map x.computed)

def refuse (message : String) : Results α := ofAnswer (Answer.refuse message)

def shownKeyBytes : Nat := 14

def index (optional : Bool) (key : Value) (x : Item) : Results Item :=
  if !x.isOnPath then
    refuse <| "Invalid path expression near attempt to access element " ++
      s!"{key.short shownKeyBytes} of {x.value.short Value.shownBytes}"
  else match x.value.index key with
    | .ok v => .one (x.selected [key] v)
    | .error e => if optional then .done else .stop (.error e)

def each (optional : Bool) (x : Item) : Results Item :=
  if !x.isOnPath then
    refuse <| "Invalid path expression near attempt to iterate through " ++
      x.value.short Value.shownBytes
  else match x.value.parts? with
    | some parts => .ofList (parts.map fun (key, v) => x.selected [key] v)
    | none => if optional then .done else refuse s!"Cannot iterate over {x.value.describe}"

def refusePath (x : Item) : Results α :=
  refuse s!"Invalid path expression with result {x.value.short Value.shownBytes}"

def atPath (path : Value) (x : Item) : Results Item :=
  match Value.pathOf path with
  | .error e => .stop (.error e)
  | .ok keys => match x.value.getPath keys with
    | .error e => .stop (.error e)
    | .ok v => if x.isOnPath then .one (x.selected keys v) else refusePath x

/-- The path to what was selected. -/
def pathTo (x : Item) (selected : Item) : Results Item :=
  match selected.trail with
  | some t => if t.isSelected then .one (x.computed (.array t.path)) else refusePath selected
  | none => refusePath selected

def insert (x : Item) (object key v : Value) : Results Item :=
  match object, key with
  | .object members, .text k => .one (x.computed (.object (Members.set members k v)))
  | _, key => refuse s!"Cannot use {key.describe} as object key"

/-- The numbers from one to below another in steps of one, of which there are so many. -/
def countUp (stop : Float) (x : Item) : (steps : Nat) → Float → Results Item
  | 0, _ => .done
  | steps + 1, n =>
    if n < stop then .emit (x.computed (.ofFloat n)) fun _ => countUp stop x steps (n + 1)
    else .done

def longestCount : Nat := 9007199254740992

def range (x : Item) (start stop : Value) : Results Item :=
  match start, stop with
  | .number a, .number b =>
    if a.value < b.value then
      .emit (x.computed (.number a)) fun _ => countUp b.value x longestCount (a.value + 1)
    else .done
  | _, _ => refuse "Range bounds must be numeric"

end Item

namespace Expr

def isIdentity : Expr → Bool
  | identity => true
  | _ => false

variable (call : Env → Expr → Item → Results Item) (level : Nat)

/-- What a query emits at an item. Functions are called by `call`, and labels that are set here are
told from others by `level`. -/
def evaluate : Expr → Env → Item → Results Item
  | identity, _, x => .one x
  | literal v, _, x => .one (x.computed v)
  | .variable name, env, x => match env.itemOf? name with
    | some y => .one (y.placedAt x.trail)
    | none => .done
  | index term key optional, env, x =>
    (evaluate key env x.untraced).bind fun k =>
    (evaluate term env x).bind (Item.index optional k.value)
  | slice term start stop optional, env, x =>
    (evaluate start env x.untraced).bind fun a =>
    (evaluate stop env x.untraced).bind fun b =>
    (evaluate term env x).bind (Item.index optional (Slice.key a.value b.value))
  | iterate term optional, env, x => (evaluate term env x).bind (Item.each optional)
  | collect e, env, x => match (evaluate e env x).toList with
    | .ok ys => .one (x.computed (.array (ys.map Item.value)))
    | .error s => .stop s
  | insert object key value, env, x =>
    (evaluate object env x.untraced).bind fun o =>
    (evaluate key env x.untraced).bind fun k =>
    (evaluate value env x.untraced).bind fun v => x.insert o.value k.value v.value
  | insertField object key, env, x =>
    (evaluate object env x.untraced).bind fun o =>
    (evaluate key env x.untraced).bind fun k =>
    (x.untraced.index false k.value).bind fun v => x.insert o.value k.value v.value
  | negate e, env, x => (evaluate e env x).bind fun y => y.answer y.value.negate
  | pipe first second, env, x => (evaluate first env x).bind (evaluate second env)
  | comma first second, env, x => (evaluate first env x).append fun _ => evaluate second env x
  | binary op left right, env, x =>
    (evaluate right env x.untraced).bind fun r =>
    (evaluate left env x.untraced).bind fun l => x.answer (op.apply l.value r.value)
  | both left right, env, x =>
    (evaluate left env x.untraced).bind fun l =>
      if l.value.isTruthy then
        (evaluate right env x.untraced).map fun r => x.computed (.bool r.value.isTruthy)
      else .one (x.computed (.bool false))
  | either left right, env, x =>
    (evaluate left env x.untraced).bind fun l =>
      if l.value.isTruthy then .one (x.computed (.bool true))
      else (evaluate right env x.untraced).map fun r => x.computed (.bool r.value.isTruthy)
  | default left right, env, x =>
    (evaluate left env x).orElse (·.value.isTruthy) false fun _ => evaluate right env x
  | condition test yes no, env, x =>
    (evaluate test env x.untraced).bind fun t =>
      if t.value.isTruthy then evaluate yes env x else evaluate no env x
  | quiet body, env, x => (evaluate body env x).quiet
  | rescue body handler, env, x =>
    (evaluate body env x).rescue fun e => evaluate handler env (x.computed e)
  | retry first second, env, x => (evaluate first env x).rescue fun _ => evaluate second env x
  | reduce source name start update, env, x =>
    (evaluate start env x).bind fun first =>
      let step (state y : Item) : Except Stop Item :=
        (evaluate update (.variable name y env) (state.placedAt y.trail)).last?.map
          fun last => last.getD (.ofValue .null)
      .ofExcept (((evaluate source env (x.placedAt first.trail)).fold step first).map
        (·.placedAt first.trail))
  | scan source name start update extract, env, x =>
    (evaluate start env x).bind fun first =>
      (evaluate source env (x.placedAt first.trail)).scan
        (fun state y => evaluate update (.variable name y env) (state.placedAt y.trail))
        (fun y state => evaluate extract (.variable name y env) state)
        (.ofValue .null) first
  | bind source name body, env, x =>
    (evaluate source env (if source.isIdentity then x else x.untraced)).bind fun y =>
      evaluate body (.variable name y env) x
  | define name parameters definition rest, env, x =>
    evaluate rest (.function name parameters definition env) x
  | .call name arguments, env, x => match Env.calleeOf? env name arguments env with
    | some (env, e) => call env e x
    | none => .done
  | label name body, env, x =>
    let l : Label := ⟨level, env.depth⟩
    (evaluate body (.label name l env) x).catchLabel l
  | leave name, env, _ => match env.labelOf? name with
    | some l => .stop (.left l)
    | none => .done
  | format name, _, x => x.answer (Format.write name x.value)
  | paths e, env, x => (evaluate e env (.root x.value)).bind x.pathTo
  | atPath path, env, x =>
    (evaluate path env x.untraced).bind fun p => x.atPath p.value
  | range start stop, env, x =>
    (evaluate start env x.untraced).bind fun a =>
    (evaluate stop env x.untraced).bind fun b => x.range a.value b.value
  | nothing, _, _ => .done
  | raise, _, x => .stop (.error x.value)
  | builtin f, _, x => x.answer (f x.value)
  | builtinOne f argument, env, x =>
    (evaluate argument env x.untraced).bind fun a => x.answer (f x.value a.value)
  | builtinTwo f first second, env, x =>
    (evaluate second env x.untraced).bind fun b =>
    (evaluate first env x.untraced).bind fun a => x.answer (f x.value a.value b.value)

/-- What a query emits with calls that are at most so deep. -/
def run : (fuel : Nat) → Env → Expr → Item → Results Item
  | 0, _, _, _ => .stop .tooDeep
  | fuel + 1, env, e, x => evaluate (run fuel) fuel e env x

end Expr

end HostSnapshot.Query
