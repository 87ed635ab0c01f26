import HostSnapshot.Fault
import HostSnapshot.Query.Builtin
import HostSnapshot.Query.Env
import HostSnapshot.Query.Evaluate
import HostSnapshot.Query.Grammar
import HostSnapshot.Query.Regex.Match
import HostSnapshot.Query.Scope

namespace HostSnapshot.Query.Library

def argument (name : String) : Expr := .call name []

/-- Functions that are no operations on values. -/
def primitives : List (String × List String × Expr) := [
  ("empty", [], .nothing),
  ("error", [], .raise),
  ("path", ["f"], .paths (argument "f")),
  ("getpath", ["path"], .atPath (argument "path")),
  ("range", ["start", "stop"], .range (argument "start") (argument "stop")),
  ("nan", [], .literal (.ofFloat (0.0 / 0.0))),
  ("infinite", [], .literal (.ofFloat (1.0 / 0.0)))]

def operations : List (String × (Value → Answer Value)) := [
  ("not", fun v => .ok (.bool !v.isTruthy)),
  ("type", fun v => .ok (.text v.kind)),
  ("length", Value.length),
  ("utf8bytelength", Value.byteLength),
  ("keys", Value.keysValue),
  ("keys_unsorted", Value.keysUnsortedValue),
  ("tostring", fun v => .ok (.text v.plainText)),
  ("tojson", fun v => .ok v.toJsonText),
  ("fromjson", Value.fromJsonText),
  ("tonumber", Value.toNumber),
  ("explode", Value.explode),
  ("implode", Value.implode),
  ("floor", Value.ofReal Float.floor),
  ("ceil", Value.ofReal Float.ceil),
  ("round", Value.ofReal Float.round),
  ("sqrt", Value.ofReal Float.sqrt),
  ("isnan", Value.testReal Float.isNaN),
  ("isinfinite", Value.testReal Float.isInf),
  ("isnormal", Value.testReal Value.isNormal),
  ("sort", Value.sort),
  ("unique", Value.unique),
  ("min", fun v => v.minBy v),
  ("max", fun v => v.maxBy v),
  ("trim", Value.trimmed (Value.dropBack ∘ Value.dropFront)),
  ("ltrim", Value.trimmed Value.dropFront),
  ("rtrim", Value.trimmed Value.dropBack)]

def operationsOne : List (String × (Value → Value → Answer Value)) := [
  ("has", Value.hasKey),
  ("contains", Value.containsValue),
  ("startswith", Value.startsWith),
  ("endswith", Value.endsWith),
  ("split", Value.split),
  ("delpaths", Value.deletePaths),
  ("_positions", Value.textPositions),
  ("_sort_by", Value.sortBy),
  ("_group_by", Value.groupBy),
  ("_unique_by", Value.uniqueBy),
  ("_min_by", Value.minBy),
  ("_max_by", Value.maxBy)]

def operationsTwo : List (String × (Value → Value → Value → Answer Value)) := [
  ("pow", Value.power),
  ("setpath", Value.setPathValue),
  ("_matches", Regex.allMatches),
  ("_has_match", Regex.test)]

/-- Functions that are queries themselves. Each one can use those before it. -/
def definitions : List String := [
  "map(f): [.[] | f]",
  "select(f): if f then . else empty end",
  "recurse(f): def r: ., (f | r); r",
  "recurse(f; more): def r: ., (f | select(more) | r); r",
  "recurse: recurse(.[]?)",
  "error(message): message | error",
  "values: select(. != null)",
  "nulls: select(. == null)",
  "booleans: select(type == \"boolean\")",
  "numbers: select(type == \"number\")",
  "strings: select(type == \"string\")",
  "arrays: select(type == \"array\")",
  "objects: select(type == \"object\")",
  "iterables: select(type | . == \"array\" or . == \"object\")",
  "scalars: select(type | . != \"array\" and . != \"object\")",
  "finites: select(isinfinite or isnan | not)",
  "normals: select(isnormal)",
  "toarray: if type == \"array\" then . else [.] end",
  "abs: if . < 0 then - . else . end",
  "add(f): reduce f as $x (null; . + $x)",
  "add: add(.[])",
  "range($n): range(0; $n)",
  "while(more; f): def r: if more then ., (f | r) else empty end; r",
  "until(done; f): def r: if done then . else (f | r) end; r",
  "repeat(f): def r: ., (f | r); r",
  "range($start; $stop; $by):
    if $by > 0 then $start | while(. < $stop; . + $by)
    elif $by < 0 then $start | while(. > $stop; . + $by)
    else empty end",
  "first(f): label $out | f | ., break $out",
  "first: .[0]",
  "last(f): reduce f as $x ([]; [$x]) | .[]",
  "last: .[-1]",
  "isempty(f): label $out | (f | false, break $out), true",
  "any(f; test): isempty(first(f | test or empty)) | not",
  "any(test): any(.[]; test)",
  "any: any(.)",
  "all(f; test): isempty(first(f | test and empty))",
  "all(test): all(.[]; test)",
  "all: all(.)",
  "limit($n; f):
    if $n > 0 then
      label $out | foreach f as $x (0; . + 1; $x, if . >= $n then break $out else empty end)
    elif $n == 0 then empty
    else error(\"limit doesn't support negative count\") end",
  "skip($n; f):
    if $n > 0 then foreach f as $x ($n; . - 1; if . < 0 then $x else empty end)
    elif $n == 0 then f
    else error(\"skip doesn't support negative count\") end",
  "nth($n): .[$n]",
  "nth($n; f):
    if $n < 0 then error(\"nth doesn't support negative indices\") else first(skip($n; f)) end",
  "in(whole): . as $x | whole | has($x)",
  "inside(whole): . as $x | whole | contains($x)",
  "IN(f): any(f == .; .)",
  "IN(f; g): any(f == g; .)",
  "sort_by(f): _sort_by(map([f]))",
  "group_by(f): _group_by(map([f]))",
  "unique_by(f): _unique_by(map([f]))",
  "min_by(f): _min_by(map([f]))",
  "max_by(f): _max_by(map([f]))",
  "paths: path(..) | select(length > 0)",
  "paths(test): . as $x | paths | select(. as $p | $x | getpath($p) | test)",
  "leaf_paths: paths(scalars)",
  "del(f): delpaths([path(f)])",
  "pick(f): . as $x | reduce path(f) as $p (null; setpath($p; $x | getpath($p)))",
  "_assign(f; $x): reduce path(f) as $p (.; setpath($p; $x))",
  "_modify(f; update):
    reduce path(f) as $p ([., []];
      . as [$x, $gone]
      | [first($x | getpath($p) | update)] as $new
      | if $new == [] then [$x, $gone + [$p]] else [($x | setpath($p; $new[0])), $gone] end)
    | . as [$x, $gone] | $x | delpaths($gone)",
  "map_values(f): .[] |= f",
  "walk(f):
    def r:
      if type == \"object\" then map_values(r) elif type == \"array\" then map(r) else . end | f;
    r",
  "to_entries: [keys_unsorted[] as $k | \x7bkey: $k, value: .[$k]\x7d]",
  "from_entries:
    reduce .[] as $x (\x7b\x7d;
      . + \x7b(
        $x | if .key == null then .k // .name // .Name // .K // .Key else .key end
        | if type == \"string\" then . else tojson end
      ): ($x | if has(\"value\") then .value elif has(\"v\") then .v else .Value end)\x7d)",
  "with_entries(f): to_entries | map(f) | from_entries",
  "INDEX(rows; f): reduce rows as $row (\x7b\x7d; .[$row | f | tostring] |= $row)",
  "INDEX(f): INDEX(.[]; f)",
  "reverse:
    if type == \"string\" then explode | reverse | implode
    else [.[length - 1 - range(0; length)]] end",
  "_flatten($depth):
    reduce .[] as $x ([];
      if ($x | type == \"array\") and $depth != 0 then . + ($x | _flatten($depth - 1))
      else . + [$x] end)",
  "flatten($depth):
    if $depth < 0 then error(\"flatten depth must not be negative\") else _flatten($depth) end",
  "flatten: _flatten(-1)",
  "transpose: [range(0; map(length) | max // 0) as $i | [.[][$i]]]",
  "combinations:
    if length == 0 then []
    else .[0][] as $x | (.[1:] | combinations) as $rest | [$x] + $rest end",
  "combinations(n): . as $x | [range(n)] | map($x) | combinations",
  "join($separator):
    reduce .[] as $x (null;
      (if . == null then \"\" else . + $separator end)
      + ($x | if . == null then \"\" elif type == \"boolean\" or type == \"number\" then tojson
              else . end)) // \"\"",
  "indices($x):
    if type == \"array\" and ($x | type) == \"array\" then .[$x]
    elif type == \"array\" then .[[$x]]
    else _positions($x) end",
  "index($x): indices($x) | .[0]",
  "rindex($x): indices($x) | .[-1:][0]",
  "ascii_downcase: explode | map(if 65 <= . and . <= 90 then . + 32 else . end) | implode",
  "ascii_upcase: explode | map(if 97 <= . and . <= 122 then . - 32 else . end) | implode",
  "ltrimstr($x): if startswith($x) then .[($x | length):] else . end",
  "rtrimstr($x): if endswith($x) then .[:length - ($x | length)] else . end",
  "trimstr($x): ltrimstr($x) | rtrimstr($x)",
  "tostream:
    path(def r: (.[]? | r), .; r) as $p
    | getpath($p) | reduce path(.[]?) as $q ([$p, .]; [$p + $q])",
  "fromstream(events):
    [null, false] as $start
    | foreach events as $event ($start;
        if .[1] then $start else . end
        | if $event | length == 2 then
            setpath([1]; $event[0] | length == 0) | setpath([0] + $event[0]; $event[1])
          else setpath([1]; $event[0] | length == 1) end;
        if .[1] then .[0] else empty end)",
  "truncate_stream(events):
    . as $n | null | events
    | if (.[0] | length) > $n then setpath([0]; .[0][$n:]) else empty end",
  "_regex:
    type as $kind
    | if $kind == \"string\" then [., null]
      elif $kind == \"array\" and length > 0 then [.[0], .[1]]
      else error($kind + \" not a string or array\") end",
  "_named:
    reduce (.captures[] | select(.name != null)) as $group (\x7b\x7d;
      setpath([$group.name]; $group.string))",
  "match(regex; flags): _matches(regex; flags) | .[]",
  "match($x): ($x | _regex) as [$regex, $flags] | match($regex; $flags)",
  "test(regex; flags): _has_match(regex; flags)",
  "test($x): ($x | _regex) as [$regex, $flags] | test($regex; $flags)",
  "capture(regex; flags): match(regex; flags) | _named",
  "capture($x): ($x | _regex) as [$regex, $flags] | capture($regex; $flags)",
  "scan($regex; $flags):
    match($regex; \"g\" + $flags)
    | if .captures | length > 0 then [.captures[].string] else .string end",
  "scan($regex): scan($regex; null)",
  "split($regex; flags):
    . as $s
    | [foreach (match($regex; flags + \"g\"), null) as $m ([0, null];
        if $m == null then [.[0], $s[.[0]:]]
        else [$m.offset + $m.length, $s[.[0]:$m.offset]] end;
        .[1])]",
  "splits($regex; flags): split($regex; flags) | .[]",
  "splits($regex): splits($regex; null)",
  "sub($regex; f; $flags):
    . as $s
    | (reduce match($regex; $flags) as $m ([[], 0];
        $s[.[1]:$m.offset] as $gap
        | [$m | _named | f] as $new
        | reduce range(0; $new | length) as $i (.; .[0][$i] += $gap + $new[$i])
        | .[1] = $m.offset + $m.length)
      | .[0][] + $s[.[1]:])
      // $s",
  "sub($regex; f): sub($regex; f; \"\")",
  "gsub($regex; f; $flags): sub($regex; f; $flags + \"g\")",
  "gsub($regex; f): sub($regex; f; \"g\")"]

def define (env : Env) (definition : String) : Env :=
  match (Token.ofChars? ("def " ++ definition ++ "; .").toList).bind Expr.ofTokens? with
  | some (.define name parameters e _) => .function name parameters e env
  | _ => env

def env : Env :=
  let env := primitives.foldl (fun env (name, xs, e) => .function name xs e env) .empty
  let env := operations.foldl (fun env (name, f) => .function name [] (.builtin f) env) env
  let env := operationsOne.foldl (fun env (name, f) =>
    .function name ["x"] (.builtinOne f (argument "x")) env) env
  let env := operationsTwo.foldl (fun env (name, f) =>
    .function name ["x", "y"] (.builtinTwo f (argument "x") (argument "y")) env) env
  definitions.foldl define env

end HostSnapshot.Query.Library

namespace HostSnapshot.Query

def Expr.ofText? (s : String) : Option Expr := do
  let e ← Expr.ofTokens? (← Token.ofChars? s.toList)
  if e.isClosed ⟨Library.env.functions, [], []⟩ then some e else none

def errorMessage : Value → String
  | .text s => s
  | v => v.toJson.render .spaced

def Stop.message : Stop → String
  | error e => errorMessage e
  | left _ => "break"
  | tooDeep => "calls are nested too deeply"

def maxCalls : Nat := 1048576

/-- All that a query emits for an input, which has to be there and to be one that can be written. -/
def run (expression : String) (input : Except String Json) : Except QueryProblem (List Json) :=
  match Expr.ofText? expression, input with
  | none, _ => .error .compile
  | some _, .error reason => .error (.run reason)
  | some e, .ok input =>
    if !input.isWritable then .error (.run Text.Integer.Malformed.tooLarge.message)
    else match (Expr.run maxCalls Library.env e (.ofValue (.ofJson input))).toList with
      | .ok items => .ok (items.map fun x => x.value.toJson)
      | .error stop => .error (.run stop.message)

end HostSnapshot.Query
