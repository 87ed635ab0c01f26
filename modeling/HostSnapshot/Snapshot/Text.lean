import HostSnapshot.Json.Printer
import HostSnapshot.Query.Run
import HostSnapshot.Snapshot.Mapping
import HostSnapshot.Traced

namespace HostSnapshot

/-- A value as an answer: texts as they are, whole numbers without a fraction, and anything that
has parts as compact JSON. -/
def Json.answer : Json → String
  | .str s => s
  | .float x => match Number.integer? x with
    | some n => String.ofList (Json.intChars n)
    | none => match Number.Layout.plain.text? x with
      | some cs => String.ofList cs
      -- There is no layout for what is not finite.
      | none => if x.isNaN then "nan" else if x < 0 then "-inf" else "inf"
  | v => v.render .compact

def queryExpression (path : String) : String := "." ++ path

def Snapshot.query (s : Snapshot) (path : String) : Traced String :=
  let expression := queryExpression path
  match Query.run expression ((s.dump.map Json.obj).mapError Fault.message) with
  | .error problem => throw (.query expression problem)
  | .ok values => do
    Traced.log .trace "query" s!"{expression} -> {values.length} values"
    return String.join (values.map Json.answer)

namespace Scalar

def isFirst (c : Char) : Bool := Text.isNameStart c || c == '/'

def isInner (c : Char) : Bool :=
  Text.isWord c || c == '.' || c == '/' || c == '@' || c == '+' || c == '-'

def isLater (c : Char) : Bool := isInner c || c == '(' || c == ')'

/-- Words with single spaces between them, the first of which starts like a name or a path. -/
def isPlain (s : List Char) : Bool :=
  match Text.pieces (· == ' ') s with
  | (c :: w) :: ws => isFirst c && w.all isInner && ws.all fun w => !w.isEmpty && w.all isLater
  | _ => false

def reserved : List String := ["true", "false", "yes", "no", "on", "off", "null", "y", "n"]

/-- Whether a text stands without quotes; a line feed may end it. -/
def standsBare (s : String) : Bool :=
  let cs := s.toList
  -- The end of the pattern also fits before a last line feed.
  (isPlain cs || (cs.getLast? = some '\n' && isPlain cs.dropLast)) &&
    !reserved.contains (lowered s)

end Scalar

def Json.scalar : Json → String
  | .str s => if Scalar.standsBare s then s else Json.render .compact (.str s)
  | v => Json.render .spaced v

/-- A line of the rendering: how deep it stands, its key, and its leaf if it has one. -/
structure TextLine where
  depth : Nat
  key : String
  leaf : Option Json

namespace Json

/-- What stands on the line of a key; an object with members has lines of its own. -/
def leaf? : Json → Option Json
  | .obj (_ :: _) => none
  | v => some v

mutual

def textLines (depth : Nat) : Json → List TextLine
  | .obj ms => memberLines depth ms
  | _ => []

def memberLines (depth : Nat) : List (String × Json) → List TextLine
  | [] => []
  | (key, v) :: ms =>
    ⟨depth, key, v.leaf?⟩ :: textLines (depth + 1) v ++ memberLines depth ms

end

end Json

/-- What writes leaves: it works, it fails with a message, or there is none. -/
inductive LeafWriter
  | plain
  | failing (message : String)
  | missing
deriving DecidableEq, Repr

/-- Why there is no rendering: the writer of leaves fails, or an integer cannot be written. -/
inductive Unrendered
  | writer (message : String)
  | integer (cause : Text.Integer.Malformed)
deriving DecidableEq, Repr

def LeafWriter.write : LeafWriter → Json → Except Unrendered String
  | plain, v => if v.isWritable then .ok v.scalar else .error (.integer .tooLarge)
  | failing message, _ => .error (.writer message)
  | missing, _ => .error (.writer "No filter named 'scalar' found.")

def TextLine.write (writer : LeafWriter) (l : TextLine) : Except Unrendered String := do
  let head := String.ofList (List.replicate (4 * l.depth) ' ') ++ l.key ++ ":"
  match l.leaf with
  | none => return head ++ "\n"
  | some v => return head ++ " " ++ (← writer.write v) ++ "\n"

def Json.Members.textBy (writer : LeafWriter) (ms : Json.Members) : Except Unrendered String :=
  ((Json.memberLines 0 ms).mapM (TextLine.write writer)).map String.join

/-- The rendering of a snapshot; nothing with a note if the writer fails. -/
def Snapshot.render (writer : LeafWriter) (s : Snapshot) : Traced String := do
  let ms ← Traced.ofExcept s.dump
  match ms.textBy writer with
  | .ok text => return text
  | .error (.writer message) => do
    Traced.log .error "render" s!"cannot render snapshot: {message}"
    return ""
  | .error (.integer m) => throw (.malformedInteger m)

end HostSnapshot
